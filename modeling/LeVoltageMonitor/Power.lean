import LeVoltageMonitor.Consistency

/- The sensor power pin. Only start_Sensor_power_timer raises it and only my_timer_callback
   lowers it: stop has its clear commented out and the completion handler never touches it. -/

set_option autoImplicit false

namespace LeVoltageMonitor

def Call.sleeptimerStatus : Call → Option Bool
  | .sleeptimerStartTimer statusOk => some statusOk
  | _ => none

def lastSleeptimerStatus (calls : List Call) : Option Bool :=
  (calls.filterMap Call.sleeptimerStatus).getLast?

theorem step_keeps_power {s s' : Monitor} {event : Event} (idle : s.sleeptimers = 0)
    (noStart : ∀ statusOk, event ≠ .startNext statusOk) (stepped : step s event = some s') :
    s'.sensorPower = s.sensorPower ∧ s'.sleeptimers = 0 := by
  rcases step_cases stepped with ⟨statusOk, rfl, -, -⟩ | ⟨-, -, rfl⟩ | ⟨word, -, -, -, rfl⟩ |
    ⟨-, -, rfl⟩ | ⟨-, pending, -⟩ | ⟨-, rfl⟩
  · exact absurd rfl (noStart statusOk)
  · exact ⟨rfl, idle⟩
  · simp [idle]
  · exact ⟨rfl, idle⟩
  · exact absurd idle pending
  · exact ⟨rfl, idle⟩

theorem exec_keeps_power {s s' : Monitor} (events : List Event) (idle : s.sleeptimers = 0)
    (noStart : ∀ statusOk, Event.startNext statusOk ∉ events) (run : exec s events = some s') :
    s'.sensorPower = s.sensorPower := by
  induction events generalizing s with
  | nil => cases run; rfl
  | cons event rest ih =>
    simp only [exec, Option.bind_eq_some] at run
    obtain ⟨next, stepped, restRun⟩ := run
    obtain ⟨power, idle'⟩ :=
      step_keeps_power idle (fun statusOk same => noStart statusOk (same ▸ List.mem_cons_self _ _)) stepped
    rw [ih idle' (fun statusOk member => noStart statusOk (List.mem_cons_of_mem _ member)) restRun, power]

/-- A successful start can leave the sensor powered with nothing pending, as a failed one does. -/
theorem sensor_left_powered_by_lost_timer :
    ∃ s, exec (leVoltageMonitorInit (fun _ => ldmaDescriptor) fun _ => 0)
        [.startNext true, .hardware .frameReused, .hardware .sleeptimerFire] = some s ∧
      lastSleeptimerStatus s.calls = some true ∧ s.sensorPower = true ∧ s.sleeptimers = 0 ∧
      (∀ events last, (∀ statusOk, Event.startNext statusOk ∉ events) → exec s events = some last →
        last.sensorPower = true) ∧
      ∃ failed, exec (leVoltageMonitorInit (fun _ => ldmaDescriptor) fun _ => 0) [.startNext false] =
        some failed ∧ lastSleeptimerStatus failed.calls = some false ∧ failed.sensorPower = true ∧
        failed.sleeptimers = 0 :=
  ⟨_, rfl, rfl, rfl, rfl, fun events _ noStart run => exec_keeps_power events rfl noStart run,
    _, rfl, rfl, rfl, rfl⟩

end LeVoltageMonitor

import LeVoltageMonitor.App

set_option autoImplicit false

namespace LeVoltageMonitor

section Shutdown

variable (ids : GattIds)

theorem signal_in_flight_restarts_sampling_after_close :
    ∃ closed restarted,
      appExec ids (appInit (fun _ => ldmaDescriptor) fun _ => 0)
        (.radio (.gattServerCharacteristicStatus 0 ids.avgVoltageData ids.clientConfig (ids.disable + 1)) true ::
          ((List.replicate (numOfSamples + 1) 1).map Hardware.convert ++ [Hardware.ldmaIrq]).map
            AppEvent.hardware ++ [.radio (.connectionClosed 0) true]) = some closed ∧
      appStep ids closed (.signal true) = some restarted ∧
      restarted.monitor.startedSampling = true ∧ restarted.monitor.letimerEnabled = true ∧
      restarted.monitor.calls = closed.monitor.calls ++ [.gpioPinOutSet, .sleeptimerStartTimer true] ∧
      restarted.notifications.length = closed.notifications.length + 1 := by
  obtain ⟨s, run, -, idle, pending, signals, -⟩ :=
    first_session_completes ids _ (enable_event_enables ids) (List.replicate (numOfSamples + 1) 1)
      (by simp) (fun _ _ => True) (fun _ _ => trivial) trivial
  have closeStep : appStep ids s (.radio (.connectionClosed 0) true) =
      some { s with monitor := leVoltageMonitorStop s.monitor } := by
    simp [appStep, pending, slBtOnEvent]
  refine ⟨{ s with monitor := leVoltageMonitorStop s.monitor },
    slBtOnEvent ids true { s with monitor := { leVoltageMonitorStop s.monitor with externalSignals := 0 } }
      (.systemExternalSignal s.monitor.externalSignals),
    by rw [app_exec_append, run, Option.some_bind, app_exec_cons_of_step ids _ closeStep]; rfl,
    app_signal_step ids true _ (by simp [stop_eq, pending]) (ne_zero_of_le_monitor_signal signals), ?_⟩
  rw [signal_event_reads ids true _ _ signals]
  simp [stop_eq, start_next_idle]

def AppQuiet (s : App) : Prop :=
  s.monitor.startedSampling = false ∧ s.monitor.letimerEnabled = false ∧ s.monitor.ldmaDone = false ∧
    s.monitor.externalSignals = 0

theorem stops_not_enables (evt : BtEvent) (stops : evt.stopsSampling ids = true) :
    evt.enablesNotifications ids = false := by
  cases evt <;> simp_all [BtEvent.stopsSampling, BtEvent.enablesNotifications]

theorem app_quiet_step {s s' : App} {event : AppEvent} (quiet : AppQuiet s) (stepped : appStep ids s event = some s')
    (noEnable : ∀ evt statusOk, event = .radio evt statusOk → evt.enablesNotifications ids = false) :
    AppQuiet s' ∧ s'.notifications = s.notifications ∧
      ∃ added, s'.monitor.calls = s.monitor.calls ++ added ∧ Call.gpioPinOutSet ∉ added := by
  obtain ⟨idle, stopped, pending, signals⟩ := quiet
  rcases app_step_cases ids stepped with ⟨evt, statusOk, rfl, radio, -, rfl⟩ |
    ⟨statusOk, rfl, -, waiting, -⟩ | ⟨h, monitor, rfl, moved, rfl⟩
  · obtain ⟨monitorEq, notificationsEq⟩ := radio_event_monitor ids statusOk s evt radio
    rw [noEnable evt statusOk rfl, if_neg Bool.false_ne_true] at monitorEq
    refine ⟨?_, notificationsEq, [], ?_, List.not_mem_nil _⟩
    · unfold AppQuiet
      rw [monitorEq]
      split_ifs <;> simp [stop_eq, idle, stopped, pending, signals]
    · rw [monitorEq]
      split_ifs <;> simp [stop_eq]
  · exact absurd signals waiting
  · rcases step_cases moved with ⟨_, ⟨⟩, -⟩ | ⟨⟨⟩, -⟩ | ⟨word, same, -, timed, -⟩ |
      ⟨same, done, -⟩ | ⟨same, -, rfl⟩ | ⟨same, rfl⟩
    · simp [stopped] at timed
    · simp [pending] at done
    · rw [sleeptimer_expire_eq]
      cases held : s.monitor.myTimerHeld
      · exact ⟨⟨idle, stopped, pending, signals⟩, rfl, [], by simp [held], List.not_mem_nil _⟩
      · exact ⟨⟨idle, stopped, pending, signals⟩, rfl, [.gpioPinOutClear], by simp [held], by simp⟩
    · exact ⟨⟨idle, stopped, pending, signals⟩, rfl, [], by simp, List.not_mem_nil _⟩

theorem app_quiet_exec (events : List AppEvent) {s last : App} (quiet : AppQuiet s) (run : appExec ids s events = some last)
    (noEnable : ∀ evt statusOk, AppEvent.radio evt statusOk ∈ events → evt.enablesNotifications ids = false) :
    AppQuiet last ∧ last.notifications = s.notifications ∧
      ∃ added, last.monitor.calls = s.monitor.calls ++ added ∧ Call.gpioPinOutSet ∉ added := by
  induction events generalizing s with
  | nil => cases run; exact ⟨quiet, rfl, [], by simp, List.not_mem_nil _⟩
  | cons event rest ih =>
    simp only [appExec, Option.bind_eq_some] at run
    obtain ⟨next, stepped, restRun⟩ := run
    obtain ⟨quiet', notified, added, calls, noSet⟩ := app_quiet_step ids quiet stepped
      fun evt statusOk same => noEnable evt statusOk (same ▸ List.mem_cons_self _ _)
    obtain ⟨quiet'', notified', added', calls', noSet'⟩ := ih quiet' restRun
      fun evt statusOk member => noEnable evt statusOk (List.mem_cons_of_mem _ member)
    exact ⟨quiet'', notified'.trans notified, added ++ added', by rw [calls', calls, List.append_assoc],
      by simp [noSet, noSet']⟩

/-- A stop with no signal waiting holds until the next notifications-enabled event. -/
theorem stop_without_signal_keeps_sampling_off (s closed last : App) (evt : BtEvent) (statusOk : Bool)
    (events : List AppEvent) (stops : evt.stopsSampling ids = true)
    (noSignal : s.monitor.externalSignals = 0) (handled : appStep ids s (.radio evt statusOk) = some closed)
    (noEnable : ∀ evt' statusOk', AppEvent.radio evt' statusOk' ∈ events →
      evt'.enablesNotifications ids = false)
    (run : appExec ids closed events = some last) :
    last.monitor.startedSampling = false ∧ last.monitor.letimerEnabled = false ∧
      last.notifications = closed.notifications ∧
      ∃ added, last.monitor.calls = closed.monitor.calls ++ added ∧ Call.gpioPinOutSet ∉ added := by
  rcases app_step_cases ids handled with ⟨evt, statusOk, same, radio, pending, rfl⟩ |
    ⟨_, nope, -⟩ | ⟨_, _, nope, -⟩
  · cases same
    obtain ⟨monitorEq, -⟩ := radio_event_monitor ids statusOk s evt radio
    rw [if_neg (by simp [stops_not_enables ids evt stops]), if_pos stops] at monitorEq
    have quiet : AppQuiet (slBtOnEvent ids statusOk s evt) := by
      simp [AppQuiet, monitorEq, stop_eq, pending, noSignal]
    obtain ⟨⟨idle, stopped, -⟩, notified, calls⟩ := app_quiet_exec ids events quiet run noEnable
    exact ⟨idle, stopped, notified, calls⟩
  · cases nope
  · cases nope

end Shutdown

theorem stop_without_signal_keeps_sampling_off_mid_session :
    let ids : GattIds := { avgVoltageData := 21, clientConfig := 1, disable := 0 }
    let boot := appInit (fun _ => ldmaDescriptor) fun _ => 0
    let started : List AppEvent :=
      [.radio (.gattServerCharacteristicStatus 0 21 1 1) true, .hardware (.convert 1)]
    let s := (appExec ids boot started).getD boot
    let closed := slBtOnEvent ids true s (.connectionClosed 0)
    let events : List AppEvent := [.radio (.connectionOpened 3) true, .hardware .sleeptimerFire]
    let last := (appExec ids closed events).getD closed
    appExec ids boot started = some s ∧ s.monitor.startedSampling = true ∧ s.monitor.moved.length = 1 ∧
      (BtEvent.connectionClosed 0).stopsSampling ids = true ∧ s.monitor.externalSignals = 0 ∧
      appStep ids s (.radio (.connectionClosed 0) true) = some closed ∧
      (∀ evt' statusOk', AppEvent.radio evt' statusOk' ∈ events →
        evt'.enablesNotifications ids = false) ∧
      appExec ids closed events = some last ∧
      (last.monitor.startedSampling = false ∧ last.monitor.letimerEnabled = false ∧
      last.notifications = closed.notifications ∧
      ∃ added, last.monitor.calls = closed.monitor.calls ++ added ∧ Call.gpioPinOutSet ∉ added) := by
  intro ids boot started s closed events last
  have noEnable : ∀ evt' statusOk', AppEvent.radio evt' statusOk' ∈ events →
      evt'.enablesNotifications ids = false := by
    intro evt' statusOk' member
    simp only [events, List.mem_cons, AppEvent.radio.injEq, List.mem_singleton, reduceCtorEq, or_false,
      List.not_mem_nil] at member
    rw [member.1]
    rfl
  have opened : appExec ids boot started = some s := rfl
  have quiet : s.monitor.externalSignals = 0 := by decide
  have handled : appStep ids s (.radio (.connectionClosed 0) true) = some closed := rfl
  have run : appExec ids closed events = some last := rfl
  exact ⟨opened, by decide, by decide, rfl, quiet, handled, noEnable, run,
    stop_without_signal_keeps_sampling_off ids s closed last (.connectionClosed 0) true events rfl quiet
      handled noEnable run⟩

end LeVoltageMonitor

import LeVoltageMonitor.App

set_option autoImplicit false

namespace LeVoltageMonitor

theorem average_read_during_new_session :
    let ids : GattIds := { avgVoltageData := 21, clientConfig := 1, disable := 0 }
    ∃ s s', AppReachable ids s ∧ appStep ids s (.signal true) = some s' ∧
      s.monitor.externalSignals &&& leMonitorSignal ≠ 0 ∧
      s.monitor.startedSampling = true ∧ s.monitor.channel.sessionArmed = true := by
  intro ids
  obtain ⟨s, -, reach, idle, pending, signals, -⟩ :=
    first_session_completes ids _ (enable_event_enables ids) (List.replicate (numOfSamples + 1) 1)
      (by simp) (fun _ _ => True) (fun _ _ => trivial) trivial
  have enableStep : appStep ids s (.radio (.gattServerCharacteristicStatus 0 21 1 1) true) =
      some { s with monitor := leVoltageMonitorStartNext true s.monitor } := by
    simp [appStep, pending, slBtOnEvent, ids]
  have restarted := start_next_idle s.monitor true idle
  refine ⟨_, _, .step _ reach trivial enableStep,
    app_signal_step ids true _ (by simp [pending]) (ne_zero_of_le_monitor_signal (by simpa using signals)), ?_⟩
  simp [restarted, signals, Channel.load, Channel.sessionArmed]

section Notify

variable (ids : GattIds)

-- No notifications-enabled event is handled while a signal waits for the stack.
def Unraced (s : App) : AppEvent → Prop
  | .radio evt _ => s.monitor.externalSignals ≠ 0 → evt.enablesNotifications ids = false
  | _ => True

def CompletedSession (s : Monitor) : Prop :=
  s.externalSignals ≠ 0 → s.startedSampling = false ∧ s.channel.sessionArmed = false ∧
    s.moved.length = numOfSamples + 1 ∧ ∀ i < numOfSamples + 1, s.samplingBuffer i = s.moved.getD i 0

theorem completed_session_step {s s' : App} {event : AppEvent} (consistent : Consistent s.monitor)
    (record : SessionRecord s.monitor) (completed : CompletedSession s.monitor)
    (unraced : Unraced ids s event) (stepped : appStep ids s event = some s') :
    CompletedSession s'.monitor := by
  rcases app_step_cases ids stepped with ⟨evt, statusOk, rfl, radio, -, rfl⟩ |
    ⟨statusOk, rfl, -, -, rfl⟩ | ⟨h, monitor, rfl, moved, rfl⟩
  · rw [CompletedSession, (radio_event_monitor ids statusOk s evt radio).1]
    by_cases waiting : s.monitor.externalSignals = 0
    · split_ifs <;> simp [stop_eq, waiting]
    · rw [if_neg (by simp [unraced waiting])]
      split_ifs
      · simpa [stop_eq, waiting] using (completed waiting).2.2
      · exact fun _ => completed waiting
  · by_cases reads : s.monitor.externalSignals &&& leMonitorSignal = 0
    · rw [signal_event_ignores ids statusOk _ _ reads]
      exact fun waiting => absurd rfl waiting
    · rw [signal_event_reads ids statusOk _ _ reads]
      exact fun waiting => absurd (by simp) waiting
  · rcases step_cases moved with ⟨_, ⟨⟩, -⟩ | ⟨⟨⟩, -⟩ | ⟨word, same, -, timed, rfl⟩ |
      ⟨same, done, rfl⟩ | ⟨same, -, rfl⟩ | ⟨same, rfl⟩
    · intro waiting
      have idle := (completed (by simpa using waiting)).1
      simp [consistent.letimer, idle] at timed
    · intro _
      obtain ⟨length, written⟩ := record.done done
      exact ⟨rfl, by simpa [ldma_irq_handler_eq] using consistent.doneAfterSession done, length, written⟩
    · rw [sleeptimer_expire_eq]
      exact completed
    · exact completed

theorem Reach.completed_session {s : App} (reach : Reach ids (Unraced ids) s) :
    CompletedSession s.monitor := by
  induction reach with
  | init neighbours ram => exact fun waiting => absurd rfl waiting
  | step event previous unraced stepped ih =>
    exact completed_session_step ids (previous.consistent ids).1 (previous.consistent ids).2 ih
      unraced stepped

/-- Short of the enable race, the signal branch notifies the average of the completed session. -/
theorem notified_average_of_completed_session (s s' : App) (statusOk : Bool)
    (reach : Reach ids (Unraced ids) s) (handled : appStep ids s (.signal statusOk) = some s')
    (reads : s.monitor.externalSignals &&& leMonitorSignal ≠ 0) :
    s.monitor.startedSampling = false ∧ s.monitor.channel.sessionArmed = false ∧
    numOfSamples ≤ s.monitor.moved.length ∧
    s'.notifications = s.notifications ++ [Notification.mk s.connectionHandle ids.avgVoltageData
      (voltBufOf (leVoltageMonitorGetAverageMv fun i => s.monitor.moved.getD i 0))] := by
  have waiting := ne_zero_of_le_monitor_signal reads
  obtain ⟨idle, unarmed, length, written⟩ := reach.completed_session ids waiting
  refine ⟨idle, unarmed, by omega, ?_⟩
  rcases app_step_cases ids handled with ⟨_, _, nope, -⟩ | ⟨_, same, -, -, rfl⟩ | ⟨_, _, nope, -⟩
  · cases nope
  · cases same
    rw [signal_event_reads ids statusOk _ _ reads,
      get_average_mv_congr _ _ fun i below => written i (Nat.lt_succ_of_lt below)]
  · cases nope

end Notify

theorem notified_average_of_completed_session_after_first_session :
    let ids : GattIds := { avgVoltageData := 21, clientConfig := 1, disable := 0 }
    ∃ s s', Reach ids (Unraced ids) s ∧ appStep ids s (.signal true) = some s' ∧
      s.monitor.externalSignals &&& leMonitorSignal ≠ 0 ∧
      (s.monitor.startedSampling = false ∧ s.monitor.channel.sessionArmed = false ∧
      numOfSamples ≤ s.monitor.moved.length ∧
      s'.notifications = s.notifications ++ [Notification.mk s.connectionHandle ids.avgVoltageData
        (voltBufOf (leVoltageMonitorGetAverageMv fun i => s.monitor.moved.getD i 0))]) := by
  intro ids
  obtain ⟨s, -, reach, -, pending, reads, -⟩ :=
    first_session_completes ids _ (enable_event_enables ids) (List.replicate (numOfSamples + 1) 1)
      (by simp) (Unraced ids) (fun _ _ => trivial) fun waiting => absurd rfl waiting
  have handled := app_signal_step ids true s pending (ne_zero_of_le_monitor_signal reads)
  exact ⟨s, _, reach, handled, reads, notified_average_of_completed_session ids s _ true reach handled reads⟩

end LeVoltageMonitor

import LeVoltageMonitor.Notify

set_option autoImplicit false

namespace LeVoltageMonitor

section Stream

variable (ids : GattIds)

theorem radio_event_frame (statusOk : Bool) (s : App) (evt : BtEvent)
    (radio : ∀ signals, evt ≠ .systemExternalSignal signals) :
    (slBtOnEvent ids statusOk s evt).monitor.samplingBuffer = s.monitor.samplingBuffer ∧
    (slBtOnEvent ids statusOk s evt).monitor.externalSignals = s.monitor.externalSignals ∧
    (slBtOnEvent ids statusOk s evt).notifications = s.notifications := by
  obtain ⟨monitorEq, notificationsEq⟩ := radio_event_monitor ids statusOk s evt radio
  rw [monitorEq]
  refine ⟨?_, ?_, notificationsEq⟩ <;> split_ifs <;> simp [stop_eq]

theorem enable_at_boot (ram : Nat → UInt32) :
    appStep { avgVoltageData := 21, clientConfig := 1, disable := 0 } (appInit (fun _ => ldmaDescriptor) ram)
      (.radio (.gattServerCharacteristicStatus 0 21 1 1) true) =
      some (slBtOnEvent { avgVoltageData := 21, clientConfig := 1, disable := 0 } true
        (appInit (fun _ => ldmaDescriptor) ram) (.gattServerCharacteristicStatus 0 21 1 1)) :=
  rfl

-- A session's conversions, its completion interrupt and the delivery of LE_MONITOR_SIGNAL.
def sessionCycle (words : List UInt32) (statusOk : Bool) : List AppEvent :=
  (words.map Hardware.convert ++ [Hardware.ldmaIrq]).map AppEvent.hardware ++ [.signal statusOk]

theorem signal_restarts_sampling {s : App} (reach : AppReachable ids s)
    (stopped : s.monitor.startedSampling = false) (pending : s.monitor.ldmaDone = false)
    (waiting : s.monitor.externalSignals &&& leMonitorSignal ≠ 0) (statusOk : Bool) :
    ∃ s', appStep ids s (.signal statusOk) = some s' ∧ AppReachable ids s' ∧
      s'.monitor.startedSampling = true ∧ s'.monitor.moved = [] ∧ s'.monitor.ldmaDone = false ∧
      s'.connectionHandle = s.connectionHandle ∧
      s'.notifications = s.notifications ++ [Notification.mk s.connectionHandle ids.avgVoltageData
        (voltBufOf (leVoltageMonitorGetAverageMv s.monitor.samplingBuffer))] := by
  have signalStep := app_signal_step ids statusOk s pending (ne_zero_of_le_monitor_signal waiting)
  rw [signal_event_reads ids statusOk _ _ waiting] at signalStep
  have restarted := start_next_idle { s.monitor with externalSignals := 0 } statusOk stopped
  exact ⟨_, signalStep, .step _ reach trivial signalStep, by simp [restarted], by simp [restarted],
    by simpa [restarted] using pending, rfl, rfl⟩

theorem session_rest_cycle {s : App} (reach : AppReachable ids s) (started : s.monitor.startedSampling = true)
    (pending : s.monitor.ldmaDone = false) (words : List UInt32) (statusOk : Bool)
    (length : s.monitor.moved.length + words.length = numOfSamples + 1) :
    ∃ s', appExec ids s (sessionCycle words statusOk) = some s' ∧ AppReachable ids s' ∧
      s'.monitor.startedSampling = true ∧ s'.monitor.moved = [] ∧ s'.monitor.ldmaDone = false ∧
      s'.connectionHandle = s.connectionHandle ∧
      s'.notifications = s.notifications ++ [Notification.mk s.connectionHandle ids.avgVoltageData
        (voltBufOf (leVoltageMonitorGetAverageMv fun i => (s.monitor.moved ++ words).getD i 0))] := by
  have reached : Reach ids (fun _ _ => True) s := reach
  obtain ⟨consistent, record⟩ := reached.consistent ids
  obtain ⟨count, -, total, -, written⟩ :=
    session_position consistent record pending (consistent.letimer.trans started)
  obtain ⟨a, run, idle, done, signalled, -, buffer⟩ := Sampler.exec_rest_of_session (numOfSamples + 1)
    s.monitor.design (by simp [started]) pending written words length (by simp [Monitor.design]; omega)
  rw [← exec_design consistent record ((words.map Hardware.convert ++ [Hardware.ldmaIrq]).map Event.hardware)
    (by simp), Option.map_eq_some'] at run
  obtain ⟨monitor, hardwareRun, rfl⟩ := run
  have appRun := app_exec_hardware ids s (words.map Hardware.convert ++ [Hardware.ldmaIrq])
  rw [hardwareRun, Option.map_some'] at appRun
  have filled : ∀ i < numOfSamples + 1, monitor.samplingBuffer i = (s.monitor.moved ++ words).getD i 0 := buffer
  obtain ⟨s', signalStep, reach', started', fresh', pending', handle, notified⟩ :=
    signal_restarts_sampling ids (reach_exec_hardware ids (fun _ _ => trivial) _ reached appRun)
      (show monitor.startedSampling = false by simpa using idle) done
      (by simpa [Monitor.design] using signalled) statusOk
  refine ⟨s', ?_, reach', started', fresh', pending', handle, ?_⟩
  · rw [sessionCycle, app_exec_append, appRun, Option.some_bind, app_exec_cons_of_step ids _ signalStep]
    rfl
  · rw [notified, get_average_mv_congr _ _ fun i below => filled i (Nat.lt_succ_of_lt below)]

theorem session_cycle {s : App} (reach : AppReachable ids s) (started : s.monitor.startedSampling = true)
    (fresh : s.monitor.moved = []) (pending : s.monitor.ldmaDone = false) (words : List UInt32)
    (statusOk : Bool) (length : words.length = numOfSamples + 1) :
    ∃ s', appExec ids s (sessionCycle words statusOk) = some s' ∧ AppReachable ids s' ∧
      s'.monitor.startedSampling = true ∧ s'.monitor.moved = [] ∧ s'.monitor.ldmaDone = false ∧
      s'.connectionHandle = s.connectionHandle ∧
      s'.notifications = s.notifications ++ [Notification.mk s.connectionHandle ids.avgVoltageData
        (voltBufOf (leVoltageMonitorGetAverageMv fun i => words.getD i 0))] := by
  have cycle := session_rest_cycle ids reach started pending words statusOk (by simp [fresh, length])
  rwa [fresh, List.nil_append] at cycle

/-- In the steady state each session is notified once, with the average of its own words. -/
theorem notifications_follow_sessions (s : App) (reach : AppReachable ids s)
    (started : s.monitor.startedSampling = true) (fresh : s.monitor.moved = [])
    (pending : s.monitor.ldmaDone = false) (sessions : List (List UInt32 × Bool))
    (lengths : ∀ session ∈ sessions, session.1.length = numOfSamples + 1) :
    ∃ s', appExec ids s (sessions.flatMap fun session => sessionCycle session.1 session.2) = some s' ∧
      s'.monitor.startedSampling = true ∧ s'.monitor.moved = [] ∧
      s'.notifications = s.notifications ++ sessions.map fun session =>
        Notification.mk s.connectionHandle ids.avgVoltageData
          (voltBufOf (leVoltageMonitorGetAverageMv fun i => session.1.getD i 0)) := by
  induction sessions generalizing s with
  | nil => exact ⟨s, rfl, started, fresh, by simp⟩
  | cons session rest ih =>
    obtain ⟨next, run, reach', started', fresh', pending', handle, notified⟩ :=
      session_cycle ids reach started fresh pending session.1 session.2 (lengths session (List.mem_cons_self _ _))
    obtain ⟨last, restRun, started'', fresh'', notified'⟩ :=
      ih next reach' started' fresh' pending' fun other member => lengths other (List.mem_cons_of_mem _ member)
    refine ⟨last, by rw [List.flatMap_cons, app_exec_append, run, Option.some_bind, restRun], started'', fresh'', ?_⟩
    rw [notified', handle, notified]
    simp

theorem notifications_follow_sessions_after_enable :
    let ids : GattIds := { avgVoltageData := 21, clientConfig := 1, disable := 0 }
    let s := slBtOnEvent ids true (appInit (fun _ => ldmaDescriptor) fun _ => 0)
      (.gattServerCharacteristicStatus 0 21 1 1)
    let sessions := [(List.replicate (numOfSamples + 1) (2048 : UInt32), true),
      (List.replicate (numOfSamples + 1) 4095, false)]
    AppReachable ids s ∧ s.monitor.startedSampling = true ∧ s.monitor.moved = [] ∧
      s.monitor.ldmaDone = false ∧ (∀ session ∈ sessions, session.1.length = numOfSamples + 1) ∧
      ∃ s', appExec ids s (sessions.flatMap fun session => sessionCycle session.1 session.2) = some s' ∧
        s'.monitor.startedSampling = true ∧ s'.monitor.moved = [] ∧
        s'.notifications = s.notifications ++ sessions.map fun session =>
          Notification.mk s.connectionHandle ids.avgVoltageData
            (voltBufOf (leVoltageMonitorGetAverageMv fun i => session.1.getD i 0)) := by
  intro ids s sessions
  have reach : AppReachable ids s := .step _ (.init _ _) trivial (enable_at_boot _)
  have lengths : ∀ session ∈ sessions, session.1.length = numOfSamples + 1 := by simp [sessions]
  exact ⟨reach, rfl, rfl, rfl, lengths, notifications_follow_sessions ids s reach rfl rfl rfl sessions lengths⟩

theorem step_keeps_codes {s s' : Monitor} {event : Event}
    (codes : ∀ i < numOfSamples, (s.samplingBuffer i).toNat ≤ 0xFFF)
    (converted : ∀ word, event = .hardware (.convert word) → word.toNat ≤ 0xFFF)
    (stepped : step s event = some s') : ∀ i < numOfSamples, (s'.samplingBuffer i).toNat ≤ 0xFFF := by
  rcases step_cases stepped with ⟨statusOk, -, -, rfl⟩ | ⟨-, -, rfl⟩ | ⟨word, rfl, -, -, rfl⟩ |
    ⟨-, -, rfl⟩ | ⟨-, -, rfl⟩ | ⟨-, rfl⟩
  · simpa using codes
  · exact codes
  · intro i below
    rcases convert_buffer s word with same | ⟨dst, written⟩
    · rw [same]
      exact codes i below
    · rw [written]
      by_cases here : i = dst
      · subst here
        simpa using converted word rfl
      · rw [Function.update_noteq here]
        exact codes i below
  · exact codes
  · rw [sleeptimer_expire_eq]
    exact codes
  · exact codes

def InRange (s : App) : Prop :=
  (∀ i < numOfSamples, (s.monitor.samplingBuffer i).toNat ≤ 0xFFF) ∧
    ∀ n ∈ s.notifications, n.characteristic = ids.avgVoltageData ∧ bigEndian n.value ≤ 3300

theorem in_range_step {s s' : App} {event : AppEvent} (inRange : InRange ids s)
    (converted : ∀ word, event = .hardware (.convert word) → word.toNat ≤ 0xFFF)
    (stepped : appStep ids s event = some s') : InRange ids s' := by
  obtain ⟨codes, sent⟩ := inRange
  rcases app_step_cases ids stepped with ⟨evt, statusOk, rfl, radio, -, rfl⟩ |
    ⟨statusOk, rfl, -, -, rfl⟩ | ⟨h, monitor, rfl, moved, rfl⟩
  · obtain ⟨buffer, -, notified⟩ := radio_event_frame ids statusOk s evt radio
    exact ⟨by rw [buffer]; exact codes, by rw [notified]; exact sent⟩
  · by_cases reads : s.monitor.externalSignals &&& leMonitorSignal = 0
    · rw [signal_event_ignores ids statusOk _ _ reads]
      exact ⟨codes, sent⟩
    · rw [signal_event_reads ids statusOk _ _ reads]
      refine ⟨by simpa using codes, ?_⟩
      simp only [List.mem_append, List.mem_singleton]
      rintro n (earlier | rfl)
      · exact sent n earlier
      · refine ⟨rfl, ?_⟩
        rw [volt_buf_big_endian, get_average_mv_eq_average_mv _ codes]
        exact average_mv_le _ codes
  · exact ⟨step_keeps_codes codes (fun word same => converted word (by cases same; rfl)) moved, sent⟩

theorem in_range_exec (events : List AppEvent) {s s' : App} (inRange : InRange ids s)
    (converted : ∀ word, AppEvent.hardware (.convert word) ∈ events → word.toNat ≤ 0xFFF)
    (run : appExec ids s events = some s') : InRange ids s' := by
  induction events generalizing s with
  | nil => cases run; exact inRange
  | cons event rest ih =>
    simp only [appExec, Option.bind_eq_some] at run
    obtain ⟨next, stepped, restRun⟩ := run
    exact ih (in_range_step ids inRange (fun word same => converted word (same ▸ List.mem_cons_self _ _)) stepped)
      (fun word member => converted word (List.mem_cons_of_mem _ member)) restRun

/-- With 12-bit conversions every notified value is at most 3300 mV. -/
theorem notified_values_in_range (neighbours : Int → Descriptor) (ram : Nat → UInt32)
    (events : List AppEvent) (s : App) (run : appExec ids (appInit neighbours ram) events = some s)
    (converted : ∀ word, AppEvent.hardware (.convert word) ∈ events → word.toNat ≤ 0xFFF) :
    ∀ n ∈ s.notifications, n.characteristic = ids.avgVoltageData ∧ bigEndian n.value ≤ 3300 :=
  (in_range_exec ids events ⟨fun i below => by simp [appInit, leVoltageMonitorInit, below],
    fun n member => absurd member (List.not_mem_nil n)⟩ converted run).2

theorem notified_values_in_range_first_session :
    let ids : GattIds := { avgVoltageData := 21, clientConfig := 1, disable := 0 }
    let events : List AppEvent := .radio (.gattServerCharacteristicStatus 0 21 1 1) true ::
      sessionCycle (List.replicate (numOfSamples + 1) 4095) true
    ∃ s, appExec ids (appInit (fun _ => ldmaDescriptor) fun _ => 0) events = some s ∧
      (∀ word, AppEvent.hardware (.convert word) ∈ events → word.toNat ≤ 0xFFF) ∧
      ∀ n ∈ s.notifications, n.characteristic = ids.avgVoltageData ∧ bigEndian n.value ≤ 3300 := by
  intro ids events
  obtain ⟨s, run, -⟩ := session_cycle ids (.step _ (.init _ _) trivial (enable_at_boot _)) rfl rfl rfl
    (List.replicate (numOfSamples + 1) 4095) true (by simp)
  have whole := (app_exec_cons_of_step ids _ (enable_at_boot _)).trans run
  have converted : ∀ word, AppEvent.hardware (.convert word) ∈ events → word.toNat ≤ 0xFFF := by
    intro word member
    simp [events, sessionCycle] at member
    rw [member]
    decide
  exact ⟨s, whole, converted, notified_values_in_range ids _ _ events s whole converted⟩

def signalOwed (s : App) : Nat := if s.monitor.externalSignals &&& leMonitorSignal = 0 then 0 else 1

def Admitted (allowed : App → AppEvent → Prop) : App → List AppEvent → Prop
  | _, [] => True
  | s, event :: rest => allowed s event ∧ ∀ next, appStep ids s event = some next → Admitted allowed next rest

theorem admitted_without_radio (s : App) (events : List AppEvent)
    (noRadio : ∀ evt statusOk, AppEvent.radio evt statusOk ∉ events) : Admitted ids (Unraced ids) s events := by
  induction events generalizing s with
  | nil => trivial
  | cons event rest ih =>
    refine ⟨?_, fun next _ => ih next fun evt statusOk member => noRadio evt statusOk (List.mem_cons_of_mem _ member)⟩
    cases event with
    | radio evt statusOk => exact absurd (List.mem_cons_self _ _) (noRadio evt statusOk)
    | signal => trivial
    | hardware => trivial

theorem notified_step {s s' : App} {event : AppEvent} (stepped : appStep ids s event = some s') :
    s'.notifications.length + signalOwed s' + (if event = .hardware .ldmaIrq then signalOwed s else 0) =
      s.notifications.length + signalOwed s + if event = .hardware .ldmaIrq then 1 else 0 := by
  rcases app_step_cases ids stepped with ⟨evt, statusOk, rfl, radio, -, rfl⟩ |
    ⟨statusOk, rfl, -, -, rfl⟩ | ⟨h, monitor, rfl, moved, rfl⟩
  · obtain ⟨-, signals, notified⟩ := radio_event_frame ids statusOk s evt radio
    simp [signalOwed, signals, notified]
  · by_cases reads : s.monitor.externalSignals &&& leMonitorSignal = 0
    · rw [signal_event_ignores ids statusOk _ _ reads]
      simp [signalOwed, reads]
    · rw [signal_event_reads ids statusOk _ _ reads]
      simp [signalOwed, reads]
  · rcases step_cases moved with ⟨_, ⟨⟩, -⟩ | ⟨⟨⟩, -⟩ | ⟨word, ⟨⟩, -, -, rfl⟩ | ⟨⟨⟩, -, rfl⟩ | ⟨⟨⟩, -, rfl⟩ |
      ⟨⟨⟩, rfl⟩
    · simp [signalOwed]
    · simp [signalOwed, ldma_irq_handler_eq]
      omega
    · simp [signalOwed, sleeptimer_expire_eq]
    · simp [signalOwed]

theorem nothing_owed_at_completion {s s' : App} (reach : Reach ids (Unraced ids) s)
    (stepped : appStep ids s (.hardware .ldmaIrq) = some s') : signalOwed s = 0 := by
  rcases app_step_cases ids stepped with ⟨_, _, ⟨⟩, -⟩ | ⟨_, ⟨⟩, -⟩ | ⟨h, monitor, ⟨⟩, moved, -⟩
  have done : s.monitor.ldmaDone = true := by
    cases pending : s.monitor.ldmaDone <;> simp_all [step]
  have quiet : s.monitor.externalSignals = 0 := by
    by_contra waiting
    have armed := (reach.consistent ids).1.armed
    simp [(reach.completed_session ids waiting).1, done] at armed
  simp [signalOwed, quiet]

theorem notified_exec_le (events : List AppEvent) {s s' : App} (run : appExec ids s events = some s') :
    s'.notifications.length + signalOwed s' ≤
      s.notifications.length + signalOwed s + events.count (.hardware .ldmaIrq) := by
  induction events generalizing s with
  | nil => cases run; simp
  | cons event rest ih =>
    simp only [appExec, Option.bind_eq_some] at run
    obtain ⟨next, stepped, restRun⟩ := run
    have accounted := notified_step ids stepped
    have later := ih restRun
    rw [List.count_cons]
    simp only [beq_iff_eq] at accounted ⊢
    split_ifs at accounted ⊢ <;> omega

theorem notified_exec (events : List AppEvent) {s s' : App} (reach : Reach ids (Unraced ids) s)
    (admitted : Admitted ids (Unraced ids) s events) (run : appExec ids s events = some s') :
    s'.notifications.length + signalOwed s' =
      s.notifications.length + signalOwed s + events.count (.hardware .ldmaIrq) := by
  induction events generalizing s with
  | nil => cases run; rfl
  | cons event rest ih =>
    simp only [appExec, Option.bind_eq_some] at run
    obtain ⟨next, stepped, restRun⟩ := run
    obtain ⟨unraced, later⟩ := admitted
    have accounted := notified_step ids stepped
    rw [ih (.step event reach unraced stepped) (later next stepped) restRun, List.count_cons]
    simp only [beq_iff_eq] at accounted ⊢
    split_ifs at accounted ⊢ with irq
    · subst irq
      have nothing := nothing_owed_at_completion ids reach stepped
      omega
    · omega

/-- No completion is notified twice, and short of the enable race none is lost. -/
theorem one_notification_per_completion (neighbours : Int → Descriptor) (ram : Nat → UInt32)
    (events : List AppEvent) (s : App) (run : appExec ids (appInit neighbours ram) events = some s) :
    s.notifications.length + signalOwed s ≤ events.count (.hardware .ldmaIrq) ∧
    (Admitted ids (Unraced ids) (appInit neighbours ram) events →
      s.notifications.length + signalOwed s = events.count (.hardware .ldmaIrq)) := by
  have boot : (appInit neighbours ram).notifications.length + signalOwed (appInit neighbours ram) = 0 := by
    simp [signalOwed, appInit, leVoltageMonitorInit]
  refine ⟨by simpa [boot] using notified_exec_le ids events run, fun unraced => ?_⟩
  simpa [boot] using notified_exec ids events (.init neighbours ram) unraced run

theorem one_notification_per_completion_first_session :
    let ids : GattIds := { avgVoltageData := 21, clientConfig := 1, disable := 0 }
    let events : List AppEvent := .radio (.gattServerCharacteristicStatus 0 21 1 1) true ::
      sessionCycle (List.replicate (numOfSamples + 1) 1) true
    ∃ s, appExec ids (appInit (fun _ => ldmaDescriptor) fun _ => 0) events = some s ∧
      Admitted ids (Unraced ids) (appInit (fun _ => ldmaDescriptor) fun _ => 0) events ∧
      (s.notifications.length + signalOwed s ≤ events.count (.hardware .ldmaIrq) ∧
      (Admitted ids (Unraced ids) (appInit (fun _ => ldmaDescriptor) fun _ => 0) events →
        s.notifications.length + signalOwed s = events.count (.hardware .ldmaIrq))) := by
  intro ids events
  obtain ⟨s, run, -⟩ := session_cycle ids (.step _ (.init _ _) trivial (enable_at_boot _)) rfl rfl rfl
    (List.replicate (numOfSamples + 1) 1) true (by simp)
  have whole := (app_exec_cons_of_step ids _ (enable_at_boot _)).trans run
  have admitted : Admitted ids (Unraced ids) (appInit (fun _ => ldmaDescriptor) fun _ => 0) events :=
    ⟨fun waiting => absurd rfl waiting, fun next _ => admitted_without_radio ids next _ (by simp [sessionCycle])⟩
  exact ⟨s, whole, admitted, one_notification_per_completion ids _ _ events s whole⟩

-- The rest of the running session and the signal's delivery, with no event from the radio side.
def resumption (s : App) (conversions : Nat → UInt32) (statusOk : Bool) : List AppEvent :=
  if s.monitor.startedSampling then
    sessionCycle ((List.range (numOfSamples + 1 - s.monitor.moved.length)).map conversions) statusOk
  else [.signal statusOk]

/-- Every reachable state is stalled or returns to the steady state by itself. -/
theorem sampling_resumes (s : App) (reach : AppReachable ids s) (conversions : Nat → UInt32)
    (statusOk : Bool) :
    (s.monitor.startedSampling = false ∧ s.monitor.ldmaDone = false ∧ signalOwed s = 0) ∨
    ∃ s', appExec ids s (resumption s conversions statusOk) = some s' ∧ AppReachable ids s' ∧
      s'.monitor.startedSampling = true ∧ s'.monitor.moved = [] ∧ s'.monitor.ldmaDone = false ∧
      ∃ n, n.connection = s.connectionHandle ∧ n.characteristic = ids.avgVoltageData ∧
        s'.notifications = s.notifications ++ [n] := by
  have reached : Reach ids (fun _ _ => True) s := reach
  obtain ⟨consistent, record⟩ := reached.consistent ids
  cases started : s.monitor.startedSampling with
  | false =>
    obtain ⟨-, pending⟩ : _ ∧ s.monitor.ldmaDone = false := by simpa [started] using consistent.armed
    by_cases owed : signalOwed s = 0
    · exact .inl ⟨rfl, pending, owed⟩
    · have waiting : s.monitor.externalSignals &&& leMonitorSignal ≠ 0 := by simpa [signalOwed] using owed
      obtain ⟨s', signalStep, reach', started', fresh', pending', -, notified⟩ :=
        signal_restarts_sampling ids reach started pending waiting statusOk
      exact .inr ⟨s', by simp [resumption, started, appExec, signalStep], reach', started', fresh', pending',
        _, rfl, rfl, notified⟩
  | true =>
    right
    cases done : s.monitor.ldmaDone with
    | false =>
      obtain ⟨count, -, total, -, -⟩ :=
        session_position consistent record done (consistent.letimer.trans started)
      obtain ⟨s', run, reach', started', fresh', pending', -, notified⟩ := session_rest_cycle ids reach started done
        ((List.range (numOfSamples + 1 - s.monitor.moved.length)).map conversions) statusOk (by simp; omega)
      exact ⟨s', by simpa [resumption, started] using run, reach', started', fresh', pending', _, rfl, rfl, notified⟩
    | true =>
      have moved := (record.done done).1
      have irqStep : appStep ids s (.hardware .ldmaIrq) = some { s with monitor := ldmaIrqHandler s.monitor } := by
        simp [appStep, step, done]
      obtain ⟨s', signalStep, reach', started', fresh', pending', -, notified⟩ :=
        signal_restarts_sampling ids (.step _ reach trivial irqStep) (by simp [ldma_irq_handler_eq])
          (by simp [ldma_irq_handler_eq]) (by simp [ldma_irq_handler_eq]) statusOk
      refine ⟨s', ?_, reach', started', fresh', pending', _, rfl, rfl, notified⟩
      simp [resumption, started, moved, sessionCycle, appExec, irqStep, signalStep]

theorem sampling_resumes_after_enable :
    let ids : GattIds := { avgVoltageData := 21, clientConfig := 1, disable := 0 }
    let s := slBtOnEvent ids true (appInit (fun _ => ldmaDescriptor) fun _ => 0) (.gattServerCharacteristicStatus 0 21 1 1)
    AppReachable ids s ∧
      ((s.monitor.startedSampling = false ∧ s.monitor.ldmaDone = false ∧ signalOwed s = 0) ∨
      ∃ s', appExec ids s (resumption s (fun i => i.toUInt32) true) = some s' ∧ AppReachable ids s' ∧
        s'.monitor.startedSampling = true ∧ s'.monitor.moved = [] ∧ s'.monitor.ldmaDone = false ∧
        ∃ n, n.connection = s.connectionHandle ∧ n.characteristic = ids.avgVoltageData ∧
          s'.notifications = s.notifications ++ [n]) :=
  have reach := Reach.step _ (.init _ _) trivial (enable_at_boot _)
  ⟨reach, sampling_resumes _ _ reach (fun i => i.toUInt32) true⟩

end Stream

end LeVoltageMonitor

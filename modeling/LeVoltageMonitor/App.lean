import LeVoltageMonitor.Refinement

/- app.c's sl_bt_on_event over the monitor. The stack delivers radio events at any moment and the
   external-signal event with the bitwise or of the signals raised since the last one. The boot
   branch, advertising and connection parameters are left out; the GATT handle and the two enum
   values, not in the repository, are parameters. -/

set_option autoImplicit false

namespace LeVoltageMonitor

structure GattIds where
  avgVoltageData : UInt16
  clientConfig : UInt8
  disable : UInt16

inductive BtEvent where
  | systemBoot
  | connectionOpened (connection : UInt8)
  | connectionClosed (connection : UInt8)
  | gattServerCharacteristicStatus (connection : UInt8) (characteristic : UInt16)
      (statusFlags : UInt8) (clientConfigFlags : UInt16)
  | systemExternalSignal (extsignals : UInt32)
  | other
deriving DecidableEq, Repr

structure Notification where
  connection : UInt8
  characteristic : UInt16
  value : UInt8 × UInt8
deriving DecidableEq, Repr

-- `notifications` records the sl_bt_gatt_server_send_notification calls, oldest first.
structure App where
  monitor : Monitor
  connectionHandle : UInt8
  voltBuf : UInt8 × UInt8
  notifications : List Notification

def appInit (neighbours : Int → Descriptor) (ram : Nat → UInt32) : App :=
  ⟨leVoltageMonitorInit neighbours ram, 0, (0, 0), []⟩

inductive AppEvent where
  | radio (evt : BtEvent) (statusOk : Bool)
  | signal (statusOk : Bool)
  | hardware (h : Hardware)
deriving DecidableEq, Repr

section Handler

variable (ids : GattIds)

def slBtOnEvent (statusOk : Bool) (s : App) : BtEvent → App
  | .connectionOpened connection => { s with connectionHandle := connection }
  | .connectionClosed _ => { s with monitor := leVoltageMonitorStop s.monitor }
  | .gattServerCharacteristicStatus _ characteristic statusFlags clientConfigFlags =>
    if characteristic = ids.avgVoltageData then
      if ids.clientConfig = statusFlags then
        if ids.disable ≠ clientConfigFlags then
          { s with monitor := leVoltageMonitorStartNext statusOk s.monitor }
        else { s with monitor := leVoltageMonitorStop s.monitor }
      else s
    else s
  | .systemExternalSignal extsignals =>
    if extsignals &&& leMonitorSignal ≠ 0 then
      let dataMv := leVoltageMonitorGetAverageMv s.monitor.samplingBuffer
      let notified :=
        { s with voltBuf := voltBufOf dataMv,
                 notifications := s.notifications ++
                   [Notification.mk s.connectionHandle ids.avgVoltageData (voltBufOf dataMv)] }
      { notified with monitor := leVoltageMonitorStartNext statusOk notified.monitor }
    else s
  | _ => s

def appStep (s : App) : AppEvent → Option App
  | .radio (.systemExternalSignal _) _ => none
  | .radio evt statusOk => if s.monitor.ldmaDone then none else some (slBtOnEvent ids statusOk s evt)
  | .signal statusOk =>
    if s.monitor.ldmaDone || s.monitor.externalSignals == 0 then none
    else some (slBtOnEvent ids statusOk { s with monitor := { s.monitor with externalSignals := 0 } }
      (.systemExternalSignal s.monitor.externalSignals))
  | .hardware h => (step s.monitor (.hardware h)).map fun monitor => { s with monitor := monitor }

def appExec (s : App) : List AppEvent → Option App
  | [] => some s
  | event :: rest => (appStep ids s event).bind fun next => appExec next rest

inductive Reach (allowed : App → AppEvent → Prop) : App → Prop where
  | init (neighbours : Int → Descriptor) (ram : Nat → UInt32) : Reach allowed (appInit neighbours ram)
  | step {s s' : App} (event : AppEvent) : Reach allowed s → allowed s event →
      appStep ids s event = some s' → Reach allowed s'

def AppReachable (s : App) : Prop := Reach ids (fun _ _ => True) s

def BtEvent.enablesNotifications (ids : GattIds) : BtEvent → Bool
  | .gattServerCharacteristicStatus _ characteristic statusFlags clientConfigFlags =>
    characteristic = ids.avgVoltageData && ids.clientConfig = statusFlags &&
      ids.disable ≠ clientConfigFlags
  | _ => false

def BtEvent.stopsSampling (ids : GattIds) : BtEvent → Bool
  | .connectionClosed _ => true
  | .gattServerCharacteristicStatus _ characteristic statusFlags clientConfigFlags =>
    characteristic = ids.avgVoltageData && ids.clientConfig = statusFlags &&
      ids.disable = clientConfigFlags
  | _ => false

theorem radio_event_monitor (statusOk : Bool) (s : App) (evt : BtEvent)
    (radio : ∀ signals, evt ≠ .systemExternalSignal signals) :
    (slBtOnEvent ids statusOk s evt).monitor =
      (if evt.enablesNotifications ids then leVoltageMonitorStartNext statusOk s.monitor
        else if evt.stopsSampling ids then leVoltageMonitorStop s.monitor else s.monitor) ∧
    (slBtOnEvent ids statusOk s evt).notifications = s.notifications := by
  cases evt with
  | gattServerCharacteristicStatus connection characteristic statusFlags clientConfigFlags =>
    simp only [slBtOnEvent, BtEvent.enablesNotifications, BtEvent.stopsSampling]
    split_ifs <;> simp_all
  | systemExternalSignal extsignals => exact absurd rfl (radio extsignals)
  | _ => simp [slBtOnEvent, BtEvent.enablesNotifications, BtEvent.stopsSampling]

theorem signal_event_reads (statusOk : Bool) (s : App) (extsignals : UInt32)
    (reads : extsignals &&& leMonitorSignal ≠ 0) :
    slBtOnEvent ids statusOk s (.systemExternalSignal extsignals) =
      { s with voltBuf := voltBufOf (leVoltageMonitorGetAverageMv s.monitor.samplingBuffer),
               notifications := s.notifications ++ [Notification.mk s.connectionHandle ids.avgVoltageData
                 (voltBufOf (leVoltageMonitorGetAverageMv s.monitor.samplingBuffer))],
               monitor := leVoltageMonitorStartNext statusOk s.monitor } := by
  simp [slBtOnEvent, reads]

theorem signal_event_ignores (statusOk : Bool) (s : App) (extsignals : UInt32)
    (ignored : extsignals &&& leMonitorSignal = 0) :
    slBtOnEvent ids statusOk s (.systemExternalSignal extsignals) = s := by
  simp [slBtOnEvent, ignored]

theorem app_step_cases {s s' : App} {event : AppEvent} (stepped : appStep ids s event = some s') :
    (∃ evt statusOk, event = .radio evt statusOk ∧ (∀ signals, evt ≠ .systemExternalSignal signals) ∧
      s.monitor.ldmaDone = false ∧ s' = slBtOnEvent ids statusOk s evt) ∨
    (∃ statusOk, event = .signal statusOk ∧ s.monitor.ldmaDone = false ∧
      s.monitor.externalSignals ≠ 0 ∧ s' = slBtOnEvent ids statusOk
        { s with monitor := { s.monitor with externalSignals := 0 } }
        (.systemExternalSignal s.monitor.externalSignals)) ∨
    (∃ h monitor, event = .hardware h ∧ step s.monitor (.hardware h) = some monitor ∧
      s' = { s with monitor := monitor }) := by
  cases event with
  | radio evt statusOk =>
    refine .inl ⟨evt, statusOk, rfl, ?_⟩
    cases evt <;> cases pending : s.monitor.ldmaDone <;> simp [appStep, pending] at stepped ⊢ <;>
      exact stepped.symm
  | signal statusOk =>
    refine .inr (.inl ⟨statusOk, rfl, ?_⟩)
    simp only [appStep] at stepped
    split at stepped
    · cases stepped
    · rename_i guard
      simp only [Bool.or_eq_true, beq_iff_eq, not_or, Bool.not_eq_true] at guard
      exact ⟨guard.1, guard.2, (Option.some.inj stepped).symm⟩
  | hardware h =>
    simp only [appStep, Option.map_eq_some'] at stepped
    obtain ⟨monitor, moved, rfl⟩ := stepped
    exact .inr (.inr ⟨h, monitor, rfl, moved, rfl⟩)

theorem app_signal_step (statusOk : Bool) (s : App) (pending : s.monitor.ldmaDone = false)
    (waiting : s.monitor.externalSignals ≠ 0) :
    appStep ids s (.signal statusOk) = some (slBtOnEvent ids statusOk
      { s with monitor := { s.monitor with externalSignals := 0 } } (.systemExternalSignal s.monitor.externalSignals)) := by
  simp [appStep, pending, waiting]

theorem app_exec_hardware (s : App) (hs : List Hardware) :
    appExec ids s (hs.map .hardware) =
      (exec s.monitor (hs.map .hardware)).map fun monitor => { s with monitor := monitor } := by
  induction hs generalizing s with
  | nil => rfl
  | cons h rest ih =>
    simp only [List.map_cons, appExec, exec, appStep]
    cases step s.monitor (.hardware h) <;> simp [ih]

theorem app_exec_cons_of_step {s s' : App} {event : AppEvent} (rest : List AppEvent)
    (stepped : appStep ids s event = some s') : appExec ids s (event :: rest) = appExec ids s' rest := by
  simp [appExec, stepped]

theorem app_exec_append (s : App) (first second : List AppEvent) :
    appExec ids s (first ++ second) = (appExec ids s first).bind fun middle => appExec ids middle second := by
  induction first generalizing s with
  | nil => rfl
  | cons event rest ih =>
    simp only [List.cons_append, appExec]
    cases appStep ids s event <;> simp [ih]

theorem monitor_invariant_of_reach (P : Monitor → Prop)
    (boot : ∀ neighbours ram, P (leVoltageMonitorInit neighbours ram))
    (preserved : ∀ s s' event, P s → step s event = some s' → P s')
    (signals : ∀ s signals, P s → P { s with externalSignals := signals })
    {allowed : App → AppEvent → Prop} {s : App} (reach : Reach ids allowed s) : P s.monitor := by
  have handled : ∀ (a : App) statusOk evt, P a.monitor → a.monitor.ldmaDone = false →
      P (slBtOnEvent ids statusOk a evt).monitor := by
    intro a statusOk evt holds pending
    have stopped := preserved _ (leVoltageMonitorStop a.monitor) .stop holds (by simp [step, pending])
    have started := preserved _ (leVoltageMonitorStartNext statusOk a.monitor) (.startNext statusOk)
      holds (by simp [step, pending])
    by_cases radio : ∀ signals, evt ≠ .systemExternalSignal signals
    · rw [(radio_event_monitor ids statusOk a evt radio).1]
      split_ifs <;> assumption
    · push_neg at radio
      obtain ⟨extsignals, rfl⟩ := radio
      by_cases reads : extsignals &&& leMonitorSignal = 0
      · rwa [signal_event_ignores ids statusOk a extsignals reads]
      · rwa [signal_event_reads ids statusOk a extsignals reads]
  induction reach with
  | init neighbours ram => exact boot neighbours ram
  | step event _ _ stepped ih =>
    rcases app_step_cases ids stepped with ⟨evt, statusOk, -, -, pending, rfl⟩ |
      ⟨statusOk, -, pending, -, rfl⟩ | ⟨h, monitor, -, moved, rfl⟩
    · exact handled _ statusOk evt ih pending
    · exact handled _ statusOk _ (signals _ 0 ih) pending
    · exact preserved _ _ _ ih moved

theorem Reach.consistent {allowed : App → AppEvent → Prop} {s : App} (reach : Reach ids allowed s) :
    Consistent s.monitor ∧ SessionRecord s.monitor :=
  monitor_invariant_of_reach ids (fun m => Consistent m ∧ SessionRecord m)
    (fun neighbours ram => ⟨init_consistent neighbours ram, init_session_record neighbours ram⟩)
    (fun _ _ event holds stepped =>
      ⟨step_consistent event holds.1 stepped, step_session_record event holds.1 holds.2 stepped⟩)
    (fun _ _ holds => ⟨⟨holds.1.1, holds.1.2, holds.1.3, holds.1.4, holds.1.5, holds.1.6⟩,
      ⟨holds.2.1, holds.2.2⟩⟩) reach

theorem reach_exec_hardware {allowed : App → AppEvent → Prop} (admits : ∀ a h, allowed a (.hardware h))
    (hs : List Hardware) {s s' : App} (reach : Reach ids allowed s)
    (run : appExec ids s (hs.map .hardware) = some s') : Reach ids allowed s' := by
  induction hs generalizing s with
  | nil => cases run; exact reach
  | cons h rest ih =>
    simp only [List.map_cons, appExec, Option.bind_eq_some] at run
    obtain ⟨next, stepped, restRun⟩ := run
    exact ih (.step _ reach (admits s h) stepped) restRun

theorem enable_event_enables :
    (BtEvent.gattServerCharacteristicStatus 0 ids.avgVoltageData ids.clientConfig
      (ids.disable + 1)).enablesNotifications ids = true := by
  have different : ids.disable ≠ ids.disable + 1 := by
    intro same
    have := congrArg UInt16.toNat same
    rw [UInt16.toNat_add, show (1 : UInt16).toNat = 1 from rfl] at this
    have := ids.disable.toNat_lt
    simp only [UInt16.size] at *
    omega
  simp [BtEvent.enablesNotifications, different]

theorem first_session_completes (evt : BtEvent) (enables : evt.enablesNotifications ids = true)
    (words : List UInt32) (length : words.length = numOfSamples + 1)
    (allowed : App → AppEvent → Prop) (admits : ∀ a h, allowed a (.hardware h))
    (enableAllowed : allowed (appInit (fun _ => ldmaDescriptor) fun _ => 0) (.radio evt true)) :
    ∃ s, appExec ids (appInit (fun _ => ldmaDescriptor) fun _ => 0)
        (.radio evt true :: (words.map Hardware.convert ++ [Hardware.ldmaIrq]).map AppEvent.hardware) = some s ∧
      Reach ids allowed s ∧ s.monitor.startedSampling = false ∧ s.monitor.ldmaDone = false ∧
      s.monitor.externalSignals &&& leMonitorSignal ≠ 0 ∧ s.notifications = [] := by
  have radio : ∀ signals, evt ≠ .systemExternalSignal signals := by
    rintro signals rfl
    simp [BtEvent.enablesNotifications] at enables
  have enableStep : appStep ids (appInit (fun _ => ldmaDescriptor) fun _ => 0) (.radio evt true) =
      some (slBtOnEvent ids true (appInit (fun _ => ldmaDescriptor) fun _ => 0) evt) := by
    cases evt <;> first | exact absurd rfl (radio _) | rfl
  obtain ⟨monitorEq, notificationsEq⟩ := radio_event_monitor ids true (appInit (fun _ => ldmaDescriptor) fun _ => 0) evt radio
  rw [if_pos enables] at monitorEq
  have startStep : step (leVoltageMonitorInit (fun _ => ldmaDescriptor) fun _ => 0) (.startNext true) =
      some (leVoltageMonitorStartNext true (leVoltageMonitorInit (fun _ => ldmaDescriptor) fun _ => 0)) := rfl
  obtain ⟨monitor, run, idle, pending, signals, -⟩ :=
    exec_whole_session (.init (fun _ => ldmaDescriptor) fun _ => 0) rfl true words length
  rw [exec_cons_of_step _ startStep] at run
  have appRun := app_exec_hardware ids (slBtOnEvent ids true (appInit (fun _ => ldmaDescriptor) fun _ => 0) evt)
    (words.map Hardware.convert ++ [Hardware.ldmaIrq])
  rw [show (slBtOnEvent ids true (appInit (fun _ => ldmaDescriptor) fun _ => 0) evt).monitor =
    leVoltageMonitorStartNext true (leVoltageMonitorInit (fun _ => ldmaDescriptor) fun _ => 0) from monitorEq,
    run, Option.map_some'] at appRun
  refine ⟨_, (app_exec_cons_of_step ids _ enableStep).trans appRun,
    reach_exec_hardware ids admits _ (.step _ (.init _ _) enableAllowed enableStep) appRun,
    idle, pending, signals, ?_⟩
  simpa using notificationsEq

end Handler

end LeVoltageMonitor

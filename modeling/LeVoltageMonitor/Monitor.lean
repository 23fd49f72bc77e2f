import LeVoltageMonitor.Ldma

/- le_voltage_monitor.c with the hardware it drives: one state, one atomic step per event, the
   LDMA interrupt taken as soon as it is raised. The sleeptimer keeps `my_timer`, a local of
   start_Sensor_power_timer, after its frame is gone, so an expiry runs my_timer_callback only
   while no later code has reused those stack words; what else a clobbered handle might do is not
   modelled. `moved` and `calls` record writes and calls for the statements; nothing reads them. -/

set_option autoImplicit false

namespace LeVoltageMonitor

inductive Call where
  | gpioPinOutSet
  | gpioPinOutClear
  | sleeptimerStartTimer (statusOk : Bool)
deriving DecidableEq, Repr

structure Monitor where
  startedSampling : Bool
  letimerEnabled : Bool
  iadcSingleStarted : Bool
  descriptor : Descriptor
  neighbours : Int → Descriptor
  channel : Channel
  ldmaDone : Bool
  samplingBuffer : Nat → UInt32
  sensorPower : Bool
  sleeptimers : Nat
  myTimerHeld : Bool
  externalSignals : UInt32
  moved : List UInt32
  calls : List Call

def Monitor.fetch (s : Monitor) (addr : Int) : Descriptor :=
  if addr = 0 then s.descriptor else s.neighbours addr

def leVoltageMonitorInit (neighbours : Int → Descriptor) (ram : Nat → UInt32) : Monitor where
  startedSampling := false
  letimerEnabled := false
  iadcSingleStarted := false
  descriptor := ldmaDescriptor
  neighbours := neighbours
  channel := .idle
  ldmaDone := false
  samplingBuffer := fun i => if i < numOfSamples then 0 else ram i
  sensorPower := false
  sleeptimers := 0
  myTimerHeld := false
  externalSignals := 0
  moved := []
  calls := []

def myTimerCallback (s : Monitor) : Monitor :=
  { s with sensorPower := false, calls := s.calls ++ [Call.gpioPinOutClear] }

def startSensorPowerTimer (statusOk : Bool) (s : Monitor) : Monitor × Int :=
  let powered := { s with sensorPower := true, calls := s.calls ++ [Call.gpioPinOutSet] }
  let status := { powered with calls := powered.calls ++ [Call.sleeptimerStartTimer statusOk] }
  if statusOk then ({ status with sleeptimers := status.sleeptimers + 1, myTimerHeld := true }, 1)
  else (status, -1)

def leVoltageMonitorStartNext (statusOk : Bool) (s : Monitor) : Monitor :=
  if !s.startedSampling then
    let converting := { s with iadcSingleStarted := true }
    let timed := { converting with letimerEnabled := true }
    let armed := { timed with channel := Channel.load 0 timed.descriptor, moved := [] }
    let powered := (startSensorPowerTimer statusOk armed).1
    { powered with startedSampling := true }
  else s

def leVoltageMonitorStop (s : Monitor) : Monitor :=
  let timed := { s with letimerEnabled := false }
  let converting := { timed with iadcSingleStarted := false }
  let flagged := { converting with startedSampling := false }
  { flagged with channel := .idle }

def ldmaIrqHandler (s : Monitor) : Monitor :=
  let cleared := { s with ldmaDone := false }
  let timed := { cleared with letimerEnabled := false }
  let converting := { timed with iadcSingleStarted := false }
  let signalled := { converting with externalSignals := converting.externalSignals ||| leMonitorSignal }
  { signalled with startedSampling := false }

-- One LETIMER underflow through the PRS: a started single queue converts, a running channel
-- moves the result. The IADC FIFO is not kept.
def convert (word : UInt32) (s : Monitor) : Monitor :=
  match s.iadcSingleStarted, s.channel.request s.fetch with
  | true, some t =>
    { s with samplingBuffer := Function.update s.samplingBuffer t.dst word, channel := t.next,
             ldmaDone := s.ldmaDone || t.done, moved := s.moved ++ [word] }
  | _, _ => s

def sleeptimerExpire (s : Monitor) : Monitor :=
  let expired := { s with sleeptimers := s.sleeptimers - 1 }
  if s.myTimerHeld then myTimerCallback expired else expired

-- `frameReused`: later code writes over the stack words that held `my_timer`.
inductive Hardware where
  | convert (word : UInt32)
  | ldmaIrq
  | sleeptimerFire
  | frameReused
deriving DecidableEq, Repr

inductive Event where
  | startNext (statusOk : Bool)
  | stop
  | hardware (h : Hardware)
deriving DecidableEq, Repr

def step (s : Monitor) : Event → Option Monitor
  | .startNext statusOk => if s.ldmaDone then none else some (leVoltageMonitorStartNext statusOk s)
  | .stop => if s.ldmaDone then none else some (leVoltageMonitorStop s)
  | .hardware (.convert word) =>
    if s.ldmaDone || !s.letimerEnabled then none else some (convert word s)
  | .hardware .ldmaIrq => if s.ldmaDone then some (ldmaIrqHandler s) else none
  | .hardware .sleeptimerFire => if s.sleeptimers = 0 then none else some (sleeptimerExpire s)
  | .hardware .frameReused => some { s with myTimerHeld := false }

def exec (s : Monitor) : List Event → Option Monitor
  | [] => some s
  | event :: rest => (step s event).bind fun next => exec next rest

inductive Reachable : Monitor → Prop where
  | init (neighbours : Int → Descriptor) (ram : Nat → UInt32) :
      Reachable (leVoltageMonitorInit neighbours ram)
  | step {s s' : Monitor} (event : Event) : Reachable s → step s event = some s' → Reachable s'

theorem step_cases {s s' : Monitor} {event : Event} (stepped : step s event = some s') :
    (∃ statusOk, event = .startNext statusOk ∧ s.ldmaDone = false ∧
      s' = leVoltageMonitorStartNext statusOk s) ∨
    (event = .stop ∧ s.ldmaDone = false ∧ s' = leVoltageMonitorStop s) ∨
    (∃ word, event = .hardware (.convert word) ∧ s.ldmaDone = false ∧ s.letimerEnabled = true ∧
      s' = convert word s) ∨
    (event = .hardware .ldmaIrq ∧ s.ldmaDone = true ∧ s' = ldmaIrqHandler s) ∨
    (event = .hardware .sleeptimerFire ∧ s.sleeptimers ≠ 0 ∧ s' = sleeptimerExpire s) ∨
    (event = .hardware .frameReused ∧ s' = { s with myTimerHeld := false }) := by
  cases event with
  | startNext statusOk => cases pending : s.ldmaDone <;> simp_all [step]
  | stop => cases pending : s.ldmaDone <;> simp_all [step]
  | hardware h =>
    cases h with
    | convert word => cases pending : s.ldmaDone <;> cases timed : s.letimerEnabled <;> simp_all [step]
    | ldmaIrq => cases pending : s.ldmaDone <;> simp_all [step]
    | sleeptimerFire =>
      by_cases idle : s.sleeptimers = 0 <;> simp only [step, idle, if_true, if_false] at stepped
      · cases stepped
      · exact .inr (.inr (.inr (.inr (.inl ⟨rfl, idle, (Option.some.inj stepped).symm⟩))))
    | frameReused => exact .inr (.inr (.inr (.inr (.inr ⟨rfl, (Option.some.inj stepped).symm⟩))))

theorem step_convert_some {s s' : Monitor} {word : UInt32} :
    step s (.hardware (.convert word)) = some s' ↔
      s.ldmaDone = false ∧ s.letimerEnabled = true ∧ convert word s = s' := by
  cases pending : s.ldmaDone <;> cases timed : s.letimerEnabled <;> simp [step, pending, timed]

theorem exec_cons_of_step {s s' : Monitor} {event : Event} (rest : List Event)
    (stepped : step s event = some s') : exec s (event :: rest) = exec s' rest := by
  simp [exec, stepped]

theorem reachable_exec {s s' : Monitor} (events : List Event) (reachable : Reachable s)
    (run : exec s events = some s') : Reachable s' := by
  induction events generalizing s with
  | nil => cases run; exact reachable
  | cons event rest ih =>
    simp only [exec, Option.bind_eq_some] at run
    obtain ⟨next, stepped, rest_run⟩ := run
    exact ih (reachable.step event stepped) rest_run

section Frames

variable (s : Monitor) (statusOk : Bool) (word : UInt32)

@[simp] theorem start_next_started (started : s.startedSampling = true) :
    leVoltageMonitorStartNext statusOk s = s := by
  simp [leVoltageMonitorStartNext, started]

@[simp] theorem start_next_signals :
    (leVoltageMonitorStartNext statusOk s).externalSignals = s.externalSignals := by
  unfold leVoltageMonitorStartNext startSensorPowerTimer
  split <;> (try split) <;> rfl

@[simp] theorem start_next_buffer :
    (leVoltageMonitorStartNext statusOk s).samplingBuffer = s.samplingBuffer := by
  unfold leVoltageMonitorStartNext startSensorPowerTimer
  split <;> (try split) <;> rfl

@[simp] theorem start_next_done : (leVoltageMonitorStartNext statusOk s).ldmaDone = s.ldmaDone := by
  unfold leVoltageMonitorStartNext startSensorPowerTimer
  split <;> (try split) <;> rfl

theorem start_next_idle (idle : s.startedSampling = false) :
    leVoltageMonitorStartNext statusOk s =
      { s with iadcSingleStarted := true, letimerEnabled := true,
               channel := Channel.load 0 s.descriptor, moved := [], sensorPower := true,
               calls := s.calls ++ [.gpioPinOutSet, .sleeptimerStartTimer statusOk],
               sleeptimers := if statusOk then s.sleeptimers + 1 else s.sleeptimers,
               myTimerHeld := statusOk || s.myTimerHeld, startedSampling := true } := by
  cases statusOk <;> simp [leVoltageMonitorStartNext, startSensorPowerTimer, idle]

theorem stop_eq : leVoltageMonitorStop s =
    { s with letimerEnabled := false, iadcSingleStarted := false, startedSampling := false,
             channel := .idle } := rfl

theorem ldma_irq_handler_eq : ldmaIrqHandler s =
    { s with ldmaDone := false, letimerEnabled := false, iadcSingleStarted := false,
             externalSignals := s.externalSignals ||| leMonitorSignal, startedSampling := false } := rfl

theorem sleeptimer_expire_eq : sleeptimerExpire s =
    { s with sleeptimers := s.sleeptimers - 1, sensorPower := s.sensorPower && !s.myTimerHeld,
             calls := if s.myTimerHeld then s.calls ++ [.gpioPinOutClear] else s.calls } := by
  unfold sleeptimerExpire myTimerCallback
  cases s.myTimerHeld <;> simp

theorem convert_transfer (t : Transfer) (converting : s.iadcSingleStarted = true)
    (request : s.channel.request s.fetch = some t) :
    convert word s =
      { s with samplingBuffer := Function.update s.samplingBuffer t.dst word, channel := t.next,
               ldmaDone := s.ldmaDone || t.done, moved := s.moved ++ [word] } := by
  simp [convert, converting, request]

theorem convert_buffer : (convert word s).samplingBuffer = s.samplingBuffer ∨
    ∃ dst, (convert word s).samplingBuffer = Function.update s.samplingBuffer dst word := by
  unfold convert
  split
  · exact .inr ⟨_, rfl⟩
  · exact .inl rfl

@[simp] theorem convert_started : (convert word s).startedSampling = s.startedSampling := by
  unfold convert; split <;> rfl

@[simp] theorem convert_letimer : (convert word s).letimerEnabled = s.letimerEnabled := by
  unfold convert; split <;> rfl

@[simp] theorem convert_iadc : (convert word s).iadcSingleStarted = s.iadcSingleStarted := by
  unfold convert; split <;> rfl

@[simp] theorem convert_descriptor : (convert word s).descriptor = s.descriptor := by
  unfold convert; split <;> rfl

@[simp] theorem convert_signals : (convert word s).externalSignals = s.externalSignals := by
  unfold convert; split <;> rfl

@[simp] theorem convert_power : (convert word s).sensorPower = s.sensorPower := by
  unfold convert; split <;> rfl

@[simp] theorem convert_sleeptimers : (convert word s).sleeptimers = s.sleeptimers := by
  unfold convert; split <;> rfl

@[simp] theorem convert_calls : (convert word s).calls = s.calls := by
  unfold convert; split <;> rfl

end Frames

end LeVoltageMonitor

import LeVoltageMonitor.Monitor

set_option autoImplicit false

namespace LeVoltageMonitor

structure Consistent (s : Monitor) : Prop where
  letimer : s.letimerEnabled = s.startedSampling
  iadc : s.iadcSingleStarted = s.startedSampling
  armed : s.startedSampling = (s.channel.sessionArmed || s.ldmaDone)
  doneAfterSession : s.ldmaDone = true → s.channel.sessionArmed = false
  descriptor : s.descriptor = ldmaDescriptor
  session : ∀ desc count dst, s.channel = .running 0 desc count dst → desc = ldmaDescriptor

theorem init_consistent (neighbours : Int → Descriptor) (ram : Nat → UInt32) :
    Consistent (leVoltageMonitorInit neighbours ram) :=
  ⟨rfl, rfl, rfl, nofun, rfl, nofun⟩

theorem convert_running {s : Monitor} (word : UInt32) (converting : s.iadcSingleStarted = true)
    {count dst : Nat} (running : s.channel = .running 0 ldmaDescriptor count dst) :
    convert word s =
      { s with samplingBuffer := Function.update s.samplingBuffer dst word,
               channel := if count = 0 then Channel.load 1 (s.fetch 1)
                 else .running 0 ldmaDescriptor (count - 1) (dst + 1),
               ldmaDone := s.ldmaDone || decide (count = 0), moved := s.moved ++ [word] } := by
  cases count with
  | zero =>
    rw [convert_transfer s word _ converting (running ▸ request_last s.fetch 0 ldmaDescriptor dst rfl)]
    rfl
  | succ count =>
    rw [convert_transfer s word _ converting (running ▸ request_counting s.fetch 0 ldmaDescriptor count dst)]
    simp

section Steps

variable {s : Monitor} (consistent : Consistent s)
include consistent

theorem start_next_consistent (statusOk : Bool) (pending : s.ldmaDone = false) :
    Consistent (leVoltageMonitorStartNext statusOk s) := by
  cases started : s.startedSampling
  · rw [start_next_idle s statusOk started]
    refine ⟨rfl, rfl, by simp, by simp [pending], consistent.descriptor, ?_⟩
    rintro desc count dst loaded
    cases loaded
    exact consistent.descriptor
  · rwa [start_next_started s statusOk started]

theorem stop_consistent (pending : s.ldmaDone = false) : Consistent (leVoltageMonitorStop s) :=
  ⟨rfl, rfl, by simp [stop_eq, pending], by simp [stop_eq, pending], consistent.descriptor, nofun⟩

theorem ldma_irq_consistent (pending : s.ldmaDone = true) : Consistent (ldmaIrqHandler s) :=
  ⟨rfl, rfl, by simp [ldma_irq_handler_eq, consistent.doneAfterSession pending], nofun,
    consistent.descriptor, consistent.session⟩

theorem session_channel (armed : s.channel.sessionArmed = true) :
    ∃ count dst, s.channel = .running 0 ldmaDescriptor count dst := by
  cases channel : s.channel with
  | idle => simp [channel] at armed
  | running addr desc count dst =>
    have origin : addr = 0 := by simpa [channel, Channel.sessionArmed] using armed
    subst origin
    exact ⟨count, dst, by rw [consistent.session desc count dst channel]⟩

theorem convert_consistent (word : UInt32) (pending : s.ldmaDone = false)
    (timed : s.letimerEnabled = true) : Consistent (convert word s) := by
  have started : s.startedSampling = true := consistent.letimer ▸ timed
  have armed : s.channel.sessionArmed = true := by simpa [pending, started] using consistent.armed
  obtain ⟨count, dst, running⟩ := session_channel consistent armed
  rw [convert_running word (consistent.iadc.trans started) running]
  refine ⟨by simp [consistent.letimer], by simp [consistent.iadc], ?_, ?_, consistent.descriptor, ?_⟩ <;>
    cases count <;> simp [Channel.load, Channel.sessionArmed, started, pending]

end Steps

theorem timer_consistent {s : Monitor} (consistent : Consistent s) (power : Bool) (timers : Nat)
    (held : Bool) (calls : List Call) :
    Consistent { s with sensorPower := power, sleeptimers := timers, myTimerHeld := held, calls := calls } :=
  ⟨consistent.letimer, consistent.iadc, consistent.armed, consistent.doneAfterSession,
    consistent.descriptor, consistent.session⟩

theorem step_consistent {s s' : Monitor} (event : Event) (consistent : Consistent s)
    (stepped : step s event = some s') : Consistent s' := by
  rcases step_cases stepped with ⟨statusOk, -, pending, rfl⟩ | ⟨-, pending, rfl⟩ |
    ⟨word, -, pending, timed, rfl⟩ | ⟨-, pending, rfl⟩ | ⟨-, -, rfl⟩ | ⟨-, rfl⟩
  · exact start_next_consistent consistent statusOk pending
  · exact stop_consistent consistent pending
  · exact convert_consistent consistent word pending timed
  · exact ldma_irq_consistent consistent pending
  · rw [sleeptimer_expire_eq]
    exact timer_consistent consistent _ _ _ _
  · exact timer_consistent consistent _ _ _ _

theorem Reachable.consistent {s : Monitor} (reachable : Reachable s) : Consistent s := by
  induction reachable with
  | init neighbours ram => exact init_consistent neighbours ram
  | step event _ stepped ih => exact step_consistent event ih stepped

end LeVoltageMonitor

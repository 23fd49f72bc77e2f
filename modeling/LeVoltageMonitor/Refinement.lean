import LeVoltageMonitor.Design

set_option autoImplicit false

namespace LeVoltageMonitor

def Monitor.design (s : Monitor) : Sampler where
  state := if s.startedSampling then .active else .idle
  buffer := s.samplingBuffer
  session := s.moved
  completing := s.ldmaDone
  signalled := decide (s.externalSignals &&& leMonitorSignal ≠ 0)

@[simp] theorem design_state (s : Monitor) :
    s.design.state = if s.startedSampling then .active else .idle := rfl

@[simp] theorem design_completing (s : Monitor) : s.design.completing = s.ldmaDone := rfl

section Operations

variable (s : Monitor)

theorem start_next_design (statusOk : Bool) :
    (leVoltageMonitorStartNext statusOk s).design = s.design.start := by
  cases started : s.startedSampling
  · rw [start_next_idle s statusOk started]
    simp [Monitor.design, Sampler.start, started]
  · rw [start_next_started s statusOk started]
    simp [Monitor.design, Sampler.start, started]

theorem stop_design : (leVoltageMonitorStop s).design = { s.design with state := .idle } := rfl

theorem ldma_irq_design : (ldmaIrqHandler s).design = s.design.complete := by
  simp [Monitor.design, Sampler.complete, ldma_irq_handler_eq]

theorem timer_design : (sleeptimerExpire s).design = s.design := by
  rw [sleeptimer_expire_eq]
  rfl

end Operations

theorem convert_design {s : Monitor} (word : UInt32) (consistent : Consistent s)
    (record : SessionRecord s) (pending : s.ldmaDone = false) (timed : s.letimerEnabled = true) :
    (convert word s).design = s.design.transfer (numOfSamples + 1) word := by
  obtain ⟨-, -, buffer, moved, done⟩ := convert_next_word word consistent record pending timed
  simp [Monitor.design, Sampler.transfer, buffer, moved, done]

theorem step_design {s : Monitor} (consistent : Consistent s) (record : SessionRecord s) (event : Event)
    (timer : event ≠ .hardware .sleeptimerFire) :
    (step s event).map Monitor.design = s.design.step (numOfSamples + 1) event := by
  cases event with
  | startNext statusOk => cases pending : s.ldmaDone <;> simp [step, Sampler.step, pending, start_next_design]
  | stop => cases pending : s.ldmaDone <;> simp [step, Sampler.step, pending, stop_design]
  | hardware h =>
    cases h with
    | convert word =>
      cases pending : s.ldmaDone
      · cases timed : s.letimerEnabled
        · have idle : s.startedSampling = false := consistent.letimer.symm.trans timed
          simp [step, Sampler.step, pending, timed, idle]
        · have started : s.startedSampling = true := consistent.letimer.symm.trans timed
          simp [step, Sampler.step, pending, timed, started, convert_design word consistent record pending timed]
      · simp [step, Sampler.step, pending]
    | ldmaIrq => cases pending : s.ldmaDone <;> simp [step, Sampler.step, pending, ldma_irq_design]
    | sleeptimerFire => exact absurd rfl timer
    | frameReused => rfl

theorem exec_design {s : Monitor} (consistent : Consistent s) (record : SessionRecord s) (events : List Event)
    (noTimer : Event.hardware .sleeptimerFire ∉ events) :
    (exec s events).map Monitor.design = s.design.exec (numOfSamples + 1) events := by
  induction events generalizing s with
  | nil => rfl
  | cons event rest ih =>
    have here : event ≠ .hardware .sleeptimerFire := fun same => noTimer (same ▸ List.mem_cons_self _ _)
    rw [exec, Sampler.exec, ← step_design consistent record event here]
    cases stepped : step s event with
    | none => rfl
    | some next =>
      exact ih (step_consistent event consistent stepped) (step_session_record event consistent record stepped)
        fun member => noTimer (List.mem_cons_of_mem _ member)

theorem exec_of_design {s : Monitor} (reachable : Reachable s) {events : List Event}
    (noTimer : Event.hardware .sleeptimerFire ∉ events) {a : Sampler}
    (run : s.design.exec (numOfSamples + 1) events = some a) :
    ∃ s', exec s events = some s' ∧ s'.design = a := by
  rwa [← exec_design reachable.consistent reachable.session_record events noTimer, Option.map_eq_some'] at run

/-- The monitor runs as the design machine, with NUM_OF_SAMPLES + 1 transfers a session. -/
theorem monitor_refines_sampler (s : Monitor) (reachable : Reachable s) :
    (∀ events, Event.hardware .sleeptimerFire ∉ events →
      (exec s events).map Monitor.design = s.design.exec (numOfSamples + 1) events) ∧
    ∀ s', step s (.hardware .sleeptimerFire) = some s' → s'.design = s.design := by
  refine ⟨fun events noTimer => exec_design reachable.consistent reachable.session_record events noTimer,
    fun s' stepped => ?_⟩
  rcases step_cases stepped with ⟨_, ⟨⟩, -⟩ | ⟨⟨⟩, -⟩ | ⟨_, ⟨⟩, -⟩ | ⟨⟨⟩, -⟩ | ⟨-, -, rfl⟩ | ⟨⟨⟩, -⟩
  exact timer_design s

theorem monitor_refines_sampler_from_boot :
    let s := leVoltageMonitorInit (fun _ => ldmaDescriptor) fun _ => 0
    Reachable s ∧ ((∀ events, Event.hardware .sleeptimerFire ∉ events →
      (exec s events).map Monitor.design = s.design.exec (numOfSamples + 1) events) ∧
    ∀ s', step s (.hardware .sleeptimerFire) = some s' → s'.design = s.design) :=
  ⟨.init _ _, monitor_refines_sampler _ (.init _ _)⟩

theorem exec_whole_session {s : Monitor} (reachable : Reachable s) (idle : s.startedSampling = false)
    (statusOk : Bool) (words : List UInt32) (length : words.length = numOfSamples + 1) :
    ∃ s', exec s (.startNext statusOk ::
        (words.map Hardware.convert ++ [Hardware.ldmaIrq]).map Event.hardware) = some s' ∧
      s'.startedSampling = false ∧ s'.ldmaDone = false ∧ s'.externalSignals &&& leMonitorSignal ≠ 0 ∧
      s'.moved = words ∧ ∀ i < numOfSamples + 1, s'.samplingBuffer i = words.getD i 0 := by
  obtain ⟨-, pending⟩ : s.channel.sessionArmed = false ∧ s.ldmaDone = false := by
    simpa [idle] using reachable.consistent.armed
  obtain ⟨a, run, state, completing, signalled, session, buffer⟩ := Sampler.exec_session
    (numOfSamples + 1) (show s.design.state = .idle by simp [idle]) pending statusOk words length
    (Nat.succ_pos _)
  obtain ⟨s', exec', rfl⟩ := exec_of_design reachable (by simp) run
  refine ⟨s', exec', by simpa using state, completing, by simpa [Monitor.design] using signalled,
    session, buffer⟩

/-- A whole session from a reachable idle state, down to the average it leaves. -/
theorem session_end_to_end (s : Monitor) (reachable : Reachable s) (idle : s.startedSampling = false)
    (statusOk : Bool) (words : List UInt32) (length : words.length = numOfSamples + 1)
    (codes : ∀ word ∈ words, word.toNat ≤ 0xFFF) :
    ∃ s', exec s (.startNext statusOk ::
        (words.map Hardware.convert ++ [Hardware.ldmaIrq]).map Event.hardware) = some s' ∧
      s'.startedSampling = false ∧ s'.externalSignals &&& leMonitorSignal ≠ 0 ∧
      (∀ i < numOfSamples + 1, s'.samplingBuffer i = words.getD i 0) ∧
      (leVoltageMonitorGetAverageMv s'.samplingBuffer).toNat = averageMv fun i => words.getD i 0 := by
  obtain ⟨s', run, stopped, -, signalled, -, buffer⟩ := exec_whole_session reachable idle statusOk words length
  refine ⟨s', run, stopped, signalled, buffer, ?_⟩
  rw [get_average_mv_congr _ (fun i => words.getD i 0) fun i below => buffer i (Nat.lt_succ_of_lt below)]
  refine get_average_mv_eq_average_mv _ fun i below => codes _ ?_
  rw [List.getD_eq_getElem _ _ (by omega)]
  exact List.getElem_mem _

theorem session_end_to_end_mid_scale :
    let s := leVoltageMonitorInit (fun _ => ldmaDescriptor) fun _ => 0
    let words := List.replicate (numOfSamples + 1) (2048 : UInt32)
    Reachable s ∧ s.startedSampling = false ∧ words.length = numOfSamples + 1 ∧
      (∀ word ∈ words, word.toNat ≤ 0xFFF) ∧
      ∃ s', exec s (.startNext true ::
          (words.map Hardware.convert ++ [Hardware.ldmaIrq]).map Event.hardware) = some s' ∧
        s'.startedSampling = false ∧ s'.externalSignals &&& leMonitorSignal ≠ 0 ∧
        (∀ i < numOfSamples + 1, s'.samplingBuffer i = words.getD i 0) ∧
        (leVoltageMonitorGetAverageMv s'.samplingBuffer).toNat = averageMv fun i => words.getD i 0 :=
  have codes : ∀ word ∈ List.replicate (numOfSamples + 1) (2048 : UInt32), word.toNat ≤ 0xFFF := by
    intro word member
    rw [(List.mem_replicate.mp member).2]
    decide
  ⟨.init _ _, rfl, List.length_replicate _ _, codes,
    session_end_to_end _ (.init _ _) rfl true _ (List.length_replicate _ _) codes⟩

theorem session_overruns_sampling_buffer :
    ∃ s s', exec (leVoltageMonitorInit (fun _ => ldmaDescriptor) fun _ => 0)
        (.startNext true :: List.replicate numOfSamples (.hardware (.convert 1))) = some s ∧
      s.ldmaDone = false ∧ step s (.hardware (.convert 1)) = some s' ∧
      s'.samplingBuffer numOfSamples = 1 ∧ s'.ldmaDone = true := by
  have boot := Reachable.init (fun _ => ldmaDescriptor) fun _ => 0
  obtain ⟨a, run, active, ready, session, -⟩ := Sampler.exec_converts (numOfSamples + 1)
    (List.replicate numOfSamples 1) { (leVoltageMonitorInit (fun _ => ldmaDescriptor) fun _ => 0).design with
      state := .active, session := [] } rfl rfl (by simp)
  rw [List.map_replicate, List.map_replicate] at run
  have whole : (leVoltageMonitorInit (fun _ => ldmaDescriptor) fun _ => 0).design.exec (numOfSamples + 1)
      (.startNext true :: List.replicate numOfSamples (.hardware (.convert 1))) = some a := by
    rw [Sampler.exec, show (leVoltageMonitorInit (fun _ => ldmaDescriptor) fun _ => 0).design.step
      (numOfSamples + 1) (.startNext true) = some { (leVoltageMonitorInit (fun _ => ldmaDescriptor) fun _ => 0).design with
        state := .active, session := [] } from rfl, Option.some_bind]
    exact run
  obtain ⟨s, started, designed⟩ := exec_of_design boot (by simp) whole
  have reachable := reachable_exec _ boot started
  have square := step_design reachable.consistent reachable.session_record (.hardware (.convert 1)) (by simp)
  rw [designed] at square
  simp only [Sampler.step, ready, active, and_self, if_true] at square
  obtain ⟨s', stepped, transferred⟩ := Option.map_eq_some'.mp square
  have buffer : s'.samplingBuffer = (a.transfer (numOfSamples + 1) 1).buffer := congrArg Sampler.buffer transferred
  have done : s'.ldmaDone = (a.transfer (numOfSamples + 1) 1).completing :=
    congrArg Sampler.completing transferred
  refine ⟨s, s', started, by rw [← design_completing, designed, ready], stepped, ?_, ?_⟩
  · simp [buffer, Sampler.transfer, session]
  · simp [done, Sampler.transfer, session]

end LeVoltageMonitor

import Mathlib.Data.List.GetD
import LeVoltageMonitor.Consistency

set_option autoImplicit false

namespace LeVoltageMonitor

structure SessionRecord (s : Monitor) : Prop where
  running : ∀ count dst, s.channel = .running 0 ldmaDescriptor count dst →
    dst = s.moved.length ∧ count + dst = numOfSamples ∧
      ∀ i < dst, s.samplingBuffer i = s.moved.getD i 0
  done : s.ldmaDone = true → s.moved.length = numOfSamples + 1 ∧
    ∀ i < numOfSamples + 1, s.samplingBuffer i = s.moved.getD i 0

theorem init_session_record (neighbours : Int → Descriptor) (ram : Nat → UInt32) :
    SessionRecord (leVoltageMonitorInit neighbours ram) :=
  ⟨nofun, nofun⟩

theorem buffer_matches_moved (buffer : Nat → UInt32) (moved : List UInt32) (word : UInt32)
    (earlier : ∀ i < moved.length, buffer i = moved.getD i 0) :
    ∀ i < moved.length + 1,
      Function.update buffer moved.length word i = (moved ++ [word]).getD i 0 := by
  intro i below
  rcases Nat.lt_succ_iff_lt_or_eq.mp below with before | rfl
  · rw [Function.update_noteq (Nat.ne_of_lt before), earlier i before, List.getD_eq_getElem _ _ before,
      List.getD_eq_getElem _ _ (by simp; omega), List.getElem_append_left before]
  · simp

theorem session_position {s : Monitor} (consistent : Consistent s) (record : SessionRecord s)
    (pending : s.ldmaDone = false) (timed : s.letimerEnabled = true) :
    ∃ count, s.channel = .running 0 ldmaDescriptor count s.moved.length ∧
      count + s.moved.length = numOfSamples ∧ s.iadcSingleStarted = true ∧
      ∀ i < s.moved.length, s.samplingBuffer i = s.moved.getD i 0 := by
  have started : s.startedSampling = true := consistent.letimer ▸ timed
  have armed : s.channel.sessionArmed = true := by simpa [pending, started] using consistent.armed
  obtain ⟨count, dst, running⟩ := session_channel consistent armed
  obtain ⟨rfl, total, written⟩ := record.running count dst running
  exact ⟨count, running, total, consistent.iadc.trans started, written⟩

theorem convert_next_word {s : Monitor} (word : UInt32) (consistent : Consistent s)
    (record : SessionRecord s) (pending : s.ldmaDone = false) (timed : s.letimerEnabled = true) :
    s.channel.sessionArmed = true ∧ s.moved.length ≤ numOfSamples ∧
    (convert word s).samplingBuffer = Function.update s.samplingBuffer s.moved.length word ∧
    (convert word s).moved = s.moved ++ [word] ∧
    (convert word s).ldmaDone = decide (s.moved.length = numOfSamples) := by
  obtain ⟨count, running, total, converting, -⟩ := session_position consistent record pending timed
  rw [convert_running word converting running]
  refine ⟨by simp [running, Channel.sessionArmed], by omega, rfl, rfl, ?_⟩
  simp only [pending, Bool.false_or, decide_eq_decide]
  omega

theorem convert_session_record {s : Monitor} (word : UInt32) (consistent : Consistent s)
    (record : SessionRecord s) (pending : s.ldmaDone = false) (timed : s.letimerEnabled = true) :
    SessionRecord (convert word s) := by
  obtain ⟨count, running, total, converting, written⟩ := session_position consistent record pending timed
  have updated := buffer_matches_moved s.samplingBuffer s.moved word written
  rw [convert_running word converting running]
  cases count with
  | zero =>
    refine ⟨?_, fun _ => ⟨by simp; omega, by simpa [← total] using updated⟩⟩
    rintro count dst loaded
    simp [Channel.load] at loaded
  | succ count =>
    refine ⟨?_, by simp [pending]⟩
    rintro count' dst' loaded
    simp only [Nat.add_one_ne_zero, if_false, Channel.running.injEq, true_and] at loaded
    obtain ⟨rfl, rfl⟩ := loaded
    exact ⟨by simp, by omega, by simpa using updated⟩

theorem step_session_record {s s' : Monitor} (event : Event) (consistent : Consistent s)
    (record : SessionRecord s) (stepped : step s event = some s') : SessionRecord s' := by
  rcases step_cases stepped with ⟨statusOk, -, pending, rfl⟩ | ⟨-, pending, rfl⟩ |
    ⟨word, -, pending, timed, rfl⟩ | ⟨-, pending, rfl⟩ | ⟨-, -, rfl⟩ | ⟨-, rfl⟩
  · cases started : s.startedSampling
    · rw [start_next_idle s statusOk started, consistent.descriptor]
      refine ⟨?_, by simp [pending]⟩
      rintro count dst loaded
      cases loaded
      exact ⟨rfl, rfl, nofun⟩
    · rwa [start_next_started s statusOk started]
  · exact ⟨nofun, by simp [stop_eq, pending]⟩
  · exact convert_session_record word consistent record pending timed
  · refine ⟨fun count dst running => ?_, by simp [ldma_irq_handler_eq]⟩
    have armed := consistent.doneAfterSession pending
    simp only [ldma_irq_handler_eq] at running
    simp [running, Channel.sessionArmed] at armed
  · rw [sleeptimer_expire_eq]
    exact ⟨record.running, record.done⟩
  · exact ⟨record.running, record.done⟩

theorem Reachable.session_record {s : Monitor} (reachable : Reachable s) : SessionRecord s := by
  induction reachable with
  | init neighbours ram => exact init_session_record neighbours ram
  | step event previous stepped ih => exact step_session_record event previous.consistent ih stepped

/-- Every conversion taken is the next word of a session armed by start_next. -/
theorem session_transfer_writes_next_word (s s' : Monitor) (word : UInt32) (reachable : Reachable s)
    (stepped : step s (.hardware (.convert word)) = some s') :
    s.channel.sessionArmed = true ∧ s.moved.length ≤ numOfSamples ∧
    s'.samplingBuffer = Function.update s.samplingBuffer s.moved.length word ∧
    s'.moved = s.moved ++ [word] ∧ (s'.ldmaDone = true ↔ s.moved.length = numOfSamples) := by
  obtain ⟨pending, timed, rfl⟩ := step_convert_some.mp stepped
  obtain ⟨armed, bounded, buffer, moved, done⟩ :=
    convert_next_word word reachable.consistent reachable.session_record pending timed
  exact ⟨armed, bounded, buffer, moved, by simp [done]⟩

theorem session_transfer_writes_next_word_first :
    let s := leVoltageMonitorStartNext true (leVoltageMonitorInit (fun _ => ldmaDescriptor) fun _ => 0)
    Reachable s ∧ step s (.hardware (.convert 7)) = some (convert 7 s) ∧
      (s.channel.sessionArmed = true ∧ s.moved.length ≤ numOfSamples ∧
      (convert 7 s).samplingBuffer = Function.update s.samplingBuffer s.moved.length 7 ∧
      (convert 7 s).moved = s.moved ++ [7] ∧
      ((convert 7 s).ldmaDone = true ↔ s.moved.length = numOfSamples)) :=
  have reachable := Reachable.step (.startNext true) (.init _ _) rfl
  have stepped := step_convert_some.mpr ⟨rfl, rfl, rfl⟩
  ⟨reachable, stepped, session_transfer_writes_next_word _ _ 7 reachable stepped⟩

end LeVoltageMonitor

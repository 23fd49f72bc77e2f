import LeVoltageMonitor.Session

/- The sampling state machine as the design states it: start opens a session only from Idle,
   stop closes it from either state, each conversion of an open session lands at the next index,
   the `count`-th raises the completion interrupt, and its handler returns to Idle and signals
   the application. The design asks for `count` = NUM_OF_SAMPLES. It keeps no pin, sleeptimer or
   stack, so their events change nothing here. -/

set_option autoImplicit false

namespace LeVoltageMonitor

inductive SessionState where
  | idle
  | active
deriving DecidableEq, Repr

structure Sampler where
  state : SessionState
  buffer : Nat → UInt32
  session : List UInt32
  completing : Bool
  signalled : Bool

def Sampler.start (a : Sampler) : Sampler :=
  match a.state with
  | .idle => { a with state := .active, session := [] }
  | .active => a

def Sampler.transfer (count : Nat) (word : UInt32) (a : Sampler) : Sampler :=
  { a with buffer := Function.update a.buffer a.session.length word, session := a.session ++ [word],
           completing := decide (a.session.length + 1 = count) }

def Sampler.complete (a : Sampler) : Sampler :=
  { a with state := .idle, completing := false, signalled := true }

def Sampler.step (count : Nat) (a : Sampler) : Event → Option Sampler
  | .startNext _ => if a.completing then none else some a.start
  | .stop => if a.completing then none else some { a with state := .idle }
  | .hardware (.convert word) =>
    if a.completing = false ∧ a.state = .active then some (a.transfer count word) else none
  | .hardware .ldmaIrq => if a.completing then some a.complete else none
  | .hardware .sleeptimerFire | .hardware .frameReused => some a

def Sampler.exec (count : Nat) (a : Sampler) : List Event → Option Sampler
  | [] => some a
  | event :: rest => (a.step count event).bind fun next => next.exec count rest

def Sampler.Recorded (a : Sampler) : Prop :=
  ∀ i < a.session.length, a.buffer i = a.session.getD i 0

section Machine

variable (count : Nat)

theorem Sampler.recorded_step {a a' : Sampler} (event : Event) (recorded : a.Recorded)
    (stepped : a.step count event = some a') : a'.Recorded := by
  cases event with
  | startNext statusOk =>
    cases completing : a.completing <;> simp only [Sampler.step, completing] at stepped <;> cases stepped
    unfold Sampler.start
    split
    · exact nofun
    · exact recorded
  | stop =>
    cases completing : a.completing <;> simp only [Sampler.step, completing] at stepped <;> cases stepped
    exact recorded
  | hardware h =>
    cases h with
    | convert word =>
      simp only [Sampler.step] at stepped
      split at stepped <;> cases stepped
      exact fun i below => buffer_matches_moved a.buffer a.session word recorded i
        (by simpa [Sampler.transfer] using below)
    | ldmaIrq =>
      cases completing : a.completing <;> simp only [Sampler.step, completing] at stepped <;> cases stepped
      exact recorded
    | sleeptimerFire | frameReused =>
      cases stepped
      exact recorded

theorem Sampler.recorded_exec {a a' : Sampler} (events : List Event) (recorded : a.Recorded)
    (run : a.exec count events = some a') : a'.Recorded := by
  induction events generalizing a with
  | nil => cases run; exact recorded
  | cons event rest ih =>
    simp only [Sampler.exec, Option.bind_eq_some] at run
    obtain ⟨next, stepped, restRun⟩ := run
    exact ih (Sampler.recorded_step count event recorded stepped) restRun

theorem Sampler.exec_append (a : Sampler) (first second : List Event) :
    a.exec count (first ++ second) = (a.exec count first).bind fun middle => middle.exec count second := by
  induction first generalizing a with
  | nil => rfl
  | cons event rest ih =>
    simp only [List.cons_append, Sampler.exec]
    cases a.step count event <;> simp [ih]

theorem Sampler.exec_converts (words : List UInt32) (a : Sampler) (active : a.state = .active)
    (ready : a.completing = false) (fits : a.session.length + words.length < count) :
    ∃ a', a.exec count ((words.map Hardware.convert).map Event.hardware) = some a' ∧
      a'.state = .active ∧ a'.completing = false ∧ a'.session = a.session ++ words ∧
      a'.signalled = a.signalled := by
  induction words generalizing a with
  | nil => exact ⟨a, rfl, active, ready, by simp, rfl⟩
  | cons word rest ih =>
    have stepped : a.step count (.hardware (.convert word)) = some (a.transfer count word) := by
      simp [Sampler.step, active, ready]
    obtain ⟨a', run, active', ready', session, signalled⟩ := ih (a.transfer count word) active
      (by simp only [Sampler.transfer, decide_eq_false_iff_not]; simp at fits; omega)
      (by simp only [Sampler.transfer, List.length_append, List.length_singleton]; simp at fits; omega)
    refine ⟨a', ?_, active', ready', by simp [session, Sampler.transfer], signalled⟩
    rw [List.map_cons, List.map_cons, Sampler.exec, stepped, Option.some_bind, run]

theorem Sampler.exec_rest_of_session (a : Sampler) (active : a.state = .active) (ready : a.completing = false)
    (recorded : a.Recorded) (words : List UInt32) (length : a.session.length + words.length = count)
    (short : a.session.length < count) :
    ∃ a', a.exec count ((words.map Hardware.convert ++ [Hardware.ldmaIrq]).map Event.hardware) = some a' ∧
      a'.state = .idle ∧ a'.completing = false ∧ a'.signalled = true ∧ a'.session = a.session ++ words ∧
      ∀ i < count, a'.buffer i = (a.session ++ words).getD i 0 := by
  obtain ⟨first, last, rfl⟩ : ∃ first last, words = first ++ [last] := by
    rcases List.eq_nil_or_concat words with nil | ⟨first, last, concat⟩
    · simp [nil] at length; omega
    · exact ⟨first, last, by simpa using concat⟩
  simp only [List.length_append, List.length_singleton] at length
  obtain ⟨open₁, run, active₁, ready₁, session, -⟩ :=
    Sampler.exec_converts count first a active ready (by omega)
  have lastStep : open₁.step count (.hardware (.convert last)) = some (open₁.transfer count last) := by
    simp [Sampler.step, active₁, ready₁]
  have filled : a.session.length + first.length + 1 = count := by omega
  have irqStep : (open₁.transfer count last).step count (.hardware .ldmaIrq) =
      some (open₁.transfer count last).complete := by
    simp [Sampler.step, Sampler.transfer, session, filled]
  have rest : a.exec count (((first ++ [last]).map Hardware.convert ++ [Hardware.ldmaIrq]).map Event.hardware) =
      some (open₁.transfer count last).complete := by
    simp only [List.map_append, List.append_assoc, List.map_cons, List.map_nil, List.singleton_append]
    rw [Sampler.exec_append, run, Option.some_bind]
    simp [Sampler.exec, lastStep, irqStep]
  have full : (open₁.transfer count last).complete.session = a.session ++ (first ++ [last]) := by
    simp [Sampler.complete, Sampler.transfer, session]
  have recorded' := Sampler.recorded_exec count _ recorded rest
  refine ⟨_, rest, rfl, rfl, rfl, full, fun i below => ?_⟩
  rw [recorded' i (by rw [full]; simp; omega), full]

theorem Sampler.exec_open_session (a : Sampler) (active : a.state = .active) (ready : a.completing = false)
    (empty : a.session = []) (words : List UInt32) (length : words.length = count) (positive : 0 < count) :
    ∃ a', a.exec count ((words.map Hardware.convert ++ [Hardware.ldmaIrq]).map Event.hardware) = some a' ∧
      a'.state = .idle ∧ a'.completing = false ∧ a'.signalled = true ∧ a'.session = words ∧
      ∀ i < count, a'.buffer i = words.getD i 0 := by
  obtain ⟨a', run, idle, done, signalled, session, buffer⟩ := Sampler.exec_rest_of_session count a active ready
    (fun i below => absurd below (by simp [empty])) words (by simp [empty, length]) (by simp [empty, positive])
  rw [empty, List.nil_append] at session buffer
  exact ⟨a', run, idle, done, signalled, session, buffer⟩

theorem Sampler.exec_session {a : Sampler} (idle : a.state = .idle) (ready : a.completing = false)
    (statusOk : Bool) (words : List UInt32) (length : words.length = count) (positive : 0 < count) :
    ∃ a', a.exec count
        (.startNext statusOk :: (words.map Hardware.convert ++ [Hardware.ldmaIrq]).map Event.hardware) = some a' ∧
      a'.state = .idle ∧ a'.completing = false ∧ a'.signalled = true ∧ a'.session = words ∧
      ∀ i < count, a'.buffer i = words.getD i 0 := by
  have started : a.step count (.startNext statusOk) = some { a with state := .active, session := [] } := by
    simp [Sampler.step, Sampler.start, idle, ready]
  obtain ⟨a', run, rest⟩ :=
    Sampler.exec_open_session count { a with state := .active, session := [] } rfl ready rfl words length positive
  exact ⟨a', by rw [Sampler.exec, started, Option.some_bind, run], rest⟩

end Machine

end LeVoltageMonitor

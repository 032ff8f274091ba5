import ManifoldOpt.Proofs.Solver.Lawful

/-!
How runs end. After its last completed iteration a run stops, or it fails: when the stopping rule is
asked, in the next step, or while that step is recorded. Whatever happens, the driver has changed
nothing but the memory of the rule, the count of iterations and the records by then.
-/

set_option autoImplicit false

namespace ManifoldOpt

open Attempt

def Run.attach {α S : Type} (recorder : Option (Recorder α)) (r : Run α S) : Run α S :=
  { r with recorder := recorder.or r.recorder }

def Stage.counted {α S : Type} (k : Int) (s : Stage α (Run α S)) : Stage α (Run α S) :=
  { s with state := { s.state with iteration := k } }

namespace Solver

variable {α S : Type} [Scalar α] {solver : Solver α S} {recorder : Option (Recorder α)}

variable (solver recorder) in
theorem prepare_eq (first : Stage α (Run α S)) :
    solver.prepare recorder first = (do
      solver.setUp
      Stage.modifyState fun r => { r with iteration := 0 }
      solver.startRecorder : Running α S Unit) ⟨first.trail, first.state.attach recorder⟩ := by
  unfold prepare
  cases recorder with
  | none => rfl
  | some recorder => rfl

theorem prepare_of_setUp {first s : Stage α (Run α S)}
    (set : solver.setUp ⟨first.trail, first.state.attach recorder⟩ = .ok () s) :
    solver.prepare recorder first = solver.startRecorder (s.counted 0) := by
  rw [prepare_eq]
  exact bind_of_ok set

section Recorder

omit [Scalar α]

variable {m : Attempt α (Stage α (Recorder α)) Unit} {s t : Stage α (Run α S)} {r : Recorder α}

theorem withRecorder_left : ∃ kept,
    (Attempt.left (withRecorder m s)).state = { s.state with recorder := kept } := by
  rw [withRecorder, Stage.getState_bind]
  cases attached : s.state.recorder with
  | none => exact ⟨s.state.recorder, rfl⟩
  | some r =>
    have keeps (recorder : Recorder α) (r : Run α S)
        (same : ∃ kept, r = { s.state with recorder := kept }) :
        ∃ kept, { r with recorder := some recorder } = { s.state with recorder := kept } := by
      obtain ⟨kept, rfl⟩ := same
      exact ⟨some recorder, rfl⟩
    exact Keeps.left (Stage.keeps_within keeps m) ⟨s.state.recorder, rfl⟩

variable (attached : s.state.recorder = some r)

include attached

theorem withRecorder_eq_ok :
    withRecorder m s = .ok () t ↔ ∃ u, m ⟨s.trail, r⟩ = .ok () u ∧
      t = ⟨u.trail, { s.state with recorder := some u.state }⟩ := by
  rw [withRecorder, Stage.getState_bind, attached]
  refine Stage.within_eq_ok.trans ?_
  rw [attached]
  rfl

theorem withRecorder_eq_error {e : Fault α} :
    withRecorder m s = .error e t ↔ ∃ u, m ⟨s.trail, r⟩ = .error e u ∧
      t = ⟨u.trail, { s.state with recorder := some u.state }⟩ := by
  rw [withRecorder, Stage.getState_bind, attached]
  refine Stage.within_eq_error.trans ?_
  rw [attached]
  rfl

end Recorder

theorem iterate_eq_error {k : Int} {s t : Stage α (Run α S)} {e : Fault α} :
    solver.iterate k s = .error e t ↔ solver.step k s = .error e t ∨
      ∃ u, solver.step k s = .ok () u ∧ solver.recordIteration k (u.counted k) = .error e t := by
  refine bind_eq_error.trans (or_congr_right ?_)
  constructor
  · rintro ⟨_, u, stepped, rest⟩
    rcases bind_eq_error.mp rest with impossible | ⟨_, v, counted, rest⟩
    · cases impossible
    cases counted
    rcases bind_eq_error.mp rest with failed | ⟨_, w, -, rest⟩
    · exact ⟨u, stepped, failed⟩
    -- Reporting an iteration does not fail.
    · cases rest
  · rintro ⟨u, stepped, failed⟩
    refine ⟨(), u, stepped, bind_eq_error.mpr (.inr ⟨(), _, rfl, ?_⟩)⟩
    exact bind_eq_error.mpr (.inl failed)

theorem iterate_eq_ok {k : Int} {s t : Stage α (Run α S)} (done : solver.iterate k s = .ok () t) :
    ∃ u v, solver.step k s = .ok () u ∧ solver.recordIteration k (u.counted k) = .ok () v ∧
      t = Stage.noting (.completed solver.name k v.state.lastStepsize) v := by
  obtain ⟨_, u, stepped, rest⟩ := bind_eq_ok.mp done
  obtain ⟨_, _, counted, rest⟩ := bind_eq_ok.mp rest
  cases counted
  obtain ⟨_, v, recorded, rest⟩ := bind_eq_ok.mp rest
  cases rest
  exact ⟨u, v, stepped, recorded, rfl⟩

/-- How a run that may ask its stopping rule a number of times ends from the stage `s` after `n`
iterations, with the numbers of steps begun, completed and recorded by then. -/
inductive Ending (solver : Solver α S) (allowance n : Nat) (s : Stage α (Run α S)) :
    Nat → Nat → Nat → EStateM.Result (Fault α) (Stage α (Run α S)) Unit → Prop
  | exhausted (spent : n = allowance) : Ending solver allowance n s n n n (.error .unfinished s)
  | stopped {t : Stage α (Run α S)} (unspent : n < allowance)
    (fired : solver.shouldStop n s = .ok true t) :
    Ending solver allowance n s n n n (solver.finish n t)
  | unanswered {t : Stage α (Run α S)} {e : Fault α} (unspent : n < allowance)
    (failed : solver.shouldStop n s = .error e t) : Ending solver allowance n s n n n (.error e t)
  | interrupted {t u : Stage α (Run α S)} {e : Fault α} (unspent : n < allowance)
    (going : solver.shouldStop n s = .ok false t) (failed : solver.step (n + 1) t = .error e u) :
    Ending solver allowance n s (n + 1) n n (.error e u)
  | unrecorded {t u v : Stage α (Run α S)} {e : Fault α} (unspent : n < allowance)
    (going : solver.shouldStop n s = .ok false t) (stepped : solver.step (n + 1) t = .ok () u)
    (failed : solver.recordIteration (n + 1) (u.counted (n + 1)) = .error e v) :
    Ending solver allowance n s (n + 1) (n + 1) n (.error e v)

inductive Ends (solver : Solver α S) (allowance : Nat) (recorder : Option (Recorder α))
    (first : Stage α (Run α S)) :
    Nat → Nat → Nat → EStateM.Result (Fault α) (Stage α (Run α S)) Unit → Prop
  | unprepared {s : Stage α (Run α S)} {e : Fault α}
    (failed : solver.prepare recorder first = .error e s) :
    Ends solver allowance recorder first 0 0 0 (.error e s)
  | after {n begun completed recorded : Nat} {stages : Nat → Stage α (Run α S)}
    {result : EStateM.Result (Fault α) (Stage α (Run α S)) Unit}
    (course : Course solver recorder first n stages)
    (ending : Ending solver allowance n (stages n) begun completed recorded result) :
    Ends solver allowance recorder first begun completed recorded result

variable {first : Stage α (Run α S)} {n : Nat} {stages : Nat → Stage α (Run α S)}

theorem loop_ends (allowance : Nat) (course : Course solver recorder first n stages) :
    ∃ begun completed recorded, Ends solver (n + allowance) recorder first begun completed recorded
      (solver.loop allowance n (stages n)) := by
  -- As for runs that stop, the course made so far grows with every iteration of the loop.
  induction allowance generalizing n stages with
  | zero => exact ⟨n, n, n, .after course (.exhausted rfl)⟩
  | succ allowance ih =>
    have unspent : n < n + (allowance + 1) := by omega
    rw [loop]
    cases asked : solver.shouldStop n (stages n) with
    | error e t =>
      rw [bind_of_error asked]
      exact ⟨n, n, n, .after course (.unanswered unspent asked)⟩
    | ok stops t =>
      rw [bind_of_ok asked]
      cases stops with
      | true => exact ⟨n, n, n, .after course (.stopped unspent asked)⟩
      | false =>
        rw [if_neg Bool.false_ne_true]
        cases iterated : solver.iterate (n + 1) t with
        | error e u =>
          rw [bind_of_error iterated]
          rcases iterate_eq_error.mp iterated with failed | ⟨v, stepped, failed⟩
          · exact ⟨n + 1, n, n, .after course (.interrupted unspent asked failed)⟩
          · exact ⟨n + 1, n + 1, n, .after course (.unrecorded unspent asked stepped failed)⟩
        | ok _ u =>
          rw [bind_of_ok iterated]
          have further := ih (course.extend asked iterated)
          rw [Function.update_self, show n + 1 + allowance = n + (allowance + 1) by omega] at further
          exact further

variable (solver recorder first) in
theorem solve_ends (allowance : Nat) :
    ∃ begun completed recorded, Ends solver allowance recorder first begun completed recorded
      (solver.solve allowance recorder first) := by
  cases prepared : solver.prepare recorder first with
  | error e s =>
    rw [solve, bind_of_error prepared]
    exact ⟨0, 0, 0, .unprepared prepared⟩
  | ok _ s =>
    rw [solve, bind_of_ok prepared]
    have course : Course solver recorder first 0 fun _ => s :=
      ⟨prepared, fun k inside => absurd inside (Nat.not_lt_zero k)⟩
    have ends := loop_ends allowance course
    rwa [Nat.zero_add] at ends

variable (solver) in
theorem shouldStop_left (k : Int) (s : Stage α (Run α S)) : ∃ memory,
    (Attempt.left (solver.shouldStop k s)).state =
      { s.state with stop := { s.state.stop with memory } } := by
  rw [shouldStop, Stage.getState_bind]
  have keeps (memory : Memory α) (r : Run α S)
      (same : ∃ old, r = { s.state with stop := { s.state.stop with memory := old } }) :
      ∃ new, { r with stop := { r.stop with memory } } =
        { s.state with stop := { s.state.stop with memory := new } } := by
    obtain ⟨old, rfl⟩ := same
    exact ⟨memory, rfl⟩
  exact Keeps.left (Stage.keeps_within keeps _) ⟨s.state.stop.memory, rfl⟩

theorem finish_left (k : Int) (s : Stage α (Run α S)) :
    (Attempt.left (solver.finish k s)).state = s.state := by
  rw [finish, Stage.getState_bind]
  refine Keeps.left (I := fun t : Stage α (Run α S) => t.state = s.state) ?_ rfl
  refine (keeps_liftM _).bind fun level => Keeps.ite (fun _ => ?_) fun _ => keeps_pure _
  exact Stage.keeps_emit (fun r => r = s.state) _

variable (solver) in
theorem startRecorder_left (s : Stage α (Run α S)) : ∃ kept,
    (Attempt.left (solver.startRecorder s)).state = { s.state with recorder := kept } :=
  withRecorder_left

variable (solver) in
theorem recordIteration_left (k : Int) (s : Stage α (Run α S)) : ∃ kept,
    (Attempt.left (solver.recordIteration k s)).state = { s.state with recorder := kept } :=
  withRecorder_left

section Ending

variable {allowance begun completed recorded : Nat} {s : Stage α (Run α S)}
  {result : EStateM.Result (Fault α) (Stage α (Run α S)) Unit}
  (ending : Ending solver allowance n s begun completed recorded result)

include ending

theorem Ending.recorded_eq : recorded = n := by
  cases ending with
  | exhausted spent => rfl
  | stopped unspent fired => rfl
  | unanswered unspent failed => rfl
  | interrupted unspent going failed => rfl
  | unrecorded unspent going stepped failed => rfl

theorem Ending.loop_eq (unspent : n < allowance) (more : Nat) :
    solver.loop (more + 1) n s = result := by
  rw [loop]
  cases ending with
  | exhausted spent => omega
  | stopped unspent fired => exact bind_of_ok fired
  | unanswered unspent failed => exact bind_of_error failed
  | interrupted unspent going failed =>
    rw [bind_of_ok going]
    exact bind_of_error (iterate_eq_error.mpr (.inl failed))
  | unrecorded unspent going stepped failed =>
    rw [bind_of_ok going]
    exact bind_of_error (iterate_eq_error.mpr (.inr ⟨_, stepped, failed⟩))

theorem Ending.iteration_eq (leaves : solver.LeavesDriver) (counted : s.state.iteration = n) :
    (Attempt.left result).state.iteration = completed := by
  have asked {answer : Bool} {t : Stage α (Run α S)}
      (given : solver.shouldStop n s = .ok answer t) : t.state.iteration = n := by
    obtain ⟨memory, left⟩ := shouldStop_state given
    rw [left]
    exact counted
  cases ending with
  | exhausted spent => exact counted
  | stopped unspent fired => rw [finish_left, asked fired]
  | unanswered unspent failed =>
    obtain ⟨memory, left⟩ := shouldStop_left solver n s
    rw [failed] at left
    exact (congrArg Run.iteration left).trans counted
  | interrupted unspent going failed =>
    exact ((leaves.step _).of_error failed).iteration.trans (asked going)
  | unrecorded unspent going stepped failed =>
    obtain ⟨kept, left⟩ := recordIteration_left solver (n + 1) (Stage.counted (n + 1) _)
    rw [failed] at left
    exact congrArg Run.iteration left

theorem Ending.recorder_eq (leaves : solver.LeavesDriver) (complete : completed = recorded) :
    (Attempt.left result).state.recorder = s.state.recorder := by
  have asked {answer : Bool} {t : Stage α (Run α S)}
      (given : solver.shouldStop n s = .ok answer t) :
      t.state.recorder = s.state.recorder := by
    obtain ⟨memory, left⟩ := shouldStop_state given
    rw [left]
  cases ending with
  | exhausted spent => rfl
  | stopped unspent fired => rw [finish_left, asked fired]
  | unanswered unspent failed =>
    obtain ⟨memory, left⟩ := shouldStop_left solver n s
    rw [failed] at left
    exact (congrArg Run.recorder left :)
  | interrupted unspent going failed =>
    exact ((leaves.step _).of_error failed).recorder.trans (asked going)
  | unrecorded unspent going stepped failed => omega

end Ending

theorem Ends.iteration_eq (leaves : solver.LeavesDriver) {u : Stage α (Run α S)}
    (set : solver.setUp ⟨first.trail, first.state.attach recorder⟩ = .ok () u)
    {allowance begun completed recorded : Nat}
    {result : EStateM.Result (Fault α) (Stage α (Run α S)) Unit}
    (ends : Ends solver allowance recorder first begun completed recorded result) :
    (Attempt.left result).state.iteration = completed := by
  cases ends with
  | unprepared failed =>
    rw [prepare_of_setUp set] at failed
    obtain ⟨kept, left⟩ := startRecorder_left solver (u.counted 0)
    rw [failed] at left
    exact congrArg Run.iteration left
  | after course ending =>
    exact ending.iteration_eq leaves (course.iteration_eq (Nat.le_refl _))

end Solver

end ManifoldOpt

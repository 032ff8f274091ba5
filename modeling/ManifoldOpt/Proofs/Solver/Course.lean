import Mathlib.Logic.Function.Basic
import ManifoldOpt.Proofs.Attempt

/-!
The course of a run: the stages after its preparation and after each completed iteration. A run that
ends has a course, the last stage of which makes the stopping rule fire. Asking the stopping rule
and recording leave the solver's own state alone, so that a course is determined by the set up and
the steps of the solver.
-/

set_option autoImplicit false

namespace ManifoldOpt

namespace Solver

open Attempt

variable {α S : Type} [Scalar α]

/-- `stages 0` is the stage of a run after its preparation and `stages k` that after iteration `k`,
for the first `n` iterations. -/
structure Course (solver : Solver α S) (recorder : Option (Recorder α))
    (first : Stage α (Run α S)) (n : Nat) (stages : Nat → Stage α (Run α S)) : Prop where
  prepared : solver.prepare recorder first = .ok () (stages 0)
  continued : ∀ k < n, ∃ t, solver.shouldStop k (stages k) = .ok false t ∧
    solver.iterate (k + 1) t = .ok () (stages (k + 1))

variable {solver : Solver α S} {recorder : Option (Recorder α)} {first : Stage α (Run α S)}
  {n : Nat} {stages : Nat → Stage α (Run α S)}

theorem Course.shorten {m : Nat} (course : Course solver recorder first n stages) (le : m ≤ n) :
    Course solver recorder first m stages :=
  ⟨course.prepared, fun k inside => course.continued k (by omega)⟩

theorem Course.extend {t u : Stage α (Run α S)} (course : Course solver recorder first n stages)
    (going : solver.shouldStop n (stages n) = .ok false t)
    (iterated : solver.iterate (n + 1) t = .ok () u) :
    Course solver recorder first (n + 1) (Function.update stages (n + 1) u) := by
  constructor
  · rw [Function.update_of_ne (by omega)]
    exact course.prepared
  · intro k inside
    rw [Function.update_of_ne (by omega : k ≠ n + 1)]
    by_cases last : k = n
    · subst last
      rw [Function.update_self]
      exact ⟨t, going, iterated⟩
    · rw [Function.update_of_ne (by omega : k + 1 ≠ n + 1)]
      exact course.continued k (by omega)

theorem loop_eq_ok {allowance : Nat} {last : Stage α (Run α S)}
    (course : Course solver recorder first n stages)
    (ended : solver.loop allowance n (stages n) = .ok () last) :
    ∃ m further t, Course solver recorder first m further ∧
      solver.shouldStop m (further m) = .ok true t ∧ solver.finish m t = .ok () last := by
  -- The course made so far grows by one stage with every iteration of the loop.
  induction allowance generalizing n stages with
  | zero => exact absurd ended throw_ne_ok
  | succ allowance ih =>
    rw [loop, bind_eq_ok] at ended
    obtain ⟨stopping, t, asked, rest⟩ := ended
    cases stopping with
    | true => exact ⟨n, stages, t, course, asked, rest⟩
    | false =>
      obtain ⟨_, u, iterated, rest⟩ := bind_eq_ok.mp rest
      refine ih (course.extend asked iterated) ?_
      rw [Function.update_self]
      exact rest

theorem solve_eq_ok {allowance : Nat} {last : Stage α (Run α S)}
    (ended : solver.solve allowance recorder first = .ok () last) :
    ∃ n stages t, Course solver recorder first n stages ∧
      solver.shouldStop n (stages n) = .ok true t ∧ solver.finish n t = .ok () last := by
  obtain ⟨_, s, prepared, rest⟩ := bind_eq_ok.mp ended
  have course : Course solver recorder first 0 fun _ => s :=
    ⟨prepared, fun k inside => absurd inside (Nat.not_lt_zero k)⟩
  exact loop_eq_ok course rest

theorem shouldStop_state {k : Int} {s t : Stage α (Run α S)} {answer : Bool}
    (asked : solver.shouldStop k s = .ok answer t) :
    ∃ memory, t.state = { s.state with stop := { s.state.stop with memory } } := by
  obtain ⟨_, _, read, rest⟩ := bind_eq_ok.mp asked
  cases read
  obtain ⟨u, _, rfl⟩ := Stage.within_eq_ok.mp rest
  exact ⟨u.state, rfl⟩

omit [Scalar α] in
theorem withRecorder_state {m : Attempt α (Stage α (Recorder α)) Unit} {s t : Stage α (Run α S)}
    (done : withRecorder m s = .ok () t) : ∃ kept, t.state = { s.state with recorder := kept } := by
  obtain ⟨_, _, read, rest⟩ := bind_eq_ok.mp done
  cases read
  cases attached : s.state.recorder with
  | none =>
    rw [attached] at rest
    obtain ⟨-, rfl⟩ := pure_eq_ok.mp rest
    exact ⟨s.state.recorder, rfl⟩
  | some recorder =>
    rw [attached] at rest
    obtain ⟨u, _, rfl⟩ := Stage.within_eq_ok.mp rest
    exact ⟨some u.state, rfl⟩

omit [Scalar α] in
theorem withRecorder_none {m : Attempt α (Stage α (Recorder α)) Unit} {s : Stage α (Run α S)}
    (unrecorded : s.state.recorder = none) : withRecorder m s = .ok () s := by
  refine bind_eq_ok.mpr ⟨s.state, s, rfl, ?_⟩
  rw [unrecorded]
  rfl

variable (solver) in
theorem shouldStop_budget (k : Int) {s : Stage α (Run α S)} {cell : Nat} {limit : Number α}
    (root : s.state.stop.root = .afterIteration cell limit) :
    ∃ t, solver.shouldStop k s = .ok (limit.le (.int k)) t ∧ t.trail.tally = s.trail.tally ∧
      ∃ memory, t.state = { s.state with stop := { s.state.stop with memory } } := by
  have asked : ∃ t, s.state.stop.ask (solver.view s.state.own) k ⟨s.trail, s.state.stop.memory⟩ =
      .ok (limit.le (.int k)) t ∧ t.trail.tally = s.trail.tally := by
    -- What is reset or remembered on the way does not show in the answer.
    simp only [StoppingRule.ask, root, Criterion.check, Criterion.checkBudget]
    by_cases first : k = 0 <;> cases limit.le (.int k) <;>
      simp only [first, if_true, if_false] <;> exact ⟨_, rfl, rfl⟩
  obtain ⟨t, answered, tally⟩ := asked
  refine ⟨⟨t.trail, { s.state with stop := { s.state.stop with memory := t.state } }⟩, ?_, tally,
    t.state, rfl⟩
  exact bind_eq_ok.mpr ⟨s.state, s, rfl, Stage.within_eq_ok.mpr ⟨t, answered, rfl⟩⟩

variable (solver) in
theorem iterate_unrecorded {k : Int} {s t : Stage α (Run α S)} (stepped : solver.step k s = .ok () t)
    (unrecorded : t.state.recorder = none) :
    solver.iterate k s = .ok () (Stage.noting (.completed solver.name k t.state.lastStepsize)
      { t with state := { t.state with iteration := k } }) := by
  let counted : Stage α (Run α S) := { t with state := { t.state with iteration := k } }
  have recorded : solver.recordIteration k counted = .ok () counted :=
    bind_eq_ok.mpr ⟨counted.state, counted, rfl, withRecorder_none unrecorded⟩
  exact bind_eq_ok.mpr ⟨(), t, stepped, bind_eq_ok.mpr ⟨(), counted, rfl,
    bind_eq_ok.mpr ⟨(), counted, recorded, rfl⟩⟩⟩

theorem iterate_state {k : Int} {s t : Stage α (Run α S)} (done : solver.iterate k s = .ok () t) :
    ∃ u kept, solver.step k s = .ok () u ∧
      t.state = { u.state with iteration := k, recorder := kept } := by
  obtain ⟨_, u, stepped, rest⟩ := bind_eq_ok.mp done
  obtain ⟨_, _, counted, rest⟩ := bind_eq_ok.mp rest
  cases counted
  obtain ⟨_, v, recorded, rest⟩ := bind_eq_ok.mp rest
  obtain ⟨_, _, read, recorded⟩ := bind_eq_ok.mp recorded
  cases read
  obtain ⟨kept, left⟩ := withRecorder_state recorded
  obtain ⟨_, _, read, emitted⟩ := bind_eq_ok.mp rest
  cases read
  cases emitted
  exact ⟨u, kept, stepped, left⟩

theorem prepare_state {s t : Stage α (Run α S)} (done : solver.prepare recorder s = .ok () t) :
    ∃ r u kept, solver.setUp ⟨s.trail, { s.state with recorder := r }⟩ = .ok () u ∧
      t.state = { u.state with iteration := 0, recorder := kept } := by
  -- Whether a recorder is attached first or not, the set up is followed by the same.
  have setting {v : Stage α (Run α S)}
      (rest : (do
        solver.setUp
        Stage.modifyState fun r => { r with iteration := 0 }
        solver.startRecorder : Running α S Unit) v = .ok () t) :
      ∃ u kept, solver.setUp v = .ok () u ∧
        t.state = { u.state with iteration := 0, recorder := kept } := by
    obtain ⟨_, u, set, rest⟩ := bind_eq_ok.mp rest
    obtain ⟨_, _, counted, rest⟩ := bind_eq_ok.mp rest
    cases counted
    obtain ⟨_, _, read, started⟩ := bind_eq_ok.mp rest
    cases read
    obtain ⟨kept, left⟩ := withRecorder_state started
    exact ⟨u, kept, set, left⟩
  unfold prepare at done
  split at done
  · obtain ⟨_, _, attached, rest⟩ := bind_eq_ok.mp done
    cases attached
    exact ⟨recorder, setting rest⟩
  · exact ⟨s.state.recorder, setting done⟩

theorem finish_state {k : Int} {s t : Stage α (Run α S)} (done : solver.finish k s = .ok () t) :
    t.state = s.state := by
  obtain ⟨_, _, read, rest⟩ := bind_eq_ok.mp done
  cases read
  obtain ⟨_, -, rest⟩ := liftM_bind_eq_ok.mp rest
  split at rest
  · cases rest
    rfl
  · obtain ⟨-, rfl⟩ := pure_eq_ok.mp rest
    rfl

theorem Course.stepped (course : Course solver recorder first n stages) {k : Nat} (inside : k < n) :
    ∃ t u memory kept, solver.step (k + 1) t = .ok () u ∧
      t.state = { (stages k).state with stop := { (stages k).state.stop with memory } } ∧
      (stages (k + 1)).state = { u.state with iteration := k + 1, recorder := kept } := by
  obtain ⟨t, asked, iterated⟩ := course.continued k inside
  obtain ⟨memory, left⟩ := shouldStop_state asked
  obtain ⟨u, kept, stepped, reached⟩ := iterate_state iterated
  exact ⟨t, u, memory, kept, stepped, left, reached⟩

theorem Course.iteration_eq (course : Course solver recorder first n stages) {k : Nat}
    (inside : k ≤ n) : (stages k).state.iteration = k := by
  cases k with
  | zero =>
    obtain ⟨r, u, kept, -, left⟩ := prepare_state course.prepared
    rw [left]
    rfl
  | succ k =>
    obtain ⟨t, -, iterated⟩ := course.continued k inside
    obtain ⟨u, kept, -, left⟩ := iterate_state iterated
    rw [left]
    rfl

def Proceeds (solver : Solver α S) (n : Nat) (stages : Nat → Stage α (Run α S)) : Prop :=
  ∀ t, solver.shouldStop n (stages n) = .ok false t → ∃ u, solver.step (n + 1) t = .ok () u

/-- What the preparation leaves and every step of a course renews holds after each iteration, and the
course can be continued: a property of the number of iterations, the solver's own state and the last
step length. -/
theorem Course.carries {P : Nat → S → Option α → Prop}
    (course : Course solver recorder first n stages)
    (start : P 0 (stages 0).state.own (stages 0).state.lastStepsize)
    (next : ∀ k ≤ n, ∀ t, t.state.own = (stages k).state.own →
      P k t.state.own t.state.lastStepsize →
        ∃ u, solver.step (k + 1) t = .ok () u ∧ P (k + 1) u.state.own u.state.lastStepsize) :
    (∀ k ≤ n, P k (stages k).state.own (stages k).state.lastStepsize) ∧
      solver.Proceeds n stages := by
  have holds : ∀ k ≤ n, P k (stages k).state.own (stages k).state.lastStepsize := by
    intro k
    induction k with
    | zero => exact fun _ => start
    | succ k ih =>
      intro inside
      obtain ⟨t, u, memory, kept, stepped, asked, reached⟩ := course.stepped inside
      have before : P k t.state.own t.state.lastStepsize := by
        rw [asked]
        exact ih (by omega)
      obtain ⟨v, stepped', after⟩ := next k (by omega) t (by rw [asked]) before
      obtain ⟨-, rfl⟩ := EStateM.Result.ok.inj (stepped.symm.trans stepped')
      rw [reached]
      exact after
  refine ⟨holds, fun t asked => ?_⟩
  obtain ⟨memory, left⟩ := shouldStop_state asked
  have before : P n t.state.own t.state.lastStepsize := by
    rw [left]
    exact holds n (Nat.le_refl n)
  obtain ⟨u, stepped, -⟩ := next n (Nat.le_refl n) t (by rw [left]) before
  exact ⟨u, stepped⟩

/-- The stopping rule lets a run go on up to iteration `n` and ends it there, with the state `r`. -/
structure StopsAfter (solver : Solver α S) (recorder : Option (Recorder α))
    (first : Stage α (Run α S)) (n : Nat) (stages : Nat → Stage α (Run α S)) (r : Run α S) : Prop where
  course : Course solver recorder first n stages
  fired : ∃ t, solver.shouldStop n (stages n) = .ok true t ∧ r = t.state

theorem solve_stopsAfter {allowance : Nat} {last : Stage α (Run α S)}
    (ended : solver.solve allowance recorder first = .ok () last) :
    ∃ n stages, StopsAfter solver recorder first n stages last.state := by
  obtain ⟨n, stages, t, course, fired, finished⟩ := solve_eq_ok ended
  exact ⟨n, stages, course, t, fired, finish_state finished⟩

theorem StopsAfter.state {r : Run α S} (stops : StopsAfter solver recorder first n stages r) :
    ∃ memory, r = { (stages n).state with stop := { (stages n).state.stop with memory } } := by
  obtain ⟨t, fired, rfl⟩ := stops.fired
  exact shouldStop_state fired

end Solver

end ManifoldOpt

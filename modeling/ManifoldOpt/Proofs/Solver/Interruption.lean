import Mathlib.Data.Option.Basic
import ManifoldOpt.Proofs.Solver.Reports

set_option autoImplicit false

namespace ManifoldOpt

namespace Attempt

variable {α σ β : Type}

def value? : EStateM.Result (Fault α) σ β → Option (β × σ)
  | .ok b s => some (b, s)
  | .error _ _ => none

def fault? : EStateM.Result (Fault α) σ β → Option (Fault α × σ)
  | .ok _ _ => none
  | .error e s => some (e, s)

variable {x : EStateM.Result (Fault α) σ β} {s : σ}

theorem value?_eq_some {b : β} : value? x = some (b, s) ↔ x = .ok b s := by
  cases x <;> simp [value?]

theorem fault?_eq_some {e : Fault α} : fault? x = some (e, s) ↔ x = .error e s := by
  cases x <;> simp [fault?]

end Attempt

namespace Solver

open Attempt

variable {α S : Type} [Scalar α] {solver : Solver α S} {recorder : Option (Recorder α)}
  {first : Stage α (Run α S)} {n : Nat} {stages : Nat → Stage α (Run α S)} {e : Fault α}
  {last : Stage α (Run α S)}

/-- After `n` iterations a run goes on with a step that fails with `e` and leaves the stage `last`. -/
structure BreaksOff (solver : Solver α S) (recorder : Option (Recorder α))
    (first : Stage α (Run α S)) (n : Nat) (stages : Nat → Stage α (Run α S)) (e : Fault α)
    (last : Stage α (Run α S)) : Prop where
  course : Course solver recorder first n stages
  failed : ∃ t, solver.shouldStop n (stages n) = .ok false t ∧ solver.step (n + 1) t = .error e last

namespace BreaksOff

variable (broken : BreaksOff solver recorder first n stages e last)

include broken

theorem ending {allowance : Nat} (unspent : n < allowance) :
    Ending solver allowance n (stages n) (n + 1) n n (.error e last) := by
  obtain ⟨t, going, failed⟩ := broken.failed
  exact .interrupted unspent going failed

theorem solve_eq {allowance : Nat} (unspent : n < allowance) :
    solver.solve allowance recorder first = .error e last :=
  (broken.ending unspent).solve_eq broken.course

theorem stepped : ∃ t memory, solver.step (n + 1) t = .error e last ∧
    t.state = { (stages n).state with stop := { (stages n).state.stop with memory } } := by
  obtain ⟨t, going, failed⟩ := broken.failed
  obtain ⟨memory, left⟩ := shouldStop_state going
  exact ⟨t, memory, failed, left⟩

variable (leaves : solver.LeavesDriver)

include leaves

theorem iteration_eq : last.state.iteration = n :=
  (broken.ending (Nat.lt_succ_self n)).iteration_eq leaves
    (broken.course.iteration_eq (Nat.le_refl n))

theorem recorder_eq : last.state.recorder = (stages n).state.recorder :=
  (broken.ending (Nat.lt_succ_self n)).recorder_eq leaves rfl

theorem recorded {r : Recorder α} (attached : (first.state.attach recorder).recorder = some r) :
    ∃ kept, last.state.recorder = some kept ∧
      Recorded r.fields (views solver stages) (sizes stages) n kept := by
  obtain ⟨kept, reached, held⟩ := broken.course.recorded leaves attached (Nat.le_refl n)
  exact ⟨kept, (broken.recorder_eq leaves).trans reached, held⟩

end BreaksOff

inductive Failure (solver : Solver α S) (allowance : Nat) (recorder : Option (Recorder α))
    (first : Stage α (Run α S)) (e : Fault α) : Prop
  | step {n : Nat} {stages : Nat → Stage α (Run α S)} {last : Stage α (Run α S)}
    (broken : BreaksOff solver recorder first n stages e last)
  | driver {completed recorded : Nat} {last : Stage α (Run α S)}
    (ends : Ends solver allowance recorder first completed completed recorded (.error e last))

theorem Ending.step_or_driver {allowance begun completed recorded : Nat} {s : Stage α (Run α S)}
    (ending : Ending solver allowance n s begun completed recorded (.error e last)) :
    (∃ t, solver.shouldStop n s = .ok false t ∧ solver.step (n + 1) t = .error e last) ∨
      begun = completed := by
  generalize given : EStateM.Result.error e last = result at ending
  cases ending with
  | exhausted spent => exact .inr rfl
  | stopped unspent fired => exact .inr rfl
  | unanswered unspent failed => exact .inr rfl
  | interrupted unspent going failed =>
    cases given
    exact .inl ⟨_, going, failed⟩
  | unrecorded unspent going stepped failed => exact .inr rfl

theorem solve_eq_error {allowance : Nat}
    (failed : solver.solve allowance recorder first = .error e last) :
    Failure solver allowance recorder first e := by
  obtain ⟨begun, completed, recorded, ends⟩ := solve_ends solver recorder first allowance
  rw [failed] at ends
  rcases ends with unprepared | ⟨course, ending⟩
  · exact .driver (.unprepared unprepared)
  rcases ending.step_or_driver with failed | rfl
  · exact .step ⟨course, failed⟩
  · exact .driver (.after course ending)

def reach (solver : Solver α S) (recorder : Option (Recorder α)) (first : Stage α (Run α S)) :
    Nat → Option (Stage α (Run α S))
  | 0 => (value? (solver.prepare recorder first)).map Prod.snd
  | n + 1 => do
    let s ← solver.reach recorder first n
    let asked ← value? (solver.shouldStop n s)
    guard (asked.1 = false)
    (value? (solver.iterate (n + 1) asked.2)).map Prod.snd

def brokenStep (solver : Solver α S) (recorder : Option (Recorder α)) (first : Stage α (Run α S))
    (n : Nat) : Option (Fault α × Stage α (Run α S)) := do
  let s ← solver.reach recorder first n
  let asked ← value? (solver.shouldStop n s)
  guard (asked.1 = false)
  fault? (solver.step (n + 1) asked.2)

theorem reach_succ {u : Stage α (Run α S)} (reached : solver.reach recorder first (n + 1) = some u) :
    ∃ s t, solver.reach recorder first n = some s ∧ solver.shouldStop n s = .ok false t ∧
      solver.iterate (n + 1) t = .ok () u := by
  obtain ⟨s, before, reached⟩ := Option.bind_eq_some_iff.mp reached
  obtain ⟨⟨stops, t⟩, asked, reached⟩ := Option.bind_eq_some_iff.mp reached
  obtain ⟨_, going, reached⟩ := Option.bind_eq_some_iff.mp reached
  obtain ⟨⟨_, u⟩, iterated, rfl⟩ := Option.map_eq_some_iff.mp reached
  obtain rfl : stops = false := (Option.guard_eq_some' _).mp going
  exact ⟨s, t, before, value?_eq_some.mp asked, value?_eq_some.mp iterated⟩

theorem Course.of_reach {s : Stage α (Run α S)} (reached : solver.reach recorder first n = some s) :
    Course solver recorder first n fun k => (solver.reach recorder first k).getD first := by
  induction n generalizing s with
  | zero =>
    obtain ⟨⟨_, u⟩, prepared, rfl⟩ := Option.map_eq_some_iff.mp reached
    refine ⟨?_, fun k inside => absurd inside (Nat.not_lt_zero k)⟩
    rw [reached]
    exact value?_eq_some.mp prepared
  | succ n ih =>
    obtain ⟨before, t, reached', going, iterated⟩ := reach_succ reached
    have course := ih reached'
    refine ⟨course.prepared, fun k inside => ?_⟩
    by_cases last : k = n
    · subst last
      refine ⟨t, ?_, ?_⟩
      · rw [reached']
        exact going
      · rw [reached]
        exact iterated
    · exact course.continued k (by omega)

theorem BreaksOff.of_brokenStep (failed : solver.brokenStep recorder first n = some (e, last)) :
    BreaksOff solver recorder first n (fun k => (solver.reach recorder first k).getD first) e
      last := by
  obtain ⟨s, reached, failed⟩ := Option.bind_eq_some_iff.mp failed
  obtain ⟨⟨stops, t⟩, asked, failed⟩ := Option.bind_eq_some_iff.mp failed
  obtain ⟨_, going, failed⟩ := Option.bind_eq_some_iff.mp failed
  obtain rfl : stops = false := (Option.guard_eq_some' _).mp going
  refine ⟨.of_reach reached, t, ?_, fault?_eq_some.mp failed⟩
  rw [reached]
  exact value?_eq_some.mp asked

end Solver

end ManifoldOpt

import ManifoldOpt.Proofs.Solver.Coupling

set_option autoImplicit false

namespace ManifoldOpt

namespace Solver

open Attempt

variable {α S T : Type} [Scalar α] {G : S → Prop} {Q : S → T → Prop}

/-- The solver that stays where it is. -/
def idle (solver : Solver α S) : Solver α S := { solver with step := fun _ => pure () }

/-- Up to their steps the solvers are alike, and they step alike from states that pass the guard. -/
structure AlikeWhile (G : S → Prop) (Q : S → T → Prop) (solver : Solver α S)
    (solver' : Solver α T) : Prop where
  idle : Alike Q solver.idle solver'.idle
  step : ∀ k s t, Stage.AlikeRuns Q s t → G s.state.own →
    Agree (Stage.AlikeRuns Q) Eq (solver.step k s) (solver'.step k t)

def Guarded (G : S → Prop) (solver : Solver α S) (recorder : Option (Recorder α))
    (first : Stage α (Run α S)) : Prop :=
  ∀ n stages t, Course solver recorder first n stages →
    solver.shouldStop n (stages n) = .ok false t → G (stages n).state.own

variable {solver : Solver α S} {solver' : Solver α T} {recorder : Option (Recorder α)}
  {first : Stage α (Run α S)} {first' : Stage α (Run α T)} {n : Nat}
  {stages : Nat → Stage α (Run α S)} (alike : AlikeWhile G Q solver solver')

include alike

theorem AlikeWhile.shouldStop (k : Int) :
    Couples (Stage.AlikeRuns Q) Eq (solver.shouldStop k) (solver'.shouldStop k) :=
  alike.idle.shouldStop k

theorem AlikeWhile.iterate (k : Int) {s : Stage α (Run α S)} {t : Stage α (Run α T)}
    (before : Stage.AlikeRuns Q s t) (guarded : G s.state.own) :
    Agree (Stage.AlikeRuns Q) Eq (solver.iterate k s) (solver'.iterate k t) := by
  -- What follows the step is an iteration of the solvers that stay where they are.
  refine (alike.step k s t before guarded).bind fun _ _ s t _ after => ?_
  exact alike.idle.iterate k s t after

theorem AlikeWhile.course (start : Stage.AlikeRuns Q first first')
    (course : Course solver recorder first n stages)
    (guarded : ∀ k < n, G (stages k).state.own) :
    ∃ stages', Course solver' recorder first' n stages' ∧
      ∀ k ≤ n, Stage.AlikeRuns Q (stages k) (stages' k) := by
  induction n with
  | zero =>
    obtain ⟨s, prepared, after⟩ := (alike.idle.prepare recorder).ok_left start course.prepared
    refine ⟨fun _ => s, ⟨prepared, fun k inside => absurd inside (Nat.not_lt_zero k)⟩, ?_⟩
    intro k inside
    obtain rfl := Nat.le_zero.mp inside
    exact after
  | succ n ih =>
    obtain ⟨stages', course', before⟩ := ih (course.shorten (Nat.le_succ n)) fun k inside =>
      guarded k (by omega)
    obtain ⟨t, asked, iterated⟩ := course.continued n (Nat.lt_succ_self n)
    obtain ⟨t', asked', between⟩ := (alike.shouldStop n).ok_left (before n (Nat.le_refl n)) asked
    have passed : G t.state.own := by
      obtain ⟨memory, left⟩ := shouldStop_state asked
      rw [left]
      exact guarded n (Nat.lt_succ_self n)
    have agree := alike.iterate (n + 1) between passed
    rw [iterated] at agree
    obtain ⟨u, iterated', after⟩ := agree.ok_left
    refine ⟨_, course'.extend asked' iterated', fun k inside => ?_⟩
    by_cases last : k = n + 1
    · subst last
      rw [Function.update_self]
      exact after
    · rw [Function.update_of_ne last]
      exact before k (by omega)

theorem AlikeWhile.next {s t : Stage α (Run α S)} {s' : Stage α (Run α T)} (k : Int)
    (before : Stage.AlikeRuns Q s s') (asked : solver.shouldStop k s = .ok false t)
    (guarded : G s.state.own) :
    ∃ t', solver'.shouldStop k s' = .ok false t' ∧
      Agree (Stage.AlikeRuns Q) Eq (solver.iterate (k + 1) t) (solver'.iterate (k + 1) t') := by
  obtain ⟨t', asked', between⟩ := (alike.shouldStop k).ok_left before asked
  refine ⟨t', asked', alike.iterate (k + 1) between ?_⟩
  obtain ⟨memory, left⟩ := shouldStop_state asked
  rw [left]
  exact guarded

theorem AlikeWhile.loop (guarded : Guarded G solver recorder first) (allowance : Nat)
    (course : Course solver recorder first n stages) {t : Stage α (Run α T)}
    (before : Stage.AlikeRuns Q (stages n) t) :
    Agree (Stage.AlikeRuns Q) Eq (solver.loop allowance n (stages n))
      (solver'.loop allowance n t) := by
  induction allowance generalizing n stages t with
  | zero => exact .error before
  | succ allowance ih =>
    refine (alike.shouldStop n _ _ before).bind_into (fun _ _ after => after) ?_
    rintro stops _ u u' asked rfl between
    cases stops with
    | true => exact alike.idle.finish n u u' between
    | false =>
      have passed : G u.state.own := by
        obtain ⟨memory, left⟩ := shouldStop_state asked
        rw [left]
        exact guarded n stages u course asked
      refine (alike.iterate (n + 1) between passed).bind_into (fun _ _ after => after) ?_
      rintro _ _ v v' iterated - after
      have further := ih (course.extend asked iterated) (t := v')
      rw [Function.update_self] at further
      exact further after

theorem AlikeWhile.solve (guarded : Guarded G solver recorder first) (allowance : Nat)
    (start : Stage.AlikeRuns Q first first') :
    Agree (Stage.AlikeRuns Q) Eq (solver.solve allowance recorder first)
      (solver'.solve allowance recorder first') := by
  refine (alike.idle.prepare recorder first first' start).bind_into (fun _ _ after => after) ?_
  rintro _ _ s t prepared - after
  have course : Course solver recorder first 0 fun _ => s :=
    ⟨prepared, fun k inside => absurd inside (Nat.not_lt_zero k)⟩
  exact alike.loop guarded allowance course after

end Solver

end ManifoldOpt

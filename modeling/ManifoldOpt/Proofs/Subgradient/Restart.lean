import ManifoldOpt.Proofs.Subgradient.Failure
import ManifoldOpt.Proofs.Subgradient.Renewal

set_option autoImplicit false

namespace ManifoldOpt

open Attempt

variable {α : Type} [Scalar α]

def CostProblem.Finds (problem : CostProblem α) (p : Tensor α) (c : α) : Prop :=
  ∃ s t, problem.costAt p s = .ok c t

namespace Subgradient

def SolvesAmong (problems : Problem α → Prop) (given : Solver α (SubgradientState α)) : Prop :=
  ∃ problem, problems problem ∧ given = solverFor problem

def Paired (problems : Problem α → Prop) (x : SubgradientState α) : Prop :=
  ∀ c ∈ x.bestCost, ∃ problem, problems problem ∧ problem.asCost.Finds x.best c

/-- The best point has its cost, found for the problem. -/
def Costed (problem : CostProblem α) (x : SubgradientState α) : Prop :=
  ∃ c, x.bestCost = some c ∧ problem.Finds x.best c

section Costed

variable {problem : CostProblem α}

theorem Costed.paired {problem : Problem α} {x : SubgradientState α}
    (costed : Costed problem.asCost x) {problems : Problem α → Prop} (given : problems problem) :
    Paired problems x := by
  obtain ⟨c, known, found⟩ := costed
  rintro c' known'
  obtain rfl := Option.some.inj (known.symm.trans known')
  exact ⟨problem, given, found⟩

theorem Advance.costed {k : Int} {old new : SubgradientState α} {v p : Tensor α}
    {length cost best : α} (advance : Advance problem k old new v p length cost best)
    (costed : Costed problem old) : Costed problem new := by
  obtain ⟨c, known, found⟩ := costed
  obtain rfl := Option.some.inj (known.symm.trans advance.known)
  obtain ⟨traces, rfl⟩ := advance.left
  refine ⟨_, rfl, ?_⟩
  split
  · exact advance.evaluated
  · exact found

theorem step_keeps_costed (k : Int) :
    Keeps (fun s => Costed problem s.state.own) (step problem k) := by
  refine .of_left fun s costed => ?_
  cases stepped : step problem k s with
  | ok _ t =>
    obtain ⟨v, p, length, cost, best, advance, -⟩ := step_eq_ok stepped
    exact advance.costed costed
  | error e t =>
    obtain ⟨c, known, found⟩ := costed
    obtain ⟨-, best, bestCost⟩ := step_eq_error known stepped
    exact ⟨c, bestCost.trans known, best ▸ found⟩

end Costed

section Start

variable {problem : Problem α} {recorder : Option (Recorder α)} {allowance : Nat}
  {r : Run α (SubgradientState α)} {s t : Trail α}

theorem solve_leaves_costed {c : α} (found : problem.asCost.costAt r.own.point s = .ok c t) :
    Costed problem.asCost
      (left ((solverFor problem).solve allowance recorder ⟨s, r⟩)).state.own := by
  have set := setUp_apply (s := ⟨s, r.attach recorder⟩) found
  exact Solver.solve_keeps_own (P := fun x _ => Costed problem.asCost x) set
    ⟨c, rfl, _, _, found⟩ step_keeps_costed allowance

theorem setUp_of_error {problem : CostProblem α} {e : Fault α}
    (failed : problem.costAt r.own.point s = .error e t) :
    setUp problem ⟨s, r⟩ = .error e ⟨t, { r with own := { r.own with best := r.own.point } }⟩ := by
  rw [setUp, Running.modifyOwn_bind, Running.getOwn_bind]
  exact bind_of_error (Stage.onTrail_eq_error.mpr ⟨t, failed, rfl⟩)

theorem solve_of_error {e : Fault α}
    (failed : problem.asCost.costAt r.own.point s = .error e t) :
    (solverFor problem).solve allowance recorder ⟨s, r⟩ =
      .error e ⟨t, { r.attach recorder with own := { r.own with best := r.own.point } }⟩ := by
  refine bind_of_error ?_
  rw [Solver.prepare_eq]
  exact bind_of_error (setUp_of_error failed)

end Start

/-- After any number of solves of a new state, its best point and best cost belong together unless
the last solve could not start. Then the best point is where it was to start, and the best cost is
still the one of the best point before, so that the two belong together only if the cost is the same
at both points. -/
theorem failed_start_keeps_cost {problems : Problem α → Prop}
    {first r : Run α (SubgradientState α)} (new : first.own.bestCost = none)
    (history : Run.History (SolvesAmong problems) SubgradientState.replacePoint first r) :
    (Paired problems r.own ∨
      ∃ r' problem e s t, problems problem ∧
        Run.History (SolvesAmong problems) SubgradientState.replacePoint first r' ∧
        problem.asCost.costAt r'.own.point s = .error e t ∧
        r.own.best = r'.own.point ∧ r.own.bestCost = r'.own.bestCost) ∧
    ∀ problem recorder allowance s,
      (∀ c t, problem.asCost.costAt r.own.point s = .ok c t →
        Costed problem.asCost
          (left ((solverFor problem).solve allowance recorder ⟨s, r⟩)).state.own) ∧
      ∀ e t, problem.asCost.costAt r.own.point s = .error e t →
        (solverFor problem).solve allowance recorder ⟨s, r⟩ =
          .error e ⟨t, { r.attach recorder with own := { r.own with best := r.own.point } }⟩ ∧
        ∀ f : Tensor α → α, (∀ problem, problems problem → problem.asCost.HasCost f) →
          Paired problems r.own → Paired problems { r.own with best := r.own.point } →
          ∀ c ∈ r.own.bestCost, c = f r.own.best ∧ f r.own.point = f r.own.best := by
  refine ⟨?_, fun problem recorder allowance s => ⟨fun c t => solve_leaves_costed, ?_⟩⟩
  · -- Only solves write the two.
    induction history with
    | new => exact .inl fun c known => by rw [new] at known; cases known
    | @solved r solver before given allowance recorder trail ih =>
      obtain ⟨problem, among, rfl⟩ := given
      cases found : problem.asCost.costAt r.own.point trail with
      | ok c t => exact .inl ((solve_leaves_costed found).paired among)
      | error e t =>
        rw [solve_of_error found]
        exact .inr ⟨r, problem, e, trail, t, among, before, found, rfl, rfl⟩
    | @moved r p own before replaced ih =>
      obtain ⟨_, -, rest⟩ := Outcome.bind_eq_ok.mp replaced
      cases rest
      exact ih
    | asked before view k trail ih => exact ih
  · intro e t failed
    refine ⟨solve_of_error failed, fun f computes before after c known => ?_⟩
    obtain ⟨problem, among, _, _, found⟩ := before c known
    obtain ⟨problem', among', _, _, found'⟩ := after c known
    have old : c = f r.own.best := computes problem among found
    exact ⟨old, (computes problem' among' found').symm.trans old⟩

def solvedOnce : EStateM.Result (Fault Float) (Stage Float (Run Float (SubgradientState Float))) Unit :=
  (solverFor (.cost guardedParabola)).solve 5 none (fromPoint 0.0625 1.5 (.after 1))

def solvedTwice :
    EStateM.Result (Fault Float) (Stage Float (Run Float (SubgradientState Float))) Unit :=
  (solverFor (.cost guardedParabola)).solve 5 none (left solvedOnce)

def IsGuarded (problem : Problem Float) : Prop := problem = .cost guardedParabola

theorem solvedOnce_history :
    Run.History (SolvesAmong IsGuarded) SubgradientState.replacePoint
      (fromPoint 0.0625 1.5 (.after 1)).state (left solvedOnce).state :=
  .solved .new ⟨_, rfl, rfl⟩ 5 none {}

theorem guardedParabola_hasCost {problem : Problem Float} (guarded : IsGuarded problem) :
    problem.asCost.HasCost fun p => Scalar.square (p.entries.headD 0) := by
  obtain rfl := guarded
  intro p s c t found
  obtain ⟨value, u, called, rest⟩ := bind_eq_ok.mp found
  obtain ⟨calls, v, -, rest'⟩ := bind_eq_ok.mp called
  split at rest'
  · exact absurd rest' throw_ne_ok
  · cases rest'
    cases rest
    rfl

theorem failed_start_keeps_cost_guarded :
    (fromPoint 0.0625 1.5 (.after 1)).state.own.bestCost = none ∧
    ∃ e t, guardedParabola.costAt (left solvedOnce).state.own.point (left solvedOnce).trail =
        .error e t ∧
      solvedTwice = .error e ⟨t, { (left solvedOnce).state with
        own := { (left solvedOnce).state.own with best := (left solvedOnce).state.own.point } }⟩ := by
  refine ⟨rfl, ?_⟩
  have failing : (fault? (guardedParabola.costAt (left solvedOnce).state.own.point
      (left solvedOnce).trail)).isSome = true := by decide +kernel
  have history := solvedOnce_history
  rw [solvedTwice]
  -- From here on it does not matter what the first solve has made of the state.
  generalize left solvedOnce = used at failing history ⊢
  obtain ⟨⟨e, t⟩, given⟩ := Option.isSome_iff_exists.mp failing
  have failed := fault?_eq_some.mp given
  obtain ⟨-, solves⟩ := @failed_start_keeps_cost _ _ IsGuarded _ _ rfl history
  obtain ⟨-, unstarted⟩ := solves (.cost guardedParabola) none 5 used.trail
  exact ⟨e, t, failed, (unstarted e t failed).1⟩

/-- The second solve cannot start, and leaves the cost of the point that was best before with the
point at which it was to start. -/
theorem best_cost_outlives_best :
    (∃ e last, solvedTwice = .error e last) ∧
      (left solvedTwice).state.own.best.entries = [-0.125] ∧
      (left solvedTwice).state.own.bestCost = some 0.00390625 ∧
      ¬ Paired IsGuarded (left solvedTwice).state.own := by
  have failing : (fault? solvedTwice).isSome = true := by decide +kernel
  obtain ⟨⟨e, last⟩, given⟩ := Option.isSome_iff_exists.mp failing
  have best : (left solvedTwice).state.own.best.entries = [-0.125] := by decide +kernel
  have bestCost : (left solvedTwice).state.own.bestCost = some 0.00390625 := by decide +kernel
  refine ⟨⟨e, last, fault?_eq_some.mp given⟩, best, bestCost, fun paired => ?_⟩
  obtain ⟨problem, guarded, _, _, found⟩ := paired _ bestCost
  have cost : 0.00390625 = Scalar.square ((left solvedTwice).state.own.best.entries.headD 0) :=
    guardedParabola_hasCost guarded found
  rw [best] at cost
  exact absurd cost (by decide +kernel)

end Subgradient

end ManifoldOpt

import ManifoldOpt.Proofs.Stopping.Composition

/-!
Criteria that occur several times. Where one that measures changes is asked again in the same
iteration, it already remembers the current iterate and measures nothing: a run stops when the
formula is true in which its later occurrences stand for a standstill. Sharing any other criterion
makes no difference.
-/

set_option autoImplicit false

namespace ManifoldOpt

variable {α S : Type}

namespace Criterion

theorem holds_formulaAfter {v : Leaf α → Bool}
    (still : ∀ tolerance, v (.small .change tolerance) = true →
      v (.small .standstill tolerance) = true) (c : Criterion α) {seen : List Nat}
    (holds : c.formula.holds v = true) : (c.formulaAfter seen).holds v = true := by
  have each (parts : List (Criterion α))
      (ih : ∀ c ∈ parts, ∀ seen, c.formula.holds v = true → (c.formulaAfter seen).holds v = true) :
      ∀ seen, ((parts.map formula).any (Formula.holds v) = true →
          (formulaEachAfter seen parts).any (Formula.holds v) = true) ∧
        ((parts.map formula).all (Formula.holds v) = true →
          (formulaEachAfter seen parts).all (Formula.holds v) = true) := by
    induction parts with
    | nil => exact fun seen => ⟨id, id⟩
    | cons c rest step =>
      intro seen
      have first := ih c (by simp) seen
      have others := step (fun d member => ih d (by simp [member])) (seen ++ c.changeCells)
      rw [List.map_cons, formulaEachAfter]
      simp only [List.any_cons, List.all_cons, Bool.or_eq_true, Bool.and_eq_true]
      exact ⟨Or.imp first others.1, And.imp first others.2⟩
  induction c generalizing seen with
  | base cell => exact holds
  | afterIteration cell limit => exact holds
  | changeLess cell tolerance =>
    rw [formulaAfter, Formula.holds_leaf]
    split
    · exact still tolerance holds
    · exact holds
  | subgradientNormLess cell tolerance => exact holds
  | any cell parts ih =>
    rw [formula_any, Formula.holds_any] at holds
    rw [formulaAfter, Formula.holds_any]
    exact (each parts (fun c part _ => ih c part) seen).1 holds
  | all cell parts ih =>
    rw [formula_all, Formula.holds_all] at holds
    rw [formulaAfter, Formula.holds_all]
    exact (each parts (fun c part _ => ih c part) seen).2 holds

end Criterion

namespace Solver

variable [Scalar α] {solver : Solver α S} {recorder : Option (Recorder α)}
  {first : Stage α (Run α S)} {root : Criterion α}

/-- A run with criteria that occur several times stops as if every later occurrence of one that
measures changes measured a standstill. It stops as with copies if no such criterion is shared. If a
standstill is small where a change is, it stops no later than that in any case, and one that is
doubled with "all of" stops it when the criterion alone would. -/
theorem shared_run_stops (lawful : solver.Lawful) (given : first.state.stop.root = root)
    (room : ∀ i ∈ root.changeCells, i < first.state.stop.memory.length) :
    StopsWhen solver recorder first (root.formulaAfter []) ∧
    (root.changeCells.Nodup → StopsWhen solver recorder first root.formula) ∧
    ∀ n stages answer t, Course solver recorder first n stages →
      solver.shouldStop n (stages n) = .ok answer t →
        (∀ tolerance, (Leaf.small .change tolerance).fires (views solver stages) n = true →
          (Leaf.small .standstill tolerance).fires (views solver stages) n = true) →
        (root.formula.holds (Leaf.fires (views solver stages) n) = true → answer = true) ∧
        ∀ cell i tolerance,
          root = .all cell [.changeLess i tolerance, .changeLess i tolerance] →
            answer = (Leaf.small .change tolerance).fires (views solver stages) n := by
  have stops : StopsWhen solver recorder first (root.formulaAfter []) :=
    lawful.stopsWhen given room
  refine ⟨stops, fun distinct => ?_, fun n stages answer t course asked still => ?_⟩
  · rwa [Criterion.formulaAfter_eq_formula root distinct (List.disjoint_nil_right _)] at stops
  · obtain ⟨-, decided, -⟩ := stops n stages answer t course asked
    refine ⟨fun holds => decided.trans (root.holds_formulaAfter still holds), ?_⟩
    rintro cell i tolerance rfl
    simp only [Criterion.formulaAfter, Criterion.formulaEachAfter, Criterion.changeCells_changeLess,
      List.not_mem_nil, if_false, List.nil_append, List.mem_singleton, if_true, Formula.holds_all,
      List.all_cons, List.all_nil, Bool.and_true, Formula.holds_leaf] at decided
    rw [decided]
    cases small : (Leaf.small .change tolerance).fires (views solver stages) n with
    | false => rfl
    | true => rw [still tolerance small, Bool.and_self]

end Solver

namespace Subgradient

open Solver

def doubledRule : StoppingRule Float :=
  ⟨.any 1 [.changeLess 0 (.real 0.3), .changeLess 0 (.real 0.3)], List.replicate 2 {}⟩

theorem shared_run_stops_doubled :
    StopsWhen (solver parabola) none (fromPoint 2 0.25 doubledRule)
      (.any [.leaf (.small .change (.real 0.3)), .leaf (.small .standstill (.real 0.3))]) := by
  have given : (fromPoint 2 0.25 doubledRule).state.stop.root = doubledRule.root := rfl
  exact (shared_run_stops (solver_lawful parabola) given (by decide)).1

def stopsAt (plan : StoppingPlan Float) : Option Int :=
  match plan.rule with
  | .ok rule =>
    match (solver parabola).solve 5 none (fromPoint 2 0.25 rule) with
    | .ok _ last => some last.state.iteration
    | .error _ _ => none
  | .error _ => none

/-- Doubling a criterion for changes stops a run two iterations before the criterion alone and two
copies of it do. -/
theorem doubled_stops_early :
    stopsAt (.doubledAny (.changeLess (.real 0.3))) = some 1 ∧
      stopsAt (.either [.changeLess (.real 0.3), .changeLess (.real 0.3)]) = some 3 ∧
      stopsAt (.changeLess (.real 0.3)) = some 3 := by decide +kernel

end Subgradient

end ManifoldOpt

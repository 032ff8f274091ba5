import ManifoldOpt.Proofs.Stopping.Plan
import ManifoldOpt.Proofs.Stopping.Run

set_option autoImplicit false

namespace ManifoldOpt

variable {α S : Type} [Scalar α]

/-- A formula is true at iteration `n` for the first time, and this is what is noted in the cell of
the criterion at the root. -/
structure StoppedAt (f : Formula (Leaf α)) (views : Nat → View α) (n : Nat) (root : Criterion α)
    (memory : Memory α) : Prop where
  holds : f.holds (Leaf.fires views n) = true
  first : ∀ k < n, f.holds (Leaf.fires views k) = false
  iteration : (memory.cell root.index).iteration = n
  reason : (memory.cell root.index).reason =
    (f.reached (Leaf.fires views n)).map (Leaf.cause views n)

namespace Subgradient

def parabola : CostProblem Float where
  manifold := euclidean [1]
  cost p := return some (.scalar (Scalar.square (p.entries.headD 0)))
  subgradient := .allocating fun p => return some (p.scale 2)

def fromPoint (x length : Float) (rule : StoppingRule Float) :
    Stage Float (Run Float (SubgradientState Float)) :=
  ⟨{}, prepare (euclidean [1])
    { stop := some rule, stepsize := some (.rule (.constant length .relative)) } (.vector [x])⟩

end Subgradient

namespace StoppingPlan

open Solver

theorem rule_built {plan : StoppingPlan α} (composed : plan.Composed) {rule : StoppingRule α}
    (built : plan.rule = .ok rule) :
    Criterion.Built [plan.formula] 0 rule.memory.length [rule.root] := by
  obtain ⟨⟨root, cells⟩, done, rest⟩ := Outcome.bind_eq_ok.mp built
  cases rest
  rw [List.length_replicate]
  exact build_built composed done

variable {plan : StoppingPlan α} {f : Formula (Leaf α)} {rule : StoppingRule α}
  {solver : Solver α S} {recorder : Option (Recorder α)} {first : Stage α (Run α S)}

/-- A run with criteria composed in any way stops where their formula, however its parts are
grouped, is true for the first time. -/
theorem run_stops_at_formula (composed : plan.Composed) (grouped : Formula.Same plan.formula f)
    (built : plan.rule = .ok rule) (lawful : solver.Lawful)
    (given : first.state.stop.root = rule.root)
    (room : rule.memory.length ≤ first.state.stop.memory.length) :
    StopsWhen solver recorder first f ∧
    ∀ allowance last, solver.solve allowance recorder first = .ok () last →
      ∃ n stages, Course solver recorder first n stages ∧ last.state.stop.root = rule.root ∧
        StoppedAt f (views solver stages) n rule.root last.state.stop.memory := by
  have whole := rule_built composed built
  have same := (List.forall₂_cons.mp whole.same).1.trans grouped
  have filled := whole.filled rule.root (List.mem_singleton_self _)
  have distinct : rule.root.cells.Nodup := by simpa using whole.distinct
  have inside : ∀ i ∈ rule.root.cells, i < first.state.stop.memory.length := fun i member =>
    Nat.lt_of_lt_of_le (whole.range i (by simpa using member)).2 room
  have stops : StopsWhen solver recorder first f :=
    (lawful.stopsWhen_formula given distinct inside).same same.holds
  refine ⟨stops, fun allowance last ended => ?_⟩
  obtain ⟨n, stages, t, course, fired, kept, holds, never⟩ := stops.of_ended ended
  have noted := course.noted lawful given distinct inside fired
  have itself := Criterion.mem_nodes_self rule.root
  obtain ⟨u, -, left⟩ := shouldStop_eq_ok fired
  rw [kept]
  refine ⟨n, stages, course, ?_, holds, never, ?_, ?_⟩
  · rw [left]
    exact (course.root lawful (Nat.le_refl n)).trans given
  · rw [noted.iteration _ itself, same.holds, holds, if_pos rfl]
  · rw [noted.reason _ itself filled ((same.holds _).trans holds), same.reached]

def sample : StoppingPlan Float :=
  .both [.both [.changeLess (.real 2), .afterIteration (.int 1)],
    .either [.afterIteration (.int 2), .subgradientNormLess (.real 0.5)]]

theorem sample_composed : sample.Composed := by
  refine .both (List.forall_mem_cons.mpr ⟨.both ?_, List.forall_mem_cons.mpr ⟨.either ?_, nofun⟩⟩)
  · exact List.forall_mem_cons.mpr
      ⟨.changeLess _, List.forall_mem_cons.mpr ⟨.afterIteration _, nofun⟩⟩
  · exact List.forall_mem_cons.mpr
      ⟨.afterIteration _, List.forall_mem_cons.mpr ⟨.subgradientNormLess _, nofun⟩⟩

def sampleFormula : Formula (Leaf Float) :=
  .all [.leaf (.small .change (.real 2)), .leaf (.budget (.int 1)),
    .any [.leaf (.budget (.int 2)), .leaf (.small .subgradientNorm (.real 0.5))]]

theorem sample_same : Formula.Same sample.formula sampleFormula := by
  have flat := Formula.same_all_nested
    [Formula.leaf (Leaf.small .change (.real 2)), .leaf (.budget (.int 1))]
    [.any [.leaf (.budget (.int 2)), .leaf (.small .subgradientNorm (.real (0.5 : Float)))]]
  exact flat

open Subgradient (parabola fromPoint) in
theorem sample_stops :
    ∃ rule last, sample.rule = .ok rule ∧
      (Subgradient.solver parabola).solve 5 none (fromPoint 2 0.25 rule) = .ok () last ∧
      last.state.iteration = 2 ∧
      ∃ n stages, Course (Subgradient.solver parabola) none (fromPoint 2 0.25 rule) n stages ∧
        last.state.stop.root = rule.root ∧
        StoppedAt sampleFormula (views (Subgradient.solver parabola) stages) n rule.root
          last.state.stop.memory := by
  have reached : (match sample.rule with
    | .ok rule =>
      match (Subgradient.solver parabola).solve 5 none (fromPoint 2 0.25 rule) with
      | .ok _ last => some last.state.iteration
      | .error _ _ => none
    | .error _ => none) = some 2 := by decide +kernel
  cases built : sample.rule with
  | error e =>
    rw [built] at reached
    cases reached
  | ok rule =>
    rw [built] at reached
    cases ended : (Subgradient.solver parabola).solve 5 none (fromPoint 2 0.25 rule) with
    | error e t =>
      simp only [ended] at reached
      cases reached
    | ok _ last =>
      simp only [ended] at reached
      exact ⟨rule, last, rfl, ended, Option.some.inj reached,
        (run_stops_at_formula sample_composed sample_same built
          (Subgradient.solver_lawful parabola) rfl (Nat.le_refl _)).2 _ _ ended⟩

end StoppingPlan

end ManifoldOpt

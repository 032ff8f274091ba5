import ManifoldOpt.Proofs.Stopping.Composition

set_option autoImplicit false

namespace ManifoldOpt

variable {α S : Type}

def Leaf.isSmall : Leaf α → Bool
  | budget _ => false
  | small _ _ => true

def Cause.isBudget : Cause α → Bool
  | budget _ => true
  | _ => false

theorem Leaf.isSmall_of_budget [Scalar α] {views : Nat → View α} {k : Nat} {l : Leaf α}
    (budget : (l.cause views k).isBudget = true) : l.isSmall = false := by
  cases l with
  | budget limit => rfl
  | small measured tolerance =>
    cases given : measured.size views k with
    | error e =>
      simp only [Leaf.cause, given] at budget
      cases budget
    | ok size =>
      simp only [Leaf.cause, given] at budget
      cases measured <;> cases budget

namespace Formula

/-- A measurement is found below, going into the parts of "any of" that have a property and into all
parts of "all of". -/
inductive Indicated (counts : Formula (Leaf α) → Prop) : Formula (Leaf α) → Prop
  | small (measured : Measure) (tolerance : Number α) :
    Indicated counts (leaf (.small measured tolerance))
  | any {parts : List (Formula (Leaf α))} {f : Formula (Leaf α)} (part : f ∈ parts)
    (counted : counts f) (below : Indicated counts f) : Indicated counts (any parts)
  | all {parts : List (Formula (Leaf α))} {f : Formula (Leaf α)} (part : f ∈ parts)
    (below : Indicated counts f) : Indicated counts (all parts)

variable {counts counts' : Formula (Leaf α) → Prop} {parts : List (Formula (Leaf α))}

theorem indicated_leaf {l : Leaf α} : Indicated counts (leaf l) ↔ l.isSmall = true := by
  constructor
  · rintro ⟨⟩
    rfl
  · intro small
    cases l with
    | budget limit => cases small
    | small measured tolerance => exact .small measured tolerance

theorem indicated_any : Indicated counts (any parts) ↔ ∃ f ∈ parts, counts f ∧ Indicated counts f :=
  ⟨fun | .any part counted below => ⟨_, part, counted, below⟩,
    fun ⟨_, part, counted, below⟩ => .any part counted below⟩

theorem indicated_all : Indicated counts (all parts) ↔ ∃ f ∈ parts, Indicated counts f :=
  ⟨fun | .all part below => ⟨_, part, below⟩, fun ⟨_, part, below⟩ => .all part below⟩

theorem Indicated.mono {f : Formula (Leaf α)} (indicated : Indicated counts f)
    (more : ∀ g, counts g → counts' g) : Indicated counts' f := by
  induction indicated with
  | small measured tolerance => exact .small measured tolerance
  | any part counted _ ih => exact .any part (more _ counted) ih
  | all part _ ih => exact .all part ih

theorem indicated_iff_reached (v : Leaf α → Bool) {f : Formula (Leaf α)}
    (holds : f.holds v = true) :
    Indicated (fun g => g.holds v = true) f ↔ ∃ l ∈ f.reached v, l.isSmall = true := by
  induction f with
  | leaf l =>
    rw [holds_leaf] at holds
    simp [indicated_leaf, holds]
  | any parts ih =>
    simp only [indicated_any, reached_any, List.mem_flatMap]
    constructor
    · rintro ⟨f, part, here, below⟩
      obtain ⟨l, reached, small⟩ := (ih f part here).mp below
      exact ⟨l, ⟨f, part, reached⟩, small⟩
    · rintro ⟨l, ⟨f, part, reached⟩, small⟩
      have here : f.holds v = true := by
        by_contra fails
        rw [reached_eq_nil v (by simpa using fails)] at reached
        cases reached
      exact ⟨f, part, here, (ih f part here).mpr ⟨l, reached, small⟩⟩
  | all parts ih =>
    rw [holds_all] at holds
    have each := List.all_eq_true.mp holds
    simp only [indicated_all, reached_all, holds, if_true, List.mem_flatMap]
    constructor
    · rintro ⟨f, part, below⟩
      obtain ⟨l, reached, small⟩ := (ih f part (each f part)).mp below
      exact ⟨l, ⟨f, part, reached⟩, small⟩
    · rintro ⟨l, ⟨f, part, reached⟩, small⟩
      exact ⟨f, part, (ih f part (each f part)).mpr ⟨l, reached, small⟩⟩

end Formula

namespace Criterion

open Formula

theorem firedPartConverged_eq (m : Memory α) (parts : List (Criterion α)) :
    firedPartConverged m parts =
      parts.any fun c => (m.cell c.index).fired && c.indicatesConvergence m := by
  induction parts with
  | nil => rfl
  | cons c rest ih => rw [firedPartConverged, ih, List.any_cons]

theorem somePartConverged_eq (m : Memory α) (parts : List (Criterion α)) :
    somePartConverged m parts = parts.any fun c => c.indicatesConvergence m := by
  induction parts with
  | nil => rfl
  | cons c rest ih => rw [somePartConverged, ih, List.any_cons]

theorem indicatesConvergence_iff {m : Memory α} {counts : Formula (Leaf α) → Prop} (c : Criterion α)
    (fired : ∀ d ∈ c.nodes, (m.cell d.index).fired = true ↔ counts d.formula) :
    c.indicatesConvergence m = true ↔ Indicated counts c.formula := by
  induction c with
  | base cell => simp [indicatesConvergence, formula, indicated_any]
  | afterIteration cell limit => simp [indicatesConvergence, formula, indicated_leaf, Leaf.isSmall]
  | changeLess cell tolerance => simp [indicatesConvergence, formula, indicated_leaf, Leaf.isSmall]
  | subgradientNormLess cell tolerance =>
    simp [indicatesConvergence, formula, indicated_leaf, Leaf.isSmall]
  | any cell parts ih =>
    rw [nodes_any] at fired
    have below (c : Criterion α) (part : c ∈ parts) := ih c part fun d member =>
      fired d (List.mem_cons_of_mem _ (List.mem_flatMap.mpr ⟨c, part, member⟩))
    have own (c : Criterion α) (part : c ∈ parts) := fired c
      (List.mem_cons_of_mem _ (List.mem_flatMap.mpr ⟨c, part, mem_nodes_self c⟩))
    rw [indicatesConvergence, firedPartConverged_eq, formula_any, indicated_any, List.any_eq_true]
    simp only [Bool.and_eq_true, List.mem_map, exists_exists_and_eq_and]
    refine exists_congr fun c => and_congr_right fun part => ?_
    exact and_congr (own c part) (below c part)
  | all cell parts ih =>
    rw [nodes_all] at fired
    have below (c : Criterion α) (part : c ∈ parts) := ih c part fun d member =>
      fired d (List.mem_cons_of_mem _ (List.mem_flatMap.mpr ⟨c, part, member⟩))
    rw [indicatesConvergence, somePartConverged_eq, formula_all, indicated_all, List.any_eq_true]
    simp only [List.mem_map, exists_exists_and_eq_and]
    exact exists_congr fun c => and_congr_right (below c)

end Criterion

namespace Solver

variable [Scalar α] {solver : Solver α S} {recorder : Option (Recorder α)}
  {first : Stage α (Run α S)} {root : Criterion α}

section Answer

variable (lawful : solver.Lawful) {n : Nat} {stages : Nat → Stage α (Run α S)}
  (course : Course solver recorder first n stages) (given : first.state.stop.root = root)
  {answer : Bool} {t : Stage α (Run α S)} (asked : solver.shouldStop n (stages n) = .ok answer t)

include lawful course given asked

theorem Course.fired_iff (distinct : root.cells.Nodup)
    (room : ∀ i ∈ root.cells, i < first.state.stop.memory.length) {d : Criterion α}
    (member : d ∈ root.nodes) :
    (t.state.stop.memory.cell d.index).fired = true ↔
      ∃ k ≤ n, d.formula.holds (Leaf.fires (views solver stages) k) = true := by
  rw [Cell.fired, course.iteration lawful given distinct room asked member, decide_eq_true_eq,
    lastTrue_nonneg]

theorem Course.converged_iff {counts : Formula (Leaf α) → Prop}
    (noted : ∀ d ∈ root.nodes,
      (t.state.stop.memory.cell d.index).fired = true ↔ counts d.formula) :
    t.state.stop.converged = true ↔ root.formula.Indicated counts := by
  obtain ⟨u, -, left⟩ := shouldStop_eq_ok asked
  have same : t.state.stop.root = root := by
    rw [left]
    exact (course.root lawful (Nat.le_refl n)).trans given
  rw [StoppingRule.converged, same]
  exact Criterion.indicatesConvergence_iff root noted

end Answer

/-- A run counts as converged if a measurement is found going into those parts of "any of" that
have been true at some iteration, not only at the last one. This includes the measurements that the
run stopped for, and is no more than that if nothing has been true before that is not true at the
end. -/
theorem converged_iff_once_small (lawful : solver.Lawful) (given : first.state.stop.root = root)
    (distinct : root.cells.Nodup) (room : ∀ i ∈ root.cells, i < first.state.stop.memory.length)
    {allowance : Nat} {last : Stage α (Run α S)}
    (ended : solver.solve allowance recorder first = .ok () last) :
    ∃ n stages, Course solver recorder first n stages ∧
      (last.state.stop.memory.cell root.index).iteration = n ∧
      (last.state.stop.converged = true ↔ root.formula.Indicated fun f =>
        ∃ k ≤ n, f.holds (Leaf.fires (views solver stages) k) = true) ∧
      ((∃ l ∈ root.formula.reached (Leaf.fires (views solver stages) n), l.isSmall = true) →
        last.state.stop.converged = true) ∧
      ((∀ d ∈ root.nodes, ∀ k ≤ n, d.formula.holds (Leaf.fires (views solver stages) k) = true →
          d.formula.holds (Leaf.fires (views solver stages) n) = true) →
        (last.state.stop.converged = true ↔
          ∃ l ∈ root.formula.reached (Leaf.fires (views solver stages) n), l.isSmall = true)) := by
  obtain ⟨n, stages, t, course, asked, kept, holds, -⟩ :=
    (lawful.stopsWhen_formula given distinct room).of_ended ended
  have itself := course.iteration lawful given distinct room asked (Criterion.mem_nodes_self root)
  have fired (d : Criterion α) (member : d ∈ root.nodes) :=
    course.fired_iff lawful given asked distinct room member
  have once : t.state.stop.converged = true ↔ root.formula.Indicated fun f =>
      ∃ k ≤ n, f.holds (Leaf.fires (views solver stages) k) = true :=
    course.converged_iff lawful given asked fired
  have reached := Formula.indicated_iff_reached _ holds
  rw [kept]
  refine ⟨n, stages, course, itself.trans (lastTrue_self holds), once, ?_, ?_⟩
  · intro small
    exact once.mpr ((reached.mpr small).mono fun f now => ⟨n, Nat.le_refl n, now⟩)
  · intro none
    refine (course.converged_iff lawful given asked fun d member =>
      (fired d member).trans ⟨?_, ?_⟩).trans reached
    · rintro ⟨k, inside, once⟩
      exact none d member k inside once
    · exact fun now => ⟨n, Nat.le_refl n, now⟩

end Solver

namespace Subgradient

open Solver

def staleRule : StoppingRule Float :=
  ⟨.all 4 [.any 2 [.changeLess 0 (.real 0.3), .afterIteration 1 (.int 2)],
    .afterIteration 3 (.int 2)], List.replicate 5 {}⟩

def staleStart : Stage Float (Run Float (SubgradientState Float)) :=
  fromPoint 0.0625 1.5 staleRule

theorem staleRule_distinct : staleRule.root.cells.Nodup := by decide

theorem staleRule_room : ∀ i ∈ staleRule.root.cells, i < staleStart.state.stop.memory.length := by
  decide

theorem staleRule_filled : staleRule.root.formula.Filled := by
  have part : Formula.Filled (.any [.leaf (Leaf.small .change (.real (0.3 : Float))),
      .leaf (Leaf.budget (.int 2))]) :=
    .any (List.cons_ne_nil _ _)
      (List.forall_mem_cons.mpr ⟨.leaf _, List.forall_mem_cons.mpr ⟨.leaf _, nofun⟩⟩)
  exact .all (List.cons_ne_nil _ _)
    (List.forall_mem_cons.mpr ⟨part, List.forall_mem_cons.mpr ⟨.leaf _, nofun⟩⟩)

theorem stale_ended :
    ∃ last, (solver parabola).solve 5 none staleStart = .ok () last ∧
      last.state.stop.converged = true ∧
      (last.state.stop.memory.cell staleRule.root.index).reason.all Cause.isBudget = true := by
  have reached : (match (solver parabola).solve 5 none staleStart with
    | .ok _ last => some (last.state.stop.converged,
      (last.state.stop.memory.cell staleRule.root.index).reason.all Cause.isBudget)
    | .error _ _ => none) = some (true, true) := by decide +kernel
  cases ended : (solver parabola).solve 5 none staleStart with
  | error e t =>
    rw [ended] at reached
    cases reached
  | ok _ last =>
    rw [ended] at reached
    obtain ⟨converged, budgets⟩ := Prod.mk.inj (Option.some.inj reached)
    exact ⟨last, rfl, converged, budgets⟩

theorem stale_converged :
    ∃ last n stages, (solver parabola).solve 5 none staleStart = .ok () last ∧
      Course (solver parabola) none staleStart n stages ∧
      (last.state.stop.memory.cell staleRule.root.index).iteration = n ∧
      last.state.stop.converged = true ∧
      staleRule.root.formula.Indicated fun f =>
        ∃ k ≤ n, f.holds (Leaf.fires (views (solver parabola) stages) k) = true := by
  obtain ⟨last, ended, converged, -⟩ := stale_ended
  obtain ⟨n, stages, course, iteration, once, -⟩ := converged_iff_once_small
    (solver_lawful parabola) rfl staleRule_distinct staleRule_room ended
  exact ⟨last, n, stages, ended, course, iteration, converged, once.mp converged⟩

/-- The run counts as converged though it stopped for its budgets alone. -/
theorem converged_for_budget :
    ∃ last n stages, (solver parabola).solve 5 none staleStart = .ok () last ∧
      Course (solver parabola) none staleStart n stages ∧
      (last.state.stop.memory.cell staleRule.root.index).iteration = n ∧
      last.state.stop.converged = true ∧
      ¬ ∃ l ∈ staleRule.root.formula.reached (Leaf.fires (views (solver parabola) stages) n),
        l.isSmall = true := by
  obtain ⟨last, ended, converged, budgets⟩ := stale_ended
  have lawful := solver_lawful parabola
  have given : staleStart.state.stop.root = staleRule.root := rfl
  obtain ⟨n, stages, t, course, asked, kept, holds, -⟩ :=
    (lawful.stopsWhen_formula given staleRule_distinct staleRule_room).of_ended ended
  have noted := course.noted lawful given staleRule_distinct staleRule_room asked
  have itself := Criterion.mem_nodes_self staleRule.root
  refine ⟨last, n, stages, ended, course, ?_, converged, ?_⟩
  · rw [kept, noted.iteration _ itself, holds, if_pos rfl]
  · rintro ⟨l, reached, small⟩
    -- Each leaf that is reached has its cause in the reason.
    rw [kept, noted.reason _ itself staleRule_filled holds,
      List.all_map] at budgets
    rw [Leaf.isSmall_of_budget (List.all_eq_true.mp budgets l reached)] at small
    cases small

end Subgradient

end ManifoldOpt

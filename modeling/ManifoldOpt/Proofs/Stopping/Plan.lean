import Mathlib.Data.List.Flatten
import ManifoldOpt.Proofs.Attempt
import ManifoldOpt.Proofs.Stopping.Tree

set_option autoImplicit false

namespace ManifoldOpt

namespace Formula

variable {ι : Type}

def chain (combine : List (Formula ι) → Formula ι) (first : Formula ι) :
    List (Formula ι) → Formula ι
  | [] => first
  | f :: rest => chain combine (combine [first, f]) rest

def chained (combine : List (Formula ι) → Formula ι) : List (Formula ι) → Formula ι
  | [] => combine []
  | first :: rest => chain combine first rest

theorem same_chain_any (f : Formula ι) (fs : List (Formula ι)) :
    Same (chain any f fs) (any (f :: fs)) := by
  induction fs generalizing f with
  | nil =>
    have single := same_any_singleton f
    exact ⟨fun v => (single.holds v).symm, fun v => (single.reached v).symm⟩
  | cons g rest ih => exact (ih (any [f, g])).trans (same_any_nested [f, g] rest)

theorem same_chain_all (f : Formula ι) (fs : List (Formula ι)) :
    Same (chain all f fs) (all (f :: fs)) := by
  induction fs generalizing f with
  | nil =>
    have single := same_all_singleton f
    exact ⟨fun v => (single.holds v).symm, fun v => (single.reached v).symm⟩
  | cons g rest ih => exact (ih (all [f, g])).trans (same_all_nested [f, g] rest)

end Formula

def Literal.stated {α : Type} (given : Literal α) : Number α := given.number?.getD (.int 0)

namespace StoppingPlan

variable {α : Type}

mutual

/-- The formula of a plan as it is put together, with copies where a criterion is doubled. -/
def formula : StoppingPlan α → Formula (Leaf α)
  | base => .any []
  | afterIteration limit => .leaf (.budget limit.stated)
  | changeLess tolerance => .leaf (.small .change tolerance.stated)
  | subgradientNormLess tolerance => .leaf (.small .subgradientNorm tolerance.stated)
  | any parts => .any (formulaEach parts)
  | all parts => .all (formulaEach parts)
  | either parts => .chained .any (formulaEach parts)
  | both parts => .chained .all (formulaEach parts)
  | doubledAny part => .any [formula part, formula part]
  | doubledAll part => .all [formula part, formula part]

def formulaEach : List (StoppingPlan α) → List (Formula (Leaf α))
  | [] => []
  | part :: rest => formula part :: formulaEach rest

end

theorem same_either (parts : List (StoppingPlan α)) :
    Formula.Same (either parts).formula (any parts).formula := by
  cases parts with
  | nil => exact .refl _
  | cons first rest => exact Formula.same_chain_any _ _

theorem same_both (parts : List (StoppingPlan α)) :
    Formula.Same (both parts).formula (all parts).formula := by
  cases parts with
  | nil => exact .refl _
  | cons first rest => exact Formula.same_chain_all _ _

/-- Combinations, none of them empty, in which no criterion occurs twice. -/
inductive Composed : StoppingPlan α → Prop
  | afterIteration (limit : Literal α) : Composed (afterIteration limit)
  | changeLess (tolerance : Literal α) : Composed (changeLess tolerance)
  | subgradientNormLess (tolerance : Literal α) : Composed (subgradientNormLess tolerance)
  | any {parts : List (StoppingPlan α)} (some_part : parts ≠ []) (each : ∀ p ∈ parts, Composed p) :
    Composed (any parts)
  | all {parts : List (StoppingPlan α)} (some_part : parts ≠ []) (each : ∀ p ∈ parts, Composed p) :
    Composed (all parts)
  | either {parts : List (StoppingPlan α)} (each : ∀ p ∈ parts, Composed p) :
    Composed (either parts)
  | both {parts : List (StoppingPlan α)} (each : ∀ p ∈ parts, Composed p) : Composed (both parts)

end StoppingPlan

namespace Criterion

section Combines

variable {α : Type}

/-- How criteria are combined, what a criterion contributes to the combination, and what the
combination does to formulas. -/
structure Combines (node : Nat → List (Criterion α) → Criterion α)
    (split : Criterion α → List (Criterion α))
    (combine : List (Formula (Leaf α)) → Formula (Leaf α)) : Prop where
  cells : ∀ cell parts, (node cell parts).cells = cell :: parts.flatMap Criterion.cells
  formula : ∀ cell parts, (node cell parts).formula = combine (parts.map Criterion.formula)
  parts : ∀ c, (∃ cell, c = node cell (split c)) ∨ split c = [c]
  filled : ∀ fs, (combine fs).Filled ↔ fs ≠ [] ∧ ∀ f ∈ fs, f.Filled
  singleton : ∀ f, Formula.Same (combine [f]) f
  congr : ∀ fs gs, List.Forall₂ Formula.Same fs gs → Formula.Same (combine fs) (combine gs)
  groups : ∀ (cs : List (Criterion α)) (g : Criterion α → List (Formula (Leaf α)))
    (h : Criterion α → Formula (Leaf α)), (∀ c ∈ cs, Formula.Same (combine (g c)) (h c)) →
      Formula.Same (combine (cs.flatMap g)) (combine (cs.map h))

theorem combines_any : Combines (α := α) any alternatives .any where
  cells := cells_any
  formula := formula_any
  parts c := by
    cases c with
    | any cell parts => exact .inl ⟨cell, rfl⟩
    | _ => exact .inr rfl
  filled _ := Formula.filled_any
  singleton := Formula.same_any_singleton
  congr _ _ := Formula.same_any
  groups _ _ _ := Formula.same_any_flatMap

theorem combines_all : Combines (α := α) all conditions .all where
  cells := cells_all
  formula := formula_all
  parts c := by
    cases c with
    | all cell parts => exact .inl ⟨cell, rfl⟩
    | _ => exact .inr rfl
  filled _ := Formula.filled_all
  singleton := Formula.same_all_singleton
  congr _ _ := Formula.same_all
  groups _ _ _ := Formula.same_all_flatMap

variable {node : Nat → List (Criterion α) → Criterion α} {split : Criterion α → List (Criterion α)}
  {combine : List (Formula (Leaf α)) → Formula (Leaf α)} (combines : Combines node split combine)

include combines

theorem Combines.same_split (c : Criterion α) :
    Formula.Same (combine ((split c).map Criterion.formula)) c.formula := by
  rcases combines.parts c with ⟨cell, made⟩ | single
  · have taken := combines.formula cell (split c)
    rw [← made] at taken
    rw [taken]
    exact .refl _
  · rw [single]
    exact combines.singleton c.formula

theorem Combines.cells_split (c : Criterion α) :
    ((split c).flatMap Criterion.cells).Sublist c.cells := by
  rcases combines.parts c with ⟨cell, made⟩ | single
  · have below := combines.cells cell (split c)
    rw [← made] at below
    rw [below]
    exact List.sublist_cons_self _ _
  · rw [single, List.flatMap_cons, List.flatMap_nil, List.append_nil]

theorem Combines.filled_split {c : Criterion α} (filled : c.formula.Filled) :
    split c ≠ [] ∧ ∀ d ∈ split c, d.formula.Filled := by
  rcases combines.parts c with ⟨cell, made⟩ | single
  · have taken := combines.formula cell (split c)
    rw [← made] at taken
    rw [taken, combines.filled] at filled
    simpa using filled
  · rw [single]
    simpa using filled

end Combines

/-- What building makes of some formulas with the cells from `next` up to `last`. -/
structure Built {α : Type} (fs : List (Formula (Leaf α))) (next last : Nat)
    (cs : List (Criterion α)) : Prop where
  same : List.Forall₂ Formula.Same (cs.map formula) fs
  filled : ∀ c ∈ cs, c.formula.Filled
  distinct : (cs.flatMap cells).Nodup
  range : ∀ i ∈ cs.flatMap cells, next ≤ i ∧ i < last
  order : next ≤ last

section Built

variable {α : Type} {fs gs : List (Formula (Leaf α))} {next between last : Nat}
  {cs ds : List (Criterion α)}

theorem Built.nil : Built ([] : List (Formula (Leaf α))) next next [] :=
  ⟨.nil, by simp, by simp, by simp, Nat.le_refl next⟩

theorem Built.leaf {c : Criterion α} {l : Leaf α} (kind : c.formula = .leaf l)
    (own : c.cells = [next]) : Built [.leaf l] next (next + 1) [c] where
  same := by
    rw [List.map_singleton, kind]
    exact .cons (.refl _) .nil
  filled d member := by
    obtain rfl := List.mem_singleton.mp member
    rw [kind]
    exact .leaf l
  distinct := by simp [own]
  range := by simp [own]
  order := Nat.le_succ next

theorem Built.append (first : Built fs next between cs) (rest : Built gs between last ds) :
    Built (fs ++ gs) next last (cs ++ ds) where
  same := by
    rw [List.map_append]
    exact List.rel_append first.same rest.same
  filled c member := by
    rcases List.mem_append.mp member with member | member
    · exact first.filled c member
    · exact rest.filled c member
  distinct := by
    rw [List.flatMap_append]
    refine first.distinct.append rest.distinct fun i early late => ?_
    have below := first.range i early
    have above := rest.range i late
    omega
  range i member := by
    have before := first.order
    have after := rest.order
    rw [List.flatMap_append] at member
    rcases List.mem_append.mp member with member | member
    · have inside := first.range i member
      omega
    · have inside := rest.range i member
      omega
  order := Nat.le_trans first.order rest.order

variable {node : Nat → List (Criterion α) → Criterion α} {split : Criterion α → List (Criterion α)}
  {comb : List (Formula (Leaf α)) → Formula (Leaf α)} (combines : Combines node split comb)

include combines

theorem Built.combine (built : Built (fs ++ gs) next last (cs ++ ds)) (long : cs.length = fs.length)
    (some_part : fs ≠ []) :
    Built (comb fs :: gs) next (last + 1) (node last (cs.flatMap split) :: ds) := by
  have same := built.same
  have first := List.forall₂_take_append _ fs gs same
  have rest := List.forall₂_drop_append _ fs gs same
  rw [List.map_append, List.take_left' (by simp [long])] at first
  rw [List.map_append, List.drop_left' (by simp [long])] at rest
  have below : ((node last (cs.flatMap split) :: ds).flatMap cells).Sublist
      (last :: (cs ++ ds).flatMap cells) := by
    rw [List.flatMap_cons, combines.cells, List.flatMap_append, List.cons_append,
      List.flatMap_assoc]
    refine (List.Sublist.append ?_ (.refl _)).cons_cons last
    exact List.Sublist.flatMap_right cs fun c _ => combines.cells_split c
  constructor
  · refine .cons ?_ rest
    rw [combines.formula, List.map_flatMap]
    exact (combines.groups cs _ _ fun c _ => combines.same_split c).trans
      (combines.congr _ _ first)
  · intro d member
    rcases List.mem_cons.mp member with rfl | member
    · have parts (c : Criterion α) (part : c ∈ cs) := combines.filled_split
        (built.filled c (List.mem_append_left ds part))
      obtain ⟨c, part⟩ := List.exists_mem_of_length_pos
        (long ▸ List.length_pos_of_ne_nil some_part)
      obtain ⟨e, inside⟩ := List.exists_mem_of_ne_nil _ (parts c part).1
      rw [combines.formula, combines.filled]
      refine ⟨?_, ?_⟩
      · exact List.ne_nil_of_mem
          (List.mem_map_of_mem (List.mem_flatMap.mpr ⟨c, part, inside⟩))
      · intro f among
        obtain ⟨e, taken, rfl⟩ := List.mem_map.mp among
        obtain ⟨c, part, inside⟩ := List.mem_flatMap.mp taken
        exact (parts c part).2 e inside
    · exact built.filled d (List.mem_append_right cs member)
  · refine below.nodup (List.nodup_cons.mpr ⟨fun member => ?_, built.distinct⟩)
    exact absurd (built.range last member).2 (Nat.lt_irrefl last)
  · intro i member
    have order := built.order
    rcases List.mem_cons.mp (below.subset member) with rfl | member
    · omega
    · have inside := built.range i member
      omega
  · exact Nat.le_succ_of_le built.order

theorem Built.whole (built : Built fs next last cs) (some_part : fs ≠ []) :
    Built [comb fs] next (last + 1) [node last (cs.flatMap split)] := by
  have long := built.same.length_eq
  rw [List.length_map] at long
  rw [← List.append_nil fs, ← List.append_nil cs] at built
  exact built.combine combines long some_part

theorem Built.chain {c d : Criterion α} {f : Formula (Leaf α)} {final : Nat}
    (built : Built (f :: fs) next last (c :: cs))
    (done : Criterion.chain (fun cell parts => node cell (parts.flatMap split)) last c cs =
      (d, final)) : Built [Formula.chain comb f fs] next final [d] := by
  induction cs generalizing c f fs last with
  | nil =>
    cases (List.forall₂_cons.mp built.same).2
    cases done
    exact built
  | cons e rest ih =>
    cases (List.forall₂_cons.mp built.same).2 with
    | @cons _ g _ fs _ _ =>
      have combined : Built (comb [f, g] :: fs) next (last + 1)
          (node last ([c, e].flatMap split) :: rest) :=
        Built.combine combines built rfl (List.cons_ne_nil _ _)
      have further := ih combined done
      exact further

theorem Built.chained (built : Built fs next last cs) {c : Criterion α} {final : Nat}
    (done : Criterion.chained (fun cell parts => node cell (parts.flatMap split)) (cs, last) =
      .ok (c, final)) : Built [Formula.chained comb fs] next final [c] := by
  cases cs with
  | nil => cases done
  | cons first rest =>
    cases built.same with
    | cons _ _ => exact built.chain combines (Except.ok.inj done)

end Built

end Criterion

namespace StoppingPlan

open Criterion

variable {α : Type} [Scalar α]

omit [Scalar α] in
theorem stated_of_compared {given : Literal α} {n : Number α} (read : given.compared = .ok n) :
    given.stated = n := by
  unfold Literal.compared at read
  unfold Literal.stated
  cases number : given.number? with
  | none =>
    rw [number] at read
    cases read
  | some m =>
    rw [number] at read
    cases read
    rfl

theorem tolerance_eq_ok {given : Literal α} {bound : Number α}
    (checked : tolerance given = .ok bound) : given.stated = bound := by
  obtain ⟨n, read, rest⟩ := Outcome.bind_eq_ok.mp checked
  split at rest
  · cases rest
  · cases rest
    exact stated_of_compared read

theorem budget_eq_ok {given : Literal α} {cell : Nat} {c : Criterion α}
    (checked : budget cell given = .ok c) : c = .afterIteration cell given.stated := by
  obtain ⟨n, read, rest⟩ := Outcome.bind_eq_ok.mp checked
  split at rest
  · cases rest
  · cases rest
    rw [stated_of_compared read]

theorem buildEach_built {parts : List (StoppingPlan α)} {next last : Nat} {cs : List (Criterion α)}
    (each : ∀ p ∈ parts, ∀ next c last, p.build next = .ok (c, last) →
      Built [p.formula] next last [c])
    (done : buildEach next parts = .ok (cs, last)) :
    Built (formulaEach parts) next last cs := by
  induction parts generalizing next cs with
  | nil =>
    cases done
    exact .nil
  | cons part rest ih =>
    obtain ⟨⟨c, between⟩, first, done⟩ := Outcome.bind_eq_ok.mp done
    obtain ⟨⟨others, _⟩, after, done⟩ := Outcome.bind_eq_ok.mp done
    cases done
    exact (each part (by simp) next c between first).append
      (ih (fun p member => each p (by simp [member])) after)

omit [Scalar α] in
theorem formulaEach_ne_nil {parts : List (StoppingPlan α)} (some_part : parts ≠ []) :
    formulaEach parts ≠ [] := by
  cases parts with
  | nil => exact absurd rfl some_part
  | cons part rest => exact List.cons_ne_nil _ _

theorem build_built {plan : StoppingPlan α} (composed : plan.Composed) {next last : Nat}
    {c : Criterion α} (done : plan.build next = .ok (c, last)) :
    Built [plan.formula] next last [c] := by
  induction composed generalizing next c last with
  | afterIteration limit =>
    obtain ⟨d, checked, done⟩ := Outcome.bind_eq_ok.mp done
    obtain rfl := budget_eq_ok checked
    cases done
    exact .leaf rfl rfl
  | changeLess given =>
    obtain ⟨bound, checked, done⟩ := Outcome.bind_eq_ok.mp done
    obtain rfl := tolerance_eq_ok checked
    cases done
    exact .leaf rfl rfl
  | subgradientNormLess given =>
    obtain ⟨bound, checked, done⟩ := Outcome.bind_eq_ok.mp done
    obtain rfl := tolerance_eq_ok checked
    cases done
    exact .leaf rfl rfl
  | any some_part each ih =>
    obtain ⟨⟨cs, between⟩, each, done⟩ := Outcome.bind_eq_ok.mp done
    cases done
    exact (buildEach_built (fun p member next c last => ih p member) each).whole combines_any
      (formulaEach_ne_nil some_part)
  | all some_part each ih =>
    obtain ⟨⟨cs, between⟩, each, done⟩ := Outcome.bind_eq_ok.mp done
    cases done
    exact (buildEach_built (fun p member next c last => ih p member) each).whole combines_all
      (formulaEach_ne_nil some_part)
  | either each ih =>
    obtain ⟨⟨cs, between⟩, each, done⟩ := Outcome.bind_eq_ok.mp done
    exact (buildEach_built (fun p member next c last => ih p member) each).chained combines_any done
  | both each ih =>
    obtain ⟨⟨cs, between⟩, each, done⟩ := Outcome.bind_eq_ok.mp done
    exact (buildEach_built (fun p member next c last => ih p member) each).chained combines_all done

end StoppingPlan

end ManifoldOpt

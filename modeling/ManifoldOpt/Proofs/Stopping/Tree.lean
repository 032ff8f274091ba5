import Mathlib.Data.List.Nodup
import Mathlib.Data.List.TakeWhile
import ManifoldOpt.Proofs.Stopping.Formula
import ManifoldOpt.Stopping.Criterion

set_option autoImplicit false

namespace ManifoldOpt

variable {α : Type} [Scalar α]

inductive Measure
  | change
  | standstill
  | subgradientNorm
  deriving DecidableEq, Repr

inductive Leaf (α : Type)
  | budget (limit : Number α)
  | small (measured : Measure) (tolerance : Number α)

section Views

variable (views : Nat → View α) (k : Nat)

def changeSize (before now : View α) : Outcome α α := do
  let M ← now.manifold
  let p ← before.iterate
  let q ← now.iterate
  distBetween M p q

/-- The norm of the subgradient of the step that led here, at the iterate before. -/
def subgradientSize (before now : View α) : Outcome α α := do
  let M ← now.manifold
  let (_, v) ← now.subgradient
  let p ← before.point
  M.normNumber p v

def Measure.size : Measure → Outcome α α
  | change => changeSize (views (k - 1)) (views k)
  | standstill => changeSize (views k) (views k)
  | subgradientNorm => subgradientSize (views (k - 1)) (views k)

def Measure.cause (size : α) (tolerance : Number α) : Measure → Cause α
  | change => .change k size tolerance
  | standstill => .change k size tolerance
  | subgradientNorm => .subgradientNorm size tolerance

/-- Whether a leaf is true at iteration `k`: there is nothing to measure before the first step. -/
def Leaf.fires : Leaf α → Bool
  | budget limit => limit.le (.int k)
  | small measured tolerance =>
    match measured.size views k with
    | .ok size => decide (k ≠ 0) && (Number.real size).lt tolerance
    | .error _ => false

def Leaf.cause : Leaf α → Cause α
  | budget limit => .budget limit
  | small measured tolerance =>
    match measured.size views k with
    | .ok size => measured.cause k size tolerance
    | .error _ => .blank

variable {views k}

theorem changeSize_eq_ok {before now : View α} {M : Manifold α} {p q : Option (Tensor α)} {size : α}
    (known : now.manifold = .ok M) (shown : before.iterate = .ok p) (shown' : now.iterate = .ok q)
    (measured : distBetween M p q = .ok size) : changeSize before now = .ok size := by
  simp only [changeSize, known, shown, shown']
  exact measured

theorem subgradientSize_eq_ok {before now : View α} {M : Manifold α} {p q v : Tensor α} {size : α}
    (known : now.manifold = .ok M) (shown : before.iterate = .ok (some p))
    (shown' : now.subgradient = .ok (q, v)) (measured : M.normNumber p v = .ok size) :
    subgradientSize before now = .ok size := by
  simp only [subgradientSize, View.point, known, shown, shown']
  exact measured

section Small

variable {measured : Measure} {tolerance : Number α} {size : α}

theorem Leaf.fires_zero : (Leaf.small measured tolerance).fires views 0 = false := by
  cases given : measured.size views 0 <;> simp [Leaf.fires, given]

theorem Leaf.fires_of_size (later : k ≠ 0) (given : measured.size views k = .ok size) :
    (Leaf.small measured tolerance).fires views k = (Number.real size).lt tolerance := by
  simp [Leaf.fires, given, later]

theorem Leaf.cause_of_size (given : measured.size views k = .ok size) :
    (Leaf.small measured tolerance).cause views k = measured.cause k size tolerance := by
  simp [Leaf.cause, given]

end Small

theorem Leaf.isBlank_cause {l : Leaf α} (fires : l.fires views k = true) :
    (l.cause views k).isBlank = false := by
  cases l with
  | budget limit => rfl
  | small measured tolerance =>
    cases given : measured.size views k with
    | error e => simp [Leaf.fires, given] at fires
    | ok size =>
      simp only [Leaf.cause, given]
      cases measured <;> rfl

end Views

namespace Criterion

omit [Scalar α] in
@[elab_as_elim, induction_eliminator]
theorem induct {motive : Criterion α → Prop} (base : ∀ cell, motive (base cell))
    (afterIteration : ∀ cell limit, motive (afterIteration cell limit))
    (changeLess : ∀ cell tolerance, motive (changeLess cell tolerance))
    (subgradientNormLess : ∀ cell tolerance, motive (subgradientNormLess cell tolerance))
    (any : ∀ cell parts, (∀ c ∈ parts, motive c) → motive (any cell parts))
    (all : ∀ cell parts, (∀ c ∈ parts, motive c) → motive (all cell parts)) : ∀ c, motive c
  | .base cell => base cell
  | .afterIteration cell limit => afterIteration cell limit
  | .changeLess cell tolerance => changeLess cell tolerance
  | .subgradientNormLess cell tolerance => subgradientNormLess cell tolerance
  | .any cell parts => any cell parts fun c _ =>
    induct base afterIteration changeLess subgradientNormLess any all c
  | .all cell parts => all cell parts fun c _ =>
    induct base afterIteration changeLess subgradientNormLess any all c

mutual

def nodes : Criterion α → List (Criterion α)
  | any cell parts => any cell parts :: nodesEach parts
  | all cell parts => all cell parts :: nodesEach parts
  | leaf => [leaf]

def nodesEach : List (Criterion α) → List (Criterion α)
  | [] => []
  | c :: rest => nodes c ++ nodesEach rest

end

def changeCell? : Criterion α → Option Nat
  | changeLess cell _ => some cell
  | _ => none

def cells (c : Criterion α) : List Nat := c.nodes.map index

def changeCells (c : Criterion α) : List Nat := c.nodes.filterMap changeCell?

mutual

def formula : Criterion α → Formula (Leaf α)
  | base _ => .any []
  | afterIteration _ limit => .leaf (.budget limit)
  | changeLess _ tolerance => .leaf (.small .change tolerance)
  | subgradientNormLess _ tolerance => .leaf (.small .subgradientNorm tolerance)
  | any _ parts => .any (formulaEach parts)
  | all _ parts => .all (formulaEach parts)

def formulaEach : List (Criterion α) → List (Formula (Leaf α))
  | [] => []
  | c :: rest => formula c :: formulaEach rest

end

mutual

/-- The formula a criterion computes after the criteria with the given cells have been asked. -/
def formulaAfter (seen : List Nat) : Criterion α → Formula (Leaf α)
  | base _ => .any []
  | afterIteration _ limit => .leaf (.budget limit)
  | changeLess cell tolerance =>
    .leaf (.small (if cell ∈ seen then .standstill else .change) tolerance)
  | subgradientNormLess _ tolerance => .leaf (.small .subgradientNorm tolerance)
  | any _ parts => .any (formulaEachAfter seen parts)
  | all _ parts => .all (formulaEachAfter seen parts)

def formulaEachAfter (seen : List Nat) : List (Criterion α) → List (Formula (Leaf α))
  | [] => []
  | c :: rest => formulaAfter seen c :: formulaEachAfter (seen ++ c.changeCells) rest

end

section Equations

omit [Scalar α]

variable (cell : Nat) (parts : List (Criterion α))

theorem nodesEach_eq : nodesEach parts = parts.flatMap nodes := by
  induction parts with
  | nil => rfl
  | cons c rest ih => simp [nodesEach, ih]

theorem formulaEach_eq : formulaEach parts = parts.map formula := by
  induction parts with
  | nil => rfl
  | cons c rest ih => simp [formulaEach, ih]

@[simp] theorem nodes_any : nodes (any cell parts) = any cell parts :: parts.flatMap nodes := by
  rw [nodes, nodesEach_eq]

@[simp] theorem nodes_all : nodes (all cell parts) = all cell parts :: parts.flatMap nodes := by
  rw [nodes, nodesEach_eq]

@[simp] theorem cells_any : cells (any cell parts) = cell :: parts.flatMap cells := by
  rw [cells, nodes_any, List.map_cons, List.map_flatMap]
  rfl

@[simp] theorem cells_all : cells (all cell parts) = cell :: parts.flatMap cells := by
  rw [cells, nodes_all, List.map_cons, List.map_flatMap]
  rfl

@[simp] theorem changeCells_base : changeCells (base cell : Criterion α) = [] := rfl

@[simp] theorem changeCells_afterIteration (limit : Number α) :
    changeCells (afterIteration cell limit) = [] := rfl

@[simp] theorem changeCells_changeLess (tolerance : Number α) :
    changeCells (changeLess cell tolerance) = [cell] := rfl

@[simp] theorem changeCells_subgradientNormLess (tolerance : Number α) :
    changeCells (subgradientNormLess cell tolerance) = [] := rfl

@[simp] theorem changeCells_any : changeCells (any cell parts) = parts.flatMap changeCells := by
  rw [changeCells, nodes_any, List.filterMap_cons_none rfl, List.filterMap_flatMap]
  rfl

@[simp] theorem changeCells_all : changeCells (all cell parts) = parts.flatMap changeCells := by
  rw [changeCells, nodes_all, List.filterMap_cons_none rfl, List.filterMap_flatMap]
  rfl

@[simp] theorem formula_any : formula (any cell parts) = .any (parts.map formula) := by
  rw [formula, formulaEach_eq]

@[simp] theorem formula_all : formula (all cell parts) = .all (parts.map formula) := by
  rw [formula, formulaEach_eq]

end Equations

omit [Scalar α] in
theorem formulaAfter_eq_formula (c : Criterion α) {seen : List Nat} (distinct : c.changeCells.Nodup)
    (fresh : List.Disjoint c.changeCells seen) : c.formulaAfter seen = c.formula := by
  have each (parts : List (Criterion α))
      (ih : ∀ c ∈ parts, ∀ seen, c.changeCells.Nodup → List.Disjoint c.changeCells seen →
        c.formulaAfter seen = c.formula) :
      ∀ seen, (parts.flatMap changeCells).Nodup →
        List.Disjoint (parts.flatMap changeCells) seen →
        formulaEachAfter seen parts = parts.map formula := by
    induction parts with
    | nil => intros; rfl
    | cons c rest step =>
      intro seen distinct fresh
      rw [List.flatMap_cons] at distinct fresh
      obtain ⟨first, others, apart⟩ := List.nodup_append'.mp distinct
      obtain ⟨freshFirst, freshOthers⟩ := List.disjoint_append_left.mp fresh
      rw [formulaEachAfter, ih c (by simp) seen first freshFirst]
      have later := step (fun d member => ih d (by simp [member])) (seen ++ c.changeCells) others
        (List.disjoint_append_right.mpr ⟨freshOthers, List.disjoint_symm apart⟩)
      rw [later, List.map_cons]
  induction c generalizing seen with
  | base cell => rfl
  | afterIteration cell limit => rfl
  | changeLess cell tolerance =>
    have unseen : cell ∉ seen := by simpa using fresh
    simp [formulaAfter, formula, unseen]
  | subgradientNormLess cell tolerance => rfl
  | any cell parts ih =>
    rw [changeCells_any] at distinct fresh
    rw [formulaAfter, formula_any, each parts (fun c part _ => ih c part) seen distinct fresh]
  | all cell parts ih =>
    rw [changeCells_all] at distinct fresh
    rw [formulaAfter, formula_all, each parts (fun c part _ => ih c part) seen distinct fresh]

omit [Scalar α] in
theorem index_mem_cells (c : Criterion α) : c.index ∈ c.cells := by
  cases c <;> simp [cells, nodes, index]

omit [Scalar α] in
theorem mem_nodes_self (c : Criterion α) : c ∈ c.nodes := by
  cases c <;> simp [nodes]

def isBase : Criterion α → Bool
  | base _ => true
  | _ => false

/-- Nothing in the criterion fails because it cannot be asked. -/
def Askable (c : Criterion α) : Prop := ∀ d ∈ c.nodes, d.isBase = false

/-- What is asked, in this order, when the given criteria are asked one after the other: all that they
are made of, up to a criterion that cannot be asked. -/
def opened (parts : List (Criterion α)) : List (Criterion α) :=
  (parts.flatMap nodes).takeWhile fun d => !d.isBase

section Opened

omit [Scalar α]

variable {c : Criterion α} {parts : List (Criterion α)} {cell : Nat}

theorem askable_any : (any cell parts).Askable ↔ ∀ c ∈ parts, c.Askable := by
  unfold Askable
  rw [nodes_any, List.forall_mem_cons, List.forall_mem_flatMap]
  exact and_iff_right rfl

theorem askable_all : (all cell parts).Askable ↔ ∀ c ∈ parts, c.Askable := by
  unfold Askable
  rw [nodes_all, List.forall_mem_cons, List.forall_mem_flatMap]
  exact and_iff_right rfl

@[simp] theorem opened_nil : opened ([] : List (Criterion α)) = [] := rfl

@[simp] theorem opened_base : opened [(base cell : Criterion α)] = [] := rfl

@[simp] theorem opened_any : opened [any cell parts] = any cell parts :: opened parts := by
  unfold opened
  rw [List.flatMap_singleton, nodes_any, List.takeWhile_cons_of_pos rfl]

@[simp] theorem opened_all : opened [all cell parts] = all cell parts :: opened parts := by
  unfold opened
  rw [List.flatMap_singleton, nodes_all, List.takeWhile_cons_of_pos rfl]

theorem opened_singleton (askable : c.Askable) : opened [c] = c.nodes := by
  unfold opened
  rw [List.flatMap_singleton, List.takeWhile_eq_self_iff]
  intro d member
  rw [askable d member, Bool.not_false]

theorem askable_leaf (leaf : c.nodes = [c]) (kind : c.isBase = false) : c.Askable := by
  intro d member
  rw [leaf, List.mem_singleton] at member
  rw [member, kind]

theorem opened_leaf (leaf : c.nodes = [c]) (kind : c.isBase = false) : opened [c] = [c] := by
  rw [opened_singleton (askable_leaf leaf kind), leaf]

theorem mem_opened (askable : ∀ c ∈ parts, c.Askable) (member : c ∈ parts) : c ∈ opened parts := by
  have whole : opened parts = parts.flatMap nodes := by
    unfold opened
    rw [List.takeWhile_eq_self_iff, List.forall_mem_flatMap]
    intro d part e node
    rw [askable d part e node, Bool.not_false]
  rw [whole]
  exact List.mem_flatMap.mpr ⟨c, member, mem_nodes_self c⟩

theorem opened_cons_of_askable (askable : c.Askable) :
    opened (c :: parts) = c.nodes ++ opened parts := by
  unfold opened
  rw [List.flatMap_cons, List.takeWhile_append_of_pos]
  intro d member
  rw [askable d member, Bool.not_false]

theorem opened_cons_of_not_askable (unaskable : ¬ c.Askable) :
    opened (c :: parts) = opened [c] := by
  unfold opened
  rw [List.flatMap_singleton, List.flatMap_cons, List.takeWhile_append, if_neg]
  intro whole
  refine unaskable fun d member => ?_
  have kept := List.takeWhile_eq_self_iff.mp ((List.takeWhile_prefix _).eq_of_length whole) d member
  simpa using kept

theorem opened_cons_subset : opened [c] ⊆ opened (c :: parts) := by
  by_cases askable : c.Askable
  · rw [opened_singleton askable, opened_cons_of_askable askable]
    exact List.subset_append_left _ _
  · have same : opened (c :: parts) = opened [c] := opened_cons_of_not_askable askable
    rw [same]
    exact List.Subset.refl _

theorem mem_opened_cons {d : Criterion α} (askable : c.Askable) (member : d ∈ opened parts) :
    d ∈ opened (c :: parts) := by
  rw [opened_cons_of_askable askable]
  exact List.mem_append_right _ member

end Opened

end Criterion

end ManifoldOpt

import Mathlib.Data.List.Basic

set_option autoImplicit false

namespace ManifoldOpt

inductive Formula (ι : Type)
  | leaf (i : ι)
  | any (parts : List (Formula ι))
  | all (parts : List (Formula ι))

namespace Formula

variable {ι κ : Type}

@[elab_as_elim, induction_eliminator]
theorem induct {motive : Formula ι → Prop} (leaf : ∀ i, motive (leaf i))
    (any : ∀ parts, (∀ f ∈ parts, motive f) → motive (any parts))
    (all : ∀ parts, (∀ f ∈ parts, motive f) → motive (all parts)) : ∀ f, motive f
  | .leaf i => leaf i
  | .any parts => any parts fun f _ => induct leaf any all f
  | .all parts => all parts fun f _ => induct leaf any all f

variable (v : ι → Bool)

mutual

def holds : Formula ι → Bool
  | leaf i => v i
  | any parts => holdsSome parts
  | all parts => holdsEach parts

def holdsSome : List (Formula ι) → Bool
  | [] => false
  | f :: rest => holds f || holdsSome rest

def holdsEach : List (Formula ι) → Bool
  | [] => true
  | f :: rest => holds f && holdsEach rest

end

mutual

/-- The leaves that are reached from the root through formulas that hold, from left to right. -/
def reached : Formula ι → List ι
  | leaf i => if v i then [i] else []
  | any parts => if holdsSome v parts then reachedEach parts else []
  | all parts => if holdsEach v parts then reachedEach parts else []

def reachedEach : List (Formula ι) → List ι
  | [] => []
  | f :: rest => reached f ++ reachedEach rest

end

theorem holdsSome_eq (parts : List (Formula ι)) : holdsSome v parts = parts.any (holds v) := by
  induction parts with
  | nil => rfl
  | cons f rest ih => simp [holdsSome, ih]

theorem holdsEach_eq (parts : List (Formula ι)) : holdsEach v parts = parts.all (holds v) := by
  induction parts with
  | nil => rfl
  | cons f rest ih => simp [holdsEach, ih]

theorem reachedEach_eq (parts : List (Formula ι)) :
    reachedEach v parts = parts.flatMap (reached v) := by
  induction parts with
  | nil => rfl
  | cons f rest ih => simp [reachedEach, ih]

@[simp] theorem holds_leaf (i : ι) : holds v (leaf i) = v i := rfl

@[simp] theorem holds_any (parts : List (Formula ι)) :
    holds v (any parts) = parts.any (holds v) := holdsSome_eq v parts

@[simp] theorem holds_all (parts : List (Formula ι)) :
    holds v (all parts) = parts.all (holds v) := holdsEach_eq v parts

theorem reached_eq_nil {f : Formula ι} (fails : f.holds v = false) : f.reached v = [] := by
  cases f with
  | leaf i =>
    simp only [holds] at fails
    simp [reached, fails]
  | any parts =>
    simp only [holds] at fails
    simp [reached, fails]
  | all parts =>
    simp only [holds] at fails
    simp [reached, fails]

@[simp] theorem reached_leaf (i : ι) : reached v (leaf i) = if v i then [i] else [] := rfl

@[simp] theorem reached_any (parts : List (Formula ι)) :
    reached v (any parts) = parts.flatMap (reached v) := by
  rw [reached, reachedEach_eq]
  split
  · rfl
  · rename_i fails
    -- Parts that do not hold are not reached from either.
    have none : ∀ f ∈ parts, f.reached v = [] := fun f member =>
      reached_eq_nil v (by simp_all [holdsSome_eq])
    simp [List.flatMap_eq_nil_iff.mpr none]

@[simp] theorem reached_all (parts : List (Formula ι)) :
    reached v (all parts) = if parts.all (holds v) then parts.flatMap (reached v) else [] := by
  rw [reached, reachedEach_eq, holdsEach_eq]

theorem holds_of_mem_reached {f : Formula ι} {i : ι} (member : i ∈ f.reached v) : v i = true := by
  induction f with
  | leaf j =>
    by_cases here : v j = true
    · simp only [reached_leaf, here, if_true, List.mem_singleton] at member
      rw [member, here]
    · simp [here] at member
  | any parts ih =>
    rw [reached_any, List.mem_flatMap] at member
    obtain ⟨f, part, below⟩ := member
    exact ih f part below
  | all parts ih =>
    rw [reached_all] at member
    split at member
    · obtain ⟨f, part, below⟩ := List.mem_flatMap.mp member
      exact ih f part below
    · cases member

inductive Filled : Formula ι → Prop
  | leaf (i : ι) : Filled (leaf i)
  | any {parts : List (Formula ι)} (some_part : parts ≠ []) (each : ∀ f ∈ parts, Filled f) :
    Filled (any parts)
  | all {parts : List (Formula ι)} (some_part : parts ≠ []) (each : ∀ f ∈ parts, Filled f) :
    Filled (all parts)

theorem filled_any {parts : List (Formula ι)} :
    Filled (any parts) ↔ parts ≠ [] ∧ ∀ f ∈ parts, Filled f :=
  ⟨fun | .any some_part each => ⟨some_part, each⟩, fun ⟨some_part, each⟩ => .any some_part each⟩

theorem filled_all {parts : List (Formula ι)} :
    Filled (all parts) ↔ parts ≠ [] ∧ ∀ f ∈ parts, Filled f :=
  ⟨fun | .all some_part each => ⟨some_part, each⟩, fun ⟨some_part, each⟩ => .all some_part each⟩

theorem Filled.reached_ne_nil {f : Formula ι} (filled : f.Filled) (holds : f.holds v = true) :
    f.reached v ≠ [] := by
  induction f with
  | leaf i =>
    rw [holds_leaf] at holds
    simp [holds]
  | any parts ih =>
    obtain ⟨-, each⟩ := filled_any.mp filled
    rw [holds_any] at holds
    obtain ⟨f, member, part⟩ := List.any_eq_true.mp holds
    have further := ih f member (each f member) part
    simp only [reached_any, ne_eq, List.flatMap_eq_nil_iff, not_forall]
    exact ⟨f, member, further⟩
  | all parts ih =>
    obtain ⟨some_part, each⟩ := filled_all.mp filled
    rw [holds_all] at holds
    obtain ⟨f, member⟩ := List.exists_mem_of_ne_nil parts some_part
    have further := ih f member (each f member) (List.all_eq_true.mp holds f member)
    simp only [reached_all, holds, if_true, ne_eq, List.flatMap_eq_nil_iff, not_forall]
    exact ⟨f, member, further⟩

structure Same (f g : Formula ι) : Prop where
  holds : ∀ v, f.holds v = g.holds v
  reached : ∀ v, f.reached v = g.reached v

theorem Same.refl (f : Formula ι) : Same f f := ⟨fun _ => rfl, fun _ => rfl⟩

theorem Same.trans {f g h : Formula ι} (first : Same f g) (rest : Same g h) : Same f h :=
  ⟨fun v => (first.holds v).trans (rest.holds v), fun v => (first.reached v).trans (rest.reached v)⟩

theorem same_any_singleton (f : Formula ι) : Same (any [f]) f :=
  ⟨fun v => by simp, fun v => by simp⟩

theorem same_all_singleton (f : Formula ι) : Same (all [f]) f := by
  refine ⟨fun v => by simp, fun v => ?_⟩
  by_cases part : f.holds v = true
  · simp [part]
  · rw [Bool.not_eq_true] at part
    simp [part, reached_eq_nil]

theorem same_any {fs gs : List (Formula ι)} (each : List.Forall₂ Same fs gs) :
    Same (any fs) (any gs) := by
  induction each with
  | nil => exact .refl _
  | cons first _ ih =>
    refine ⟨fun v => ?_, fun v => ?_⟩
    · have rest := ih.holds v
      rw [holds_any, holds_any] at rest
      rw [holds_any, holds_any, List.any_cons, List.any_cons, first.holds v, rest]
    · have rest := ih.reached v
      rw [reached_any, reached_any] at rest
      rw [reached_any, reached_any, List.flatMap_cons, List.flatMap_cons, first.reached v, rest]

theorem same_all {fs gs : List (Formula ι)} (each : List.Forall₂ Same fs gs) :
    Same (all fs) (all gs) := by
  have conditions (v : ι → Bool) : fs.all (holds v) = gs.all (holds v) ∧
      fs.flatMap (reached v) = gs.flatMap (reached v) := by
    induction each with
    | nil => exact ⟨rfl, rfl⟩
    | cons first _ ih =>
      rw [List.all_cons, List.all_cons, List.flatMap_cons, List.flatMap_cons, first.holds v,
        first.reached v, ih.1, ih.2]
      exact ⟨rfl, rfl⟩
  refine ⟨fun v => ?_, fun v => ?_⟩
  · rw [holds_all, holds_all, (conditions v).1]
  · rw [reached_all, reached_all, (conditions v).1, (conditions v).2]

theorem same_any_nested (fs gs : List (Formula ι)) :
    Same (any (any fs :: gs)) (any (fs ++ gs)) :=
  ⟨fun v => by simp, fun v => by simp⟩

theorem same_all_nested (fs gs : List (Formula ι)) :
    Same (all (all fs :: gs)) (all (fs ++ gs)) := by
  refine ⟨fun v => by simp, fun v => ?_⟩
  simp only [reached_all, holds_all, List.all_cons, List.all_append, List.flatMap_cons,
    List.flatMap_append]
  cases fs.all (holds v) <;> rfl

section Groups

variable {g : κ → List (Formula ι)} {h : κ → Formula ι} {xs : List κ}

theorem same_any_flatMap (each : ∀ x ∈ xs, Same (any (g x)) (h x)) :
    Same (any (xs.flatMap g)) (any (xs.map h)) := by
  induction xs with
  | nil => exact .refl _
  | cons x xs ih =>
    have first := each x (by simp)
    have rest := ih fun y member => each y (by simp [member])
    refine ⟨fun v => ?_, fun v => ?_⟩
    · have left := first.holds v
      have right := rest.holds v
      simp only [holds_any, List.flatMap_cons, List.any_append, List.map_cons, List.any_cons] at *
      rw [left, right]
    · have left := first.reached v
      have right := rest.reached v
      simp only [reached_any, List.flatMap_cons, List.flatMap_append, List.map_cons] at *
      rw [left, right]

theorem same_all_flatMap (each : ∀ x ∈ xs, Same (all (g x)) (h x)) :
    Same (all (xs.flatMap g)) (all (xs.map h)) := by
  induction xs with
  | nil => exact .refl _
  | cons x xs ih =>
    have first := each x (by simp)
    have rest := ih fun y member => each y (by simp [member])
    refine ⟨fun v => ?_, fun v => ?_⟩
    · have left := first.holds v
      have right := rest.holds v
      simp only [holds_all, List.flatMap_cons, List.all_append, List.map_cons, List.all_cons] at *
      rw [left, right]
    · have holdsFirst := first.holds v
      have holdsRest := rest.holds v
      have left := first.reached v
      have right := rest.reached v
      rw [holds_all] at holdsFirst holdsRest
      rw [holds_all] at holdsRest
      rw [reached_all, holdsFirst] at left
      rw [reached_all, reached_all, holdsRest] at right
      rw [List.map_cons, reached_all, reached_all, List.flatMap_cons, List.all_append, holdsFirst,
        holdsRest, List.all_cons]
      -- Only where all parts hold there is something to compare.
      generalize (h x).holds v = here at left ⊢
      generalize (xs.map h).all (holds v) = there at right ⊢
      cases here with
      | false => simp
      | true =>
        cases there with
        | false => simp
        | true => simpa [← left] using right

end Groups

end Formula

end ManifoldOpt

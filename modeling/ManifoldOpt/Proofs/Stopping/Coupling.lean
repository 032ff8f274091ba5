import ManifoldOpt.Proofs.Coupling
import ManifoldOpt.Proofs.Stopping.Tree

set_option autoImplicit false

namespace ManifoldOpt

open Attempt Stage

theorem Option.rel_eq {β : Type} : Option.Rel (Eq : β → β → Prop) = Eq := by
  ext x y
  constructor
  · rintro (⟨rfl⟩ | _)
    · rfl
    · rfl
  · rintro rfl
    cases x with
    | none => exact .none
    | some b => exact .some rfl

theorem Option.rel_getD {β γ : Type} {V : β → γ → Prop} {x : Option β} {y : Option γ} {b : β} {c : γ}
    (related : Option.Rel V x y) (fallback : V b c) : V (x.getD b) (y.getD c) := by
  cases related with
  | some related => exact related
  | none => exact fallback

theorem forall₂_set {β γ : Type} {V : β → γ → Prop} {xs : List β} {ys : List γ} {b : β} {c : γ}
    (related : List.Forall₂ V xs ys) (here : V b c) (i : Nat) :
    List.Forall₂ V (xs.set i b) (ys.set i c) := by
  induction related generalizing i with
  | nil => exact .nil
  | cons head tail ih =>
    cases i with
    | zero => exact .cons here tail
    | succ i => exact .cons head (ih i)

section Memory

variable {α : Type} {P : Tensor α → Tensor α → Prop}

structure Cell.Related (P : Tensor α → Tensor α → Prop) (c d : Cell α) : Prop where
  reason : c.reason = d.reason
  iteration : c.iteration = d.iteration
  lastChange : c.lastChange = d.lastChange
  previous : Option.Rel P c.previous d.previous

def Cell.measurement (cell : Cell α) : Option α × Option (Tensor α) :=
  (cell.lastChange, cell.previous)

theorem Cell.related_eq : Cell.Related (α := α) Eq = Eq := by
  ext c d
  constructor
  · rintro ⟨reason, iteration, lastChange, previous⟩
    rw [Option.rel_eq] at previous
    cases c
    cases d
    cases reason
    cases iteration
    cases lastChange
    cases previous
    rfl
  · rintro rfl
    exact ⟨rfl, rfl, rfl, Option.rel_eq ▸ rfl⟩

theorem Cell.Related.blank : Cell.Related P {} {} := ⟨rfl, rfl, rfl, .none⟩

def Memory.Related (P : Tensor α → Tensor α → Prop) : Memory α → Memory α → Prop :=
  List.Forall₂ (Cell.Related P)

namespace Memory

theorem related_eq : Memory.Related (α := α) Eq = Eq := by
  rw [Memory.Related, Cell.related_eq, List.forall₂_eq_eq_eq]

variable {m m' : Memory α}

theorem Related.cell (related : Memory.Related P m m') (i : Nat) :
    Cell.Related P (m.cell i) (m'.cell i) := by
  induction related generalizing i with
  | nil => exact .blank
  | cons head tail ih =>
    cases i with
    | zero => exact head
    | succ i => exact ih i

theorem Related.update (related : Memory.Related P m m') {f g : Cell α → Cell α}
    (keeps : ∀ c d, Cell.Related P c d → Cell.Related P (f c) (g d)) (i : Nat) :
    Memory.Related P (m.update i f) (m'.update i g) :=
  forall₂_set related (keeps _ _ (related.cell i)) i

theorem related_fresh (fresh : ∀ c ∈ m, c.previous = none) : Memory.Related P m m := by
  induction m with
  | nil => exact .nil
  | cons c rest ih =>
    have none := fresh c List.mem_cons_self
    exact .cons ⟨rfl, rfl, rfl, none ▸ .none⟩ (ih fun d member => fresh d (.tail _ member))

end Memory

namespace Criterion

/-- Stages related like this have related memories, and stay related when an event is reported or
cells of the given criteria are changed to related ones. What criteria keep that do not measure
changes does not change. Asking a criterion does no more. -/
structure Carries (P : Tensor α → Tensor α → Prop) (owned : Criterion α → Prop)
    (R : Stage α (Memory α) → Stage α (Memory α) → Prop) : Prop where
  memory : ∀ s t, R s t → Memory.Related P s.state t.state
  note : ∀ (c : Criterion α) f, owned c → (∀ cell, (f cell).measurement = cell.measurement) →
    (∀ x y, Cell.Related P x y → Cell.Related P (f x) (f y)) → Couples R Eq (c.change f) (c.change f)
  measure : ∀ cell tolerance f g, owned (changeLess cell tolerance) →
    (∀ x y, Cell.Related P x y → Cell.Related P (f x) (g y)) →
    Couples R Eq ((changeLess cell tolerance).change f) ((changeLess cell tolerance).change g)
  emit : ∀ event, Couples R Eq (Stage.emit event) (Stage.emit event)

variable {owned : Criterion α → Prop} {R : Stage α (Memory α) → Stage α (Memory α) → Prop}

theorem carries_joined {H : Trail α → Trail α → Prop}
    (emits : ∀ event, Couples H Eq (Trail.emit event) (Trail.emit event)) :
    Carries P (fun _ => True) (Joined H (Memory.Related P)) where
  memory _ _ joined := joined.state
  note c _ _ _ keeps := joined_modifyState fun _ _ related => related.update keeps c.index
  measure cell _ _ _ _ keeps := joined_modifyState fun _ _ related => related.update keeps cell
  emit event := joined_onTrail (emits event)

variable (carries : Carries P owned R) {c : Criterion α} (k : Int)

include carries

theorem Carries.reasons (parts : List (Criterion α)) (fired : List Bool) :
    Couples R Eq (reasons parts fired) (reasons parts fired) := by
  intro s t before
  have same (i : Nat) := ((carries.memory s t before).cell i).reason
  unfold Criterion.reasons
  rw [getState_bind, getState_bind]
  simp only [same]
  exact .ok rfl before

section Changes

variable (inside : owned c)

include inside

theorem Carries.fire (reason : List (Cause α)) :
    Couples R Eq (c.fire k reason) (c.fire k reason) := by
  refine (carries.note c (fun cell => { cell with reason := reason, iteration := k }) inside
    (fun _ => rfl) fun x y related => ?_).bind_eq fun _ =>
      (carries.emit _).bind_eq fun _ => couples_pure rfl
  exact { related with reason := rfl, iteration := rfl }

theorem Carries.fire_if (fires : Bool) (reason : List (Cause α)) :
    Couples R Eq (if fires then c.fire k reason else return false)
      (if fires then c.fire k reason else return false) :=
  Couples.ite (fun _ => carries.fire k inside reason) fun _ => couples_pure rfl

theorem Carries.reset : Couples R Eq (c.change Cell.reset) (c.change Cell.reset) :=
  carries.note c _ inside (fun _ => rfl) fun _ _ related =>
    { related with reason := rfl, iteration := rfl }

theorem Carries.reset_if {β γ : Type} {V : β → γ → Prop} {rest : Check α β} {rest' : Check α γ}
    (couples : Couples R V rest rest') :
    Couples R V
      (do
        if k = 0 then c.change Cell.reset
        rest)
      (do
        if k = 0 then c.change Cell.reset
        rest') :=
  Couples.ite (fun _ => (carries.reset inside).bind_eq fun _ => couples) fun _ => couples

end Changes

end Criterion

end Memory

variable {α : Type} [Scalar α] {P : Tensor α → Tensor α → Prop}

structure Manifold.Isometric (M : Manifold α) (P : Tensor α → Tensor α → Prop) : Prop where
  dist : ∀ {p q x y}, P p q → P x y → M.distNumber p x = M.distNumber q y
  norm : ∀ {p q x y}, P p q → P x y → M.normNumber p x = M.normNumber q y

theorem Manifold.isometric_eq (M : Manifold α) : M.Isometric Eq where
  dist := by
    rintro p _ x _ rfl rfl
    rfl
  norm := by
    rintro p _ x _ rfl rfl
    rfl

section Measures

variable {M : Manifold α} (isometric : M.Isometric P) {p q x y : Option (Tensor α)}
  (points : Option.Rel P p q) (others : Option.Rel P x y)

include isometric points others

theorem distBetween_related : distBetween M p x = distBetween M q y := by
  cases points with
  | none => rfl
  | some points =>
    cases others with
    | none => rfl
    | some others => exact isometric.dist points others

theorem normAt_related : normAt M p x = normAt M q y := by
  cases points with
  | none => rfl
  | some points =>
    cases others with
    | none => rfl
    | some others => exact isometric.norm points others

end Measures

structure View.Related (H : Trail α → Trail α → Prop) (P : Tensor α → Tensor α → Prop)
    (view view' : View α) : Prop where
  manifold : view.manifold = view'.manifold
  isometric : ∀ M, view.manifold = .ok M → M.Isometric P
  iterate : Outcome.Agree (Option.Rel P) view.iterate view'.iterate
  direction : Outcome.Agree (Option.Rel P) view.direction view'.direction
  subgradient : Outcome.Agree (fun u v => P u.1 v.1 ∧ P u.2 v.2) view.subgradient view'.subgradient
  cost : Option.Rel (fun f g => ∀ p q, P p q → Couples H Eq (f p) (g q)) view.cost view'.cost

theorem View.related_self {H : Trail α → Trail α → Prop} {view : View α}
    (costs : ∀ cost ∈ view.cost, ∀ p, Couples H Eq (cost p) (cost p)) :
    View.Related H Eq view view where
  manifold := rfl
  isometric M _ := M.isometric_eq
  iterate := Outcome.agree_of_ok fun _ _ => Option.rel_eq ▸ rfl
  direction := Outcome.agree_of_ok fun _ _ => Option.rel_eq ▸ rfl
  subgradient := Outcome.agree_of_ok fun _ _ => ⟨rfl, rfl⟩
  cost := by
    cases given : view.cost with
    | none => exact .none
    | some cost =>
      refine .some ?_
      rintro p _ rfl
      exact costs cost given p

theorem View.Related.point {H : Trail α → Trail α → Prop} {view view' : View α}
    (views : View.Related H P view view') : Outcome.Agree P view.point view'.point := by
  refine views.iterate.bind fun p q related => ?_
  cases related with
  | none => exact .error _
  | some points => exact .ok points

namespace Criterion

variable {owned : Criterion α → Prop} {R : Stage α (Memory α) → Stage α (Memory α) → Prop}
  (carries : Carries P owned R) {c : Criterion α} (k : Int)

include carries

section Leaves

variable {H : Trail α → Trail α → Prop} {view view' : View α} (views : View.Related H P view view')

theorem Carries.checkBudget (inside : owned c) (limit : Number α) :
    Couples R Eq (c.checkBudget limit k) (c.checkBudget limit k) :=
  carries.reset_if k inside (carries.fire_if k inside _ _)

include views

theorem Carries.checkChange {cell : Nat} {tolerance : Number α}
    (inside : owned (changeLess cell tolerance)) :
    Couples R Eq ((changeLess cell tolerance).checkChange tolerance view k)
      ((changeLess cell tolerance).checkChange tolerance view' k) := by
  unfold Criterion.checkChange
  rw [← views.manifold]
  refine Couples.lift_bind fun M known => ?_
  refine (couples_lift views.iterate).bind fun current current' now => Couples.ite ?_ ?_
  · intro _
    refine (carries.measure _ _ _ _ inside fun x y related => ?_).bind_eq fun _ => ?_
    · exact { related with reason := rfl, iteration := rfl, lastChange := rfl }
    refine (couples_lift views.point).bind fun p q points => ?_
    refine (carries.measure _ _ _ _ inside fun x y related => ?_).bind_eq fun _ => couples_pure rfl
    exact { related with previous := .some points }
  · intro _
    have read : Couples R (Cell.Related P) (changeLess cell tolerance).cellOf
        (changeLess cell tolerance).cellOf := fun s t before =>
      .ok ((carries.memory s t before).cell cell) before
    refine read.bind fun x y related => ?_
    rw [← distBetween_related (views.isometric M known) related.previous now]
    refine Couples.lift_bind fun size _ => ?_
    refine (carries.measure _ _ _ _ inside fun x y related => ?_).bind_eq fun _ => ?_
    · exact { related with lastChange := rfl, previous := now }
    exact carries.fire_if k inside _ _

theorem Carries.checkSubgradient (inside : owned c) (tolerance : Number α) :
    Couples R Eq (c.checkSubgradient tolerance view k) (c.checkSubgradient tolerance view' k) := by
  refine Couples.ite (fun _ => ?_) fun _ => ?_
  · exact (carries.reset inside).bind_eq fun _ => couples_pure rfl
  · rw [← views.manifold]
    refine Couples.lift_bind fun M known => ?_
    refine (couples_lift views.subgradient).bind ?_
    rintro ⟨p, v⟩ ⟨q, w⟩ ⟨points, vectors⟩
    dsimp only
    rw [← (views.isometric M known).norm points vectors]
    exact Couples.lift_bind fun size _ => carries.fire_if k inside _ _

end Leaves

def Carried (owned : Criterion α → Prop) (R : Stage α (Memory α) → Stage α (Memory α) → Prop)
    (view view' : View α) (k : Int) (c : Criterion α) : Prop :=
  (∀ d ∈ opened [c], owned d) →
    Couples R (fun b b' => b = b' ∧ c.Askable) (check view k c) (check view' k c)

omit carries in
theorem checkEach_carried {view view' : View α} {parts : List (Criterion α)} {k : Int}
    (each : ∀ c ∈ parts, Carried owned R view view' k c) (inside : ∀ d ∈ opened parts, owned d) :
    Couples R (fun fired fired' => fired = fired' ∧ ∀ c ∈ parts, c.Askable)
      (checkEach view k parts) (checkEach view' k parts) := by
  induction parts with
  | nil => exact couples_pure ⟨rfl, nofun⟩
  | cons c rest ih =>
    refine (each c (by simp) fun d member => inside d (opened_cons_subset member)).bind ?_
    rintro first _ ⟨rfl, askable⟩
    -- The others are only reached if the first one answers.
    refine (ih (fun d member => each d (by simp [member])) fun d member =>
      inside d (mem_opened_cons askable member)).bind ?_
    rintro others _ ⟨rfl, askable'⟩
    exact couples_pure ⟨rfl, List.forall_mem_cons.mpr ⟨askable, askable'⟩⟩

theorem Carries.check_carried {H : Trail α → Trail α → Prop} {view view' : View α}
    (views : View.Related H P view view') (c : Criterion α) : Carried owned R view view' k c := by
  induction c with
  | base cell => exact fun _ => couples_throw _
  | afterIteration cell limit =>
    intro inside
    exact (carries.checkBudget k (inside _ (by simp [opened, nodes, isBase])) limit).mono
      fun b b' same => ⟨same, askable_leaf rfl rfl⟩
  | changeLess cell tolerance =>
    intro inside
    exact (carries.checkChange k views (inside _ (by simp [opened, nodes, isBase]))).mono
      fun b b' same => ⟨same, askable_leaf rfl rfl⟩
  | subgradientNormLess cell tolerance =>
    intro inside
    exact (carries.checkSubgradient k views (inside _ (by simp [opened, nodes, isBase]))
      tolerance).mono fun b b' same => ⟨same, askable_leaf rfl rfl⟩
  | any cell parts ih =>
    intro inside
    rw [opened_any, List.forall_mem_cons] at inside
    rw [check, check]
    refine carries.reset_if k inside.1 ((checkEach_carried ih inside.2).bind ?_)
    rintro fired _ ⟨rfl, askable⟩
    refine Couples.mono (V := Eq) ?_ fun b b' same => ⟨same, askable_any.mpr askable⟩
    exact Couples.ite (fun _ => (carries.reasons parts fired).bind_eq fun _ =>
      carries.fire k inside.1 _) fun _ => couples_pure rfl
  | all cell parts ih =>
    intro inside
    rw [opened_all, List.forall_mem_cons] at inside
    rw [check, check]
    refine carries.reset_if k inside.1 ((checkEach_carried ih inside.2).bind ?_)
    rintro fired _ ⟨rfl, askable⟩
    refine Couples.mono (V := Eq) ?_ fun b b' same => ⟨same, askable_all.mpr askable⟩
    exact Couples.ite (fun _ => (carries.reasons parts fired).bind_eq fun _ =>
      carries.fire k inside.1 _) fun _ => couples_pure rfl

end Criterion

end ManifoldOpt

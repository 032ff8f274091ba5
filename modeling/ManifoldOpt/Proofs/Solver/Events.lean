import ManifoldOpt.Proofs.Solver.Relation

set_option autoImplicit false

namespace ManifoldOpt

open Attempt Stage

section UpToEvents

variable {α S β : Type}

abbrev UpToEvents (m : Attempt α (Stage α S) β) : Prop := Couples (Alike Eq) Eq m m

theorem modifyState_upToEvents (f : S → S) :
    UpToEvents (modifyState f : Attempt α (Stage α S) Unit) := by
  refine couples_modifyState ?_
  rintro s _ rfl
  rfl

end UpToEvents

namespace Criterion

section Memory

variable {α : Type}

/-- Stages related like this have the same memory, and stay related when an event is reported or a
cell of the given criteria is changed. What criteria keep that do not measure changes does not
change. Asking a criterion does no more. -/
structure Respects (owned : Criterion α → Prop)
    (R : Stage α (Memory α) → Stage α (Memory α) → Prop) : Prop where
  memory : ∀ s t, R s t → s.state = t.state
  note : ∀ (c : Criterion α) f, owned c → (∀ cell, (f cell).measurement = cell.measurement) →
    Couples R Eq (c.change f) (c.change f)
  measure : ∀ cell tolerance f, owned (changeLess cell tolerance) →
    Couples R Eq ((changeLess cell tolerance).change f) ((changeLess cell tolerance).change f)
  emit : ∀ event, Couples R Eq (emit event) (emit event)

theorem respects_alike :
    Respects (fun _ => True) (Alike (α := α) (Eq : Memory α → Memory α → Prop)) where
  memory _ _ alike := alike.state
  note _ _ _ _ := modifyState_upToEvents _
  measure _ _ _ _ := modifyState_upToEvents _
  emit _ := couples_emit _ _

theorem respects_same {owned : Criterion α → Prop} {I : Stage α (Memory α) → Prop}
    (notes : ∀ c f, owned c → (∀ cell : Cell α, (f cell).measurement = cell.measurement) →
      Keeps I (c.change f))
    (measures : ∀ cell tolerance f, owned (changeLess cell tolerance) →
      Keeps I ((changeLess cell tolerance).change f))
    (emits : ∀ event, Keeps I (Stage.emit event)) : Respects owned fun s t => s = t ∧ I s where
  memory _ _ same := congrArg Stage.state same.1
  note c f inside keeps := keeps_iff_couples.mp (notes c f inside keeps)
  measure cell tolerance f inside := keeps_iff_couples.mp (measures cell tolerance f inside)
  emit event := keeps_iff_couples.mp (emits event)

theorem Respects.carries {owned : Criterion α → Prop}
    {R : Stage α (Memory α) → Stage α (Memory α) → Prop} (respects : Respects owned R) :
    Carries Eq owned R where
  memory s t before := Memory.related_eq ▸ respects.memory s t before
  note c f inside keeps _ := respects.note c f inside keeps
  measure cell tolerance f g inside keeps := by
    have same : f = g := by
      funext c
      rw [Cell.related_eq] at keeps
      exact keeps c c rfl
    exact same ▸ respects.measure cell tolerance f inside
  emit := respects.emit

end Memory

variable {α : Type} [Scalar α] {view : View α} {owned : Criterion α → Prop}
  {R : Stage α (Memory α) → Stage α (Memory α) → Prop}

def Respected (owned : Criterion α → Prop) (R : Stage α (Memory α) → Stage α (Memory α) → Prop)
    (view : View α) (k : Int) (c : Criterion α) : Prop :=
  (∀ d ∈ opened [c], owned d) →
    Couples R (fun b b' => b = b' ∧ c.Askable) (check view k c) (check view k c)

theorem Respects.check_respected (respects : Respects owned R) (k : Int) (c : Criterion α) :
    Respected owned R view k c :=
  respects.carries.check_carried k (View.related_self fun _ _ _ => couples_same _) c

theorem check_upToEvents (k : Int) (c : Criterion α) : UpToEvents (check view k c) :=
  (respects_alike.check_respected k c fun _ _ => trivial).mono fun _ _ same => same.1

theorem check_keeps {I : Stage α (Memory α) → Prop} {c : Criterion α}
    (notes : ∀ d ∈ opened [c], ∀ f, (∀ cell : Cell α, (f cell).measurement = cell.measurement) →
      Keeps I (d.change f))
    (measures : ∀ cell tolerance f, changeLess cell tolerance ∈ opened [c] →
      Keeps I ((changeLess cell tolerance).change f))
    (emits : ∀ event, Keeps I (Stage.emit event)) (k : Int) : Keeps I (check view k c) := by
  have respects : Respects (· ∈ opened [c]) fun s t => s = t ∧ I s :=
    respects_same (fun d f member keeps => notes d member f keeps) measures emits
  exact keeps_iff_couples.mpr ((respects.check_respected k c fun _ member => member).mono
    fun _ _ same => same.1)

end Criterion

variable {α : Type} [Scalar α] {view : View α}

def View.IgnoresEvents (view : View α) : Prop :=
  ∀ cost ∈ view.cost, ∀ p, Attempt.IgnoresEvents (cost p)

namespace Recorder

omit [Scalar α] in
theorem upToEvents_of_related {m : Attempt α (Stage α (Recorder α)) Unit}
    (couples : Couples (Joined Trail.SameTally (Related Eq)) Eq m m) : UpToEvents m := by
  rwa [related_eq, ← alike_eq] at couples

theorem start_upToEvents : UpToEvents (start view) := by
  -- Which cost is shown does not matter before the first iteration.
  let costless : View α := { view with cost := none }
  have views : View.Related Trail.SameTally Eq costless costless := View.related_self nofun
  change UpToEvents (start costless)
  exact upToEvents_of_related (start_related views)

theorem record_upToEvents (ignores : view.IgnoresEvents) (stepsize : Option α) (k : Int) :
    UpToEvents (record view stepsize k) :=
  upToEvents_of_related (record_related (View.related_self ignores) stepsize k)

end Recorder

end ManifoldOpt

import ManifoldOpt.Damping
import ManifoldOpt.Proofs.Coupling

set_option autoImplicit false

namespace ManifoldOpt

open Attempt

namespace DampingSearch

variable {α S T : Type} [Scalar α]

structure Paired (R : Stage α (Run α S) → Stage α (Run α T) → Prop)
    (P : Tensor α → Tensor α → Prop) (search : DampingSearch α S) (search' : DampingSearch α T) :
    Prop where
  alpha : ∀ a, Couples R Eq (note (search.notes.setAlpha a)) (note (search'.notes.setAlpha a))
  theta : ∀ t, Couples R Eq (note (search.notes.setTheta t)) (note (search'.notes.setTheta t))
  same : ∀ b, Couples R Eq (note (search.notes.setSame b)) (note (search'.notes.setSame b))
  trial : ∀ p q, P p q →
    Couples R Eq (note (search.notes.setTrial p)) (note (search'.notes.setTrial q))
  emit : ∀ event, Couples R Eq (Stage.emit event) (Stage.emit event)
  iteration : search.iteration = search'.iteration
  moved : ∀ factor, Outcome.Agree P
    (search.manifold.retract search.point (search.direction.scale factor) search.retraction)
    (search'.manifold.retract search'.point (search'.direction.scale factor) search'.retraction)
  norm : search.manifold.normNumber search.point search.direction =
    search'.manifold.normNumber search'.point search'.direction
  simplified : Couples R
    (fun v w => search.manifold.normNumber search.point v =
      search'.manifold.normNumber search'.point w) search.simplified search'.simplified

section Paired

variable {R : Stage α (Run α S) → Stage α (Run α T) → Prop} {P : Tensor α → Tensor α → Prop}
  {search : DampingSearch α S} {search' : DampingSearch α T} (paired : Paired R P search search')

include paired

theorem Paired.accept (alpha theta : α) (trials : Nat) :
    Couples R Eq (search.accept alpha theta trials) (search'.accept alpha theta trials) := by
  unfold DampingSearch.accept
  rw [← paired.iteration]
  exact (paired.same true).bind_eq fun _ => (paired.emit _).bind_eq fun _ => couples_pure rfl

theorem Paired.giveUp (factor theta : α) (trials : Nat) :
    Couples R Eq (search.giveUp factor theta trials) (search'.giveUp factor theta trials) := by
  unfold DampingSearch.giveUp
  rw [← paired.iteration]
  exact (paired.same true).bind_eq fun _ => (paired.emit _).bind_eq fun _ => couples_throw _

theorem Paired.estimate (norm factor : α) :
    Couples R Eq (search.estimate norm factor) (search'.estimate norm factor) := by
  refine (paired.alpha factor).bind_eq fun _ => ?_
  refine (couples_lift (paired.moved factor)).bind fun p q points => ?_
  refine (paired.trial p q points).bind_eq fun _ => (paired.same false).bind_eq fun _ => ?_
  refine paired.simplified.bind fun v w sizes => ?_
  rw [← sizes]
  refine Couples.lift_bind fun size _ => ?_
  exact (paired.theta (size / norm)).bind_eq fun _ => couples_pure rfl

theorem Paired.loop (d : Damping α) (norm : α) (allowance trials : Nat) (alpha theta factor : α) :
    Couples R Eq (search.loop d norm allowance trials alpha theta factor)
      (search'.loop d norm allowance trials alpha theta factor) := by
  -- Both sides have found the same contractions, so that they take the same branch.
  induction allowance generalizing trials alpha theta factor with
  | zero => exact couples_throw _
  | succ allowance ih =>
    refine Couples.ite (fun _ => Couples.ite (fun _ => ?_) fun _ => ?_) fun _ => ?_
    · exact paired.giveUp factor theta trials
    · exact (paired.estimate norm factor).bind_eq fun theta' => ih _ _ _ _
    · exact paired.accept alpha theta trials

theorem Paired.run (d : Damping α) : Couples R Eq (search.run d) (search'.run d) := by
  unfold DampingSearch.run
  rw [← paired.iteration, ← paired.norm]
  refine (paired.alpha 1).bind_eq fun _ => (paired.theta _).bind_eq fun _ => ?_
  refine Couples.lift_bind fun norm _ => Couples.ite (fun _ => ?_) fun _ => ?_
  · refine (paired.theta 0).bind_eq fun _ => (paired.same true).bind_eq fun _ => ?_
    exact (paired.emit _).bind_eq fun _ => couples_pure rfl
  · exact paired.loop d norm _ _ _ _ _

end Paired

end DampingSearch

variable {α S : Type} {R : Stage α (Run α S) → Stage α (Run α S) → Prop}

structure DampingNotes.Respect (notes : DampingNotes α S)
    (R : Stage α (Run α S) → Stage α (Run α S) → Prop) : Prop where
  alpha : ∀ a, Couples R Eq (DampingSearch.note (notes.setAlpha a))
    (DampingSearch.note (notes.setAlpha a))
  theta : ∀ t, Couples R Eq (DampingSearch.note (notes.setTheta t))
    (DampingSearch.note (notes.setTheta t))
  same : ∀ b, Couples R Eq (DampingSearch.note (notes.setSame b))
    (DampingSearch.note (notes.setSame b))
  trial : ∀ p, Couples R Eq (DampingSearch.note (notes.setTrial p))
    (DampingSearch.note (notes.setTrial p))
  emit : ∀ event, Couples R Eq (Stage.emit event) (Stage.emit event)

variable [Scalar α] {search : DampingSearch α S}

def DampingSearch.Reaches (search : DampingSearch α S) (p : Tensor α) : Prop :=
  ∃ factor, search.manifold.retract search.point (search.direction.scale factor)
    search.retraction = .ok p

structure DampingSearch.Respected (search : DampingSearch α S)
    (R : Stage α (Run α S) → Stage α (Run α S) → Prop) : Prop where
  alpha : ∀ a, Couples R Eq (note (search.notes.setAlpha a)) (note (search.notes.setAlpha a))
  theta : ∀ t, Couples R Eq (note (search.notes.setTheta t)) (note (search.notes.setTheta t))
  same : ∀ b, Couples R Eq (note (search.notes.setSame b)) (note (search.notes.setSame b))
  trial : ∀ p, search.Reaches p →
    Couples R Eq (note (search.notes.setTrial p)) (note (search.notes.setTrial p))
  emit : ∀ event, Couples R Eq (Stage.emit event) (Stage.emit event)

theorem DampingNotes.Respect.respected (notes : search.notes.Respect R) : search.Respected R :=
  { notes with trial := fun p _ => notes.trial p }

namespace DampingSearch

section Respected

variable (respected : search.Respected R) {other : Running α S (Tensor α)}
  (simplified : Couples R Eq search.simplified other)

include respected simplified

theorem Respected.paired :
    Paired R (fun p q => p = q ∧ search.Reaches p) search { search with simplified := other } where
  alpha := respected.alpha
  theta := respected.theta
  same := respected.same
  trial := by
    rintro p _ ⟨rfl, reached⟩
    exact respected.trial p reached
  emit := respected.emit
  iteration := rfl
  moved factor := Outcome.agree_of_ok fun p reached => ⟨rfl, factor, reached⟩
  norm := rfl
  simplified := simplified.mono fun v w same => by rw [same]

theorem Respected.estimate (norm factor : α) :
    Couples R Eq (search.estimate norm factor)
      (DampingSearch.estimate { search with simplified := other } norm factor) :=
  (respected.paired simplified).estimate norm factor

theorem Respected.run (d : Damping α) :
    Couples R Eq (search.run d) (DampingSearch.run { search with simplified := other } d) :=
  (respected.paired simplified).run d

end Respected

theorem run_couples (notes : search.notes.Respect R) {other : Running α S (Tensor α)}
    (simplified : Couples R Eq search.simplified other) (d : Damping α) :
    Couples R Eq (search.run d) (run { search with simplified := other } d) :=
  notes.respected.run simplified d

end DampingSearch

end ManifoldOpt

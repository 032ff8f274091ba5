import ManifoldOpt.Manifold.Sphere
import ManifoldOpt.Newton.System
import ManifoldOpt.Proofs.Attempt
import ManifoldOpt.Stepsize

set_option autoImplicit false

namespace ManifoldOpt

@[simp] def Fault.warnings {α : Type} : Fault α → List (Event α)
  | dampingFailed k _ theta trials => [.dampingGivenUp k trials theta]
  | _ => []

namespace Outcome

variable {α β γ : Type}

/-- An operation fails, if it does, without a warning. -/
def NoWarning (x : Outcome α β) : Prop := ∀ e, x = .error e → e.warnings = []

@[simp] theorem noWarning_ok (b : β) : NoWarning (.ok b : Outcome α β) := fun _ impossible => by
  cases impossible

@[simp] theorem noWarning_error {e : Fault α} :
    NoWarning (.error e : Outcome α β) ↔ e.warnings = [] := by
  refine ⟨fun noWarning => noWarning e rfl, fun none e' same => ?_⟩
  cases same
  exact none

theorem NoWarning.bind_of_ok {x : Outcome α β} {f : β → Outcome α γ} (first : x.NoWarning)
    (rest : ∀ b, x = .ok b → (f b).NoWarning) : (x >>= f).NoWarning := by
  cases x with
  | ok b => exact rest b rfl
  | error e => exact noWarning_error.mpr (noWarning_error.mp first)

theorem NoWarning.bind {x : Outcome α β} {f : β → Outcome α γ} (first : x.NoWarning)
    (rest : ∀ b, (f b).NoWarning) : (x >>= f).NoWarning := first.bind_of_ok fun b _ => rest b

theorem NoWarning.ite {p : Prop} [Decidable p] {x y : Outcome α β} (yes : x.NoWarning)
    (no : y.NoWarning) : (if p then x else y).NoWarning := by
  split
  · exact yes
  · exact no

theorem NoWarning.mapM {f : β → Outcome α γ} (each : ∀ b, (f b).NoWarning) (list : List β) :
    (list.mapM f).NoWarning := by
  induction list with
  | nil => exact noWarning_ok []
  | cons b rest ih =>
    rw [List.mapM_cons]
    exact (each b).bind fun c => ih.bind fun others => noWarning_ok _

end Outcome

open Outcome (NoWarning noWarning_ok noWarning_error)

variable {α : Type} [Scalar α]

namespace Tensor

theorem pointwise_noWarning (f : α → α → α) (x y : Tensor α) : (pointwise f x y).NoWarning := by
  unfold pointwise zipSpread
  repeat' split
  all_goals simp

omit [Scalar α] in
theorem number_noWarning (x : Tensor α) : x.number.NoWarning := by
  unfold number
  split <;> simp

omit [Scalar α] in
theorem reshape_noWarning (x : Tensor α) (shape : Shape) : (x.reshape shape).NoWarning := by
  unfold reshape
  split <;> simp

omit [Scalar α] in
theorem slices_noWarning (x : Tensor α) : x.slices.NoWarning := by
  unfold slices
  split <;> simp

theorem apply_noWarning (a v : Tensor α) : (a.apply v).NoWarning := by
  unfold apply
  repeat' split
  all_goals simp

theorem dot_noWarning (x y : Tensor α) : (x.dot y).NoWarning := by
  unfold dot
  split
  · exact pointwise_noWarning _ _ _
  · exact pointwise_noWarning _ _ _
  · split <;> simp
  · exact apply_noWarning _ _
  · split <;> simp

theorem sumLast_noWarning (x : Tensor α) : x.sumLast.NoWarning := by
  unfold sumLast
  split <;> simp

theorem setLast_noWarning (a : α) (x : Tensor α) : (x.setLast a).NoWarning := by
  unfold setLast
  split <;> simp

theorem combine_noWarning (c basis : Tensor α) : (c.combine basis).NoWarning := by
  unfold combine
  repeat' split
  all_goals simp

theorem coordinates_noWarning (basis v : Tensor α) : (basis.coordinates v).NoWarning := by
  unfold coordinates
  repeat' split
  all_goals simp

theorem columns_noWarning (vectors : List (Tensor α)) : (columns vectors).NoWarning := by
  unfold columns
  repeat' split
  all_goals simp

theorem selectBy_noWarning (test : α → Bool) (c x y : Tensor α) : (selectBy test c x y).NoWarning := by
  refine (pointwise_noWarning _ _ _).bind fun left => (pointwise_noWarning _ _ _).bind fun right => ?_
  split
  · exact noWarning_error.mpr rfl
  · exact noWarning_ok _

end Tensor

theorem Number.toScalar_noWarning (n : Number α) : n.toScalar.NoWarning := by
  unfold toScalar
  repeat' split
  all_goals simp

theorem Number.factor_noWarning (n : Number α) : n.factor.NoWarning := by
  unfold factor
  repeat' split
  all_goals simp

theorem Number.add_noWarning (x y : Number α) : (x.add y).NoWarning := by
  unfold add combine
  split
  · exact noWarning_ok _
  · exact x.toScalar_noWarning.bind fun _ => y.toScalar_noWarning.bind fun _ => noWarning_ok _

omit [Scalar α] in
theorem Literal.compared_noWarning (given : Literal α) : given.compared.NoWarning := by
  unfold compared
  split <;> simp

theorem solveLinear_noWarning (a b : Tensor α) : (solveLinear a b).NoWarning := by
  unfold solveLinear
  repeat' split
  all_goals simp

theorem requireFinite_noWarning (x : Tensor α) : (requireFinite x).NoWarning := by
  unfold requireFinite
  split <;> simp

theorem solveDirect_noWarning (matrix value : Tensor α) : (solveDirect matrix value).NoWarning :=
  (solveLinear_noWarning _ _).bind requireFinite_noWarning

theorem solveIteratively_noWarning (method : LinearSystem α → α → List α → List α)
    (matrix value : Tensor α) (start : Option (Tensor α)) (tolerance : Literal α) :
    (solveIteratively method matrix value start tolerance).NoWarning := by
  have given : (LinearSystem.ofTensors matrix value start).NoWarning := by
    unfold LinearSystem.ofTensors
    split
    · exact NoWarning.ite (noWarning_ok _) (noWarning_error.mpr rfl)
    · exact noWarning_error.mpr rfl
  refine given.bind fun _ => ?_
  exact (tolerance.compared_noWarning.bind Number.factor_noWarning).bind fun _ =>
    requireFinite_noWarning _

theorem solveBy_noWarning (method : Literal α) (matrix value : Tensor α) (start : Option (Tensor α))
    (tolerance : Literal α) : (solveBy method matrix value start tolerance).NoWarning := by
  unfold solveBy
  split
  · exact solveDirect_noWarning _ _
  · exact solveIteratively_noWarning _ _ _ _ _
  · exact solveIteratively_noWarning _ _ _ _ _
  · simp

theorem ConditionCheck.run_noWarning (check : ConditionCheck α) (operation : String)
    (matrix : Tensor α) : (check.run operation matrix).NoWarning := by
  refine NoWarning.ite ?_ (noWarning_ok ())
  unfold checkConditioned
  split
  · exact noWarning_ok ()
  · exact (Literal.compared_noWarning _).bind fun _ =>
      NoWarning.ite (noWarning_error.mpr rfl) (noWarning_ok ())

structure Manifold.NoWarning (M : Manifold α) : Prop where
  dimension : M.dimension.NoWarning
  project : ∀ x v, (M.project x v).NoWarning
  exp : ∀ x v, (M.exp x v).NoWarning
  retr : ∀ x v, (M.retr x v).NoWarning
  transp : ∀ x y v, (M.transp x y v).NoWarning
  inner : ∀ x u v, (M.inner x u v).NoWarning
  basis : ∀ x, (M.basis x).NoWarning
  dist : ∀ x y, (M.dist x y).NoWarning
  coordinates : ∀ x v basis, (M.coordinates x v basis).NoWarning
  vector : ∀ x c basis, (M.vector x c basis).NoWarning

namespace Manifold.NoWarning

variable {M : Manifold α} (noWarning : M.NoWarning)

include noWarning

theorem norm (x v : Tensor α) : (M.norm x v).NoWarning :=
  (noWarning.inner x v v).bind fun _ => noWarning_ok _

theorem normNumber (x v : Tensor α) : (M.normNumber x v).NoWarning :=
  (noWarning.norm x v).bind Tensor.number_noWarning

theorem distNumber (x y : Tensor α) : (M.distNumber x y).NoWarning :=
  (noWarning.dist x y).bind Tensor.number_noWarning

theorem retract (x v : Tensor α) (method : Literal α) : (M.retract x v method).NoWarning := by
  have known : (M.retraction method).NoWarning := by
    unfold retraction
    split <;> simp
  refine known.bind fun m => ?_
  cases m with
  | exponential => exact noWarning.exp x v
  | projection => exact noWarning.retr x v

theorem transport (x y v : Tensor α) (method : Literal α) : (M.transport x y v method).NoWarning := by
  have known : (M.transportMethod method).NoWarning := by
    unfold transportMethod
    split <;> simp
  refine known.bind fun m => ?_
  cases m with
  | parallel => exact noWarning.transp x y v
  | projection => exact noWarning.project y v

end Manifold.NoWarning

theorem euclidean_noWarning (shape : Shape) : (euclidean shape : Manifold α).NoWarning where
  dimension := noWarning_ok _
  project _ _ := noWarning_ok _
  exp _ _ := Tensor.pointwise_noWarning _ _ _
  retr _ _ := Tensor.pointwise_noWarning _ _ _
  transp _ _ _ := noWarning_ok _
  inner _ _ _ := (Tensor.pointwise_noWarning _ _ _).bind fun _ => noWarning_ok _
  basis _ := noWarning_ok _
  dist _ _ := (Tensor.pointwise_noWarning _ _ _).bind fun _ => noWarning_ok _
  coordinates _ _ basis := by
    cases basis with
    | none => exact noWarning_ok _
    | some basis => exact Tensor.coordinates_noWarning _ _
  vector _ _ basis := by
    cases basis with
    | none => exact Tensor.reshape_noWarning _ _
    | some basis => exact Tensor.combine_noWarning _ _

namespace Sphere

theorem project_noWarning (x v : Tensor α) : (project x v).NoWarning :=
  (Tensor.pointwise_noWarning _ _ _).bind fun products => products.sumLast_noWarning.bind fun _ =>
    (Tensor.pointwise_noWarning _ _ _).bind fun _ => Tensor.pointwise_noWarning _ _ _

theorem split_noWarning (x y : Tensor α) : (split x y).NoWarning :=
  (Tensor.dot_noWarning _ _).bind fun _ => (Tensor.pointwise_noWarning _ _ _).bind fun _ =>
    (Tensor.pointwise_noWarning _ _ _).bind fun _ => noWarning_ok _

theorem dist_noWarning (x y : Tensor α) : (dist x y).NoWarning :=
  (split_noWarning x y).bind fun _ => noWarning_ok _

theorem transp_noWarning (x y v : Tensor α) : (transp x y v).NoWarning := by
  have along : (rotateAlong x y v).NoWarning :=
    (Tensor.dot_noWarning _ _).bind fun _ => (Tensor.dot_noWarning _ _).bind fun _ =>
      (Tensor.pointwise_noWarning _ _ _).bind fun _ => (Tensor.pointwise_noWarning _ _ _).bind fun _ =>
      (Tensor.pointwise_noWarning _ _ _).bind fun _ => Tensor.pointwise_noWarning _ _ _
  refine (dist_noWarning x y).bind fun d => d.number_noWarning.bind fun _ => ?_
  refine (project_noWarning y v).bind fun _ => along.bind fun _ => ?_
  exact NoWarning.ite (noWarning_ok _) (noWarning_error.mpr rfl)

theorem basis_noWarning (n : Nat) (x : Tensor α) : (basis n x).NoWarning :=
  (Tensor.setLast_noWarning _ _).bind fun _ => (Tensor.pointwise_noWarning _ _ _).bind fun _ =>
    (Tensor.dot_noWarning _ _).bind fun _ => (Tensor.pointwise_noWarning _ _ _).bind fun _ =>
    (Tensor.pointwise_noWarning _ _ _).bind fun _ => (Tensor.selectBy_noWarning _ _ _ _).bind fun _ =>
    noWarning_ok _

theorem chosen_noWarning (n : Nat) (x : Tensor α) (given : Option (Tensor α)) :
    (given.elim (basis n x) .ok).NoWarning := by
  cases given with
  | none => exact basis_noWarning n x
  | some basis => exact noWarning_ok _

end Sphere

theorem sphere_noWarning (n : Nat) : (sphere n : Manifold α).NoWarning where
  dimension := noWarning_ok _
  project := Sphere.project_noWarning
  exp _ _ := (Tensor.pointwise_noWarning _ _ _).bind fun _ =>
    (Tensor.pointwise_noWarning _ _ _).bind fun _ => noWarning_ok _
  retr _ _ := (Tensor.pointwise_noWarning _ _ _).bind fun _ => noWarning_ok _
  transp := Sphere.transp_noWarning
  inner _ _ _ := Tensor.dot_noWarning _ _
  basis := Sphere.basis_noWarning n
  dist := Sphere.dist_noWarning
  coordinates x _ basis :=
    (Sphere.chosen_noWarning n x basis).bind fun _ => Tensor.coordinates_noWarning _ _
  vector x _ basis :=
    (Sphere.chosen_noWarning n x basis).bind fun _ => Tensor.combine_noWarning _ _

structure Bundle.NoWarning (bundle : Bundle α) : Prop where
  fiberDimension : bundle.fiberDimension.NoWarning
  zero : ∀ p, (bundle.zero p).NoWarning
  basis : ∀ p, (bundle.basis p).NoWarning
  coordinates : ∀ p v basis, (bundle.coordinates p v basis).NoWarning
  transport : ∀ p q v method, (bundle.transport p q v method).NoWarning

theorem Bundle.tangent_noWarning {M : Manifold α} (noWarning : M.NoWarning) :
    (Bundle.tangent M).NoWarning where
  fiberDimension := noWarning.dimension
  zero _ := noWarning_ok _
  basis := noWarning.basis
  coordinates := noWarning.coordinates
  transport := noWarning.transport

theorem Bundle.trivial_noWarning (M : Manifold α) (shape : Shape) :
    (Bundle.trivial M shape).NoWarning where
  fiberDimension := noWarning_ok _
  zero _ := noWarning_ok _
  basis _ := noWarning_ok _
  coordinates _ _ basis := by
    cases basis with
    | none => exact noWarning_ok _
    | some basis => exact Tensor.coordinates_noWarning _ _
  transport _ _ _ method := by
    unfold Bundle.trivial
    dsimp only
    split <;> simp

theorem checkedPower_noWarning (base exponent : α) : (checkedPower base exponent).NoWarning := by
  unfold checkedPower
  exact NoWarning.ite (noWarning_error.mpr rfl)
    (NoWarning.ite (noWarning_error.mpr rfl) (noWarning_ok _))

namespace StepRule

theorem decreasingLength_noWarning (length factor subtrahend exponent : α) (shift k : Number α) :
    (decreasingLength length factor subtrahend exponent shift k).NoWarning := by
  have decayed : (decayed length factor subtrahend k).NoWarning :=
    k.toScalar_noWarning.bind fun _ => (checkedPower_noWarning _ _).bind fun _ => noWarning_ok _
  refine decayed.bind fun _ => (k.add_noWarning shift).bind fun shifted => ?_
  refine shifted.toScalar_noWarning.bind fun _ => (checkedPower_noWarning _ _).bind fun _ => ?_
  exact NoWarning.ite (noWarning_error.mpr rfl) (noWarning_ok _)

theorem lengthAt_noWarning {M : Manifold α} (noWarning : M.NoWarning) (p v : Tensor α) (k : Number α)
    (r : StepRule α) : (r.lengthAt M p v k).NoWarning := by
  unfold lengthAt lengthFor
  split
  · exact noWarning_error.mpr rfl
  · exact noWarning_ok _
  · exact (noWarning.normNumber p v).bind fun _ => noWarning_ok _
  · exact decreasingLength_noWarning _ _ _ _ _ _
  · exact (decreasingLength_noWarning _ _ _ _ _ _).bind fun _ =>
      (noWarning.normNumber p v).bind fun _ => noWarning_ok _

end StepRule

end ManifoldOpt

import Mathlib.LinearAlgebra.Matrix.ToLin
import ManifoldOpt.Proofs.Manifold.Euclidean
import ManifoldOpt.Proofs.Manifold.Frame
import ManifoldOpt.Proofs.Newton.Covariance
import ManifoldOpt.Proofs.Newton.Modes

/-!
What the Newton direction is. With exact scalars it is the tangent vector whose image under the
derivative has the coordinates of the right hand side: the matrix of the system is that of the
derivative in the bases of tangent space and fiber, elimination gives the coordinates that it takes
to those of the right hand side, and a nonsingular matrix takes no other ones there.
-/

set_option autoImplicit false

namespace ManifoldOpt

open Attempt Matrix

theorem Outcome.forall₂_mapM {α β γ : Type} {f : β → Outcome α γ} {R : β → γ → Prop} {xs : List β}
    (each : ∀ x ∈ xs, ∃ y, f x = .ok y ∧ R x y) :
    ∃ ys, xs.mapM f = .ok ys ∧ List.Forall₂ R xs ys := by
  induction xs with
  | nil => exact ⟨[], rfl, .nil⟩
  | cons x xs ih =>
    obtain ⟨y, given, related⟩ := each x (by simp)
    obtain ⟨ys, mapped, rest⟩ := ih fun x member => each x (by simp [member])
    refine ⟨y :: ys, ?_, .cons related rest⟩
    rw [List.mapM_cons, given]
    exact Outcome.bind_eq_ok.mpr ⟨y, rfl, Outcome.bind_eq_ok.mpr ⟨ys, mapped, rfl⟩⟩

namespace Attempt

variable {α σ β γ : Type}

/-- Whatever has happened before, the computation gives `b`. -/
def Gives (m : Attempt α σ β) (b : β) : Prop := ∀ s, ∃ t, m s = .ok b t

theorem Gives.bind {m : Attempt α σ β} {f : β → Attempt α σ γ} {b : β} {c : γ} (first : m.Gives b)
    (rest : (f b).Gives c) : (m >>= f).Gives c := by
  intro s
  obtain ⟨t, given⟩ := first s
  obtain ⟨u, done⟩ := rest t
  exact ⟨u, bind_eq_ok.mpr ⟨b, t, given, done⟩⟩

theorem gives_liftM {x : Outcome α β} {b : β} (given : x = .ok b) :
    (liftM x : Attempt α σ β).Gives b := fun s => ⟨s, liftM_eq_ok.mpr ⟨given, rfl⟩⟩

theorem gives_pure (b : β) : (pure b : Attempt α σ β).Gives b := fun s => ⟨s, rfl⟩

end Attempt

def Tensor.rowSpace (m n : ℕ) (b : Tensor ℝ) : Submodule ℝ (Fin n → ℝ) :=
  Submodule.span ℝ (Set.range (b.toMatrix m n).row)

theorem Tensor.mem_rowSpace {m n : ℕ} {b : Tensor ℝ} {y : Fin n → ℝ} :
    y ∈ b.rowSpace m n ↔ ∃ c, c ᵥ* b.toMatrix m n = y := by
  rw [rowSpace, ← range_vecMulLinear]
  exact Iff.rfl

def LinearOperator.LinearOn (operator : LinearOperator ℝ) (shape : Shape)
    (T : Submodule ℝ (Fin shape.size → ℝ)) (k : ℕ) : Prop :=
  ∃ D : T →ₗ[ℝ] (Fin k → ℝ), ∀ v, v.shape = shape → ∀ inside : v.column shape.size ∈ T,
    ∃ w, operator.apply v = .ok w ∧ w.entries.length = k ∧
      w.column k = D ⟨v.column shape.size, inside⟩

theorem LinearOperator.matrix_mulVec {a v : Tensor ℝ} {shape : Shape} {k : ℕ}
    (ha : a.shape = [k, shape.size]) (hv : v.shape = shape) :
    ∃ w, (LinearOperator.matrix a).apply v = .ok w ∧ w.entries.length = k ∧
      w.column k = a.toMatrix k shape.size *ᵥ v.column shape.size := by
  have full : v.entries.length = shape.size := by rw [v.size_eq, hv]
  have flat : v.ravel.shape = [shape.size] := congrArg (fun n => [n]) full
  obtain ⟨w, applied, hw, column⟩ := Tensor.apply_mulVec ha flat
  have count : w.entries.length = k := by rw [w.size_eq, hw, Shape.size_singleton]
  change ∃ w, applyMatrix a v = .ok w ∧ _
  by_cases square : k = shape.size
  · have same : w.shape.size = v.shape.size := by rw [hw, hv, Shape.size_singleton, square]
    refine ⟨⟨v.shape, w.entries, w.size_eq.trans same⟩, Outcome.bind_eq_ok.mpr ⟨w, applied, ?_⟩,
      count, column⟩
    simp only [ha, if_pos square, Tensor.reshape, Tensor.reshape?, dif_pos same]
  · refine ⟨w, Outcome.bind_eq_ok.mpr ⟨w, applied, ?_⟩, count, column⟩
    simp only [ha, if_neg square]
    rfl

theorem LinearOperator.matrix_linear {a : Tensor ℝ} {shape : Shape} {k : ℕ}
    (ha : a.shape = [k, shape.size]) (T : Submodule ℝ (Fin shape.size → ℝ)) :
    (LinearOperator.matrix a).LinearOn shape T k :=
  ⟨(a.toMatrix k shape.size).mulVecLin.domRestrict T, fun _ hv _ => matrix_mulVec ha hv⟩

theorem LinearOperator.identity_linear {shape : Shape} (T : Submodule ℝ (Fin shape.size → ℝ)) :
    (LinearOperator.action .ok).LinearOn shape T shape.size :=
  ⟨T.subtype, fun v hv _ => ⟨v, rfl, by rw [v.size_eq, hv], rfl⟩⟩

namespace RootProblem

variable {problem : RootProblem ℝ} {shape fiber : Shape} {n : ℕ}
  {base basis fiberBasis value : Tensor ℝ} {residual : Option (Tensor ℝ)} {transport : Literal ℝ}
  {operator : LinearOperator ℝ} {factor : ℝ}

def ImageCoordinates (problem : RootProblem ℝ) (base basis fiberBasis : Tensor ℝ)
    (operator : LinearOperator ℝ) (shape : Shape) (n : ℕ)
    (E : Matrix (Fin n) (Fin shape.size) ℝ) : Prop :=
  ∀ v, v.shape = shape → v.column shape.size ∈ basis.rowSpace n shape.size →
    ∃ image c, operator.apply v = .ok image ∧
      problem.bundle.coordinates base image (some fiberBasis) = .ok c ∧ c.shape = [n] ∧
      c.column n = E *ᵥ v.column shape.size

theorem imageCoordinates_of_linear (fibers : problem.bundle.Linear shape fiber n)
    (inside : base.shape = shape) (given : problem.bundle.basis base = .ok fiberBasis)
    (linear : operator.LinearOn shape (basis.rowSpace n shape.size) fiber.size) :
    ∃ E, problem.ImageCoordinates base basis fiberBasis operator shape n E := by
  obtain ⟨D, images⟩ := linear
  obtain ⟨extended, same⟩ := D.exists_extend
  obtain ⟨b, given', C, coordinates⟩ := fibers.coordinates inside
  obtain rfl := Except.ok.inj (given.symm.trans given')
  refine ⟨C * LinearMap.toMatrix' extended, fun v hv spanned => ?_⟩
  obtain ⟨image, applied, full, column⟩ := images v hv spanned
  obtain ⟨c, taken, hc, entries⟩ := coordinates image full
  refine ⟨image, c, applied, taken, hc, ?_⟩
  rw [entries, column, ← same, ← mulVec_mulVec, LinearMap.toMatrix'_mulVec]
  rfl

variable {E : Matrix (Fin n) (Fin shape.size) ℝ}

theorem derivativeMatrix_of_images (some_vector : n ≠ 0) (axes : basis.shape = n :: shape)
    (images : problem.ImageCoordinates base basis fiberBasis operator shape n E) :
    ∃ a, problem.derivativeMatrix base basis fiberBasis operator = .ok a ∧ a.shape = [n, n] ∧
      a.toMatrix n n = E * (basis.toMatrix n shape.size)ᵀ := by
  obtain ⟨vectors, sliced, count, rows⟩ := Tensor.slices_row axes
  have row (v : Tensor ℝ) (member : v ∈ vectors) : v.shape = shape ∧
      v.column shape.size ∈ basis.rowSpace n shape.size := by
    obtain ⟨i, inside, rfl⟩ := List.getElem_of_mem member
    obtain ⟨hv, column⟩ := rows ⟨i, count ▸ inside⟩ _ (List.getElem?_eq_getElem inside)
    rw [column]
    exact ⟨hv, Submodule.subset_span ⟨_, rfl⟩⟩
  obtain ⟨coordinates, mapped, related⟩ := Outcome.forall₂_mapM
    (f := fun b => do
      let image ← operator.apply b
      problem.bundle.coordinates base image (some fiberBasis))
    (R := fun v c => c.shape = [n] ∧ c.column n = E *ᵥ v.column shape.size)
    fun v (member : v ∈ vectors) => by
      obtain ⟨hv, spanned⟩ := row v member
      obtain ⟨image, c, applied, taken, hc, column⟩ := images v hv spanned
      exact ⟨c, Outcome.bind_eq_ok.mpr ⟨image, applied, taken⟩, hc, column⟩
  have count' : coordinates.length = n := related.length_eq.symm.trans count
  obtain ⟨m, rfl⟩ : ∃ m, n = m + 1 := Nat.exists_eq_succ_of_ne_zero some_vector
  have pair (j : ℕ) (left : j < vectors.length) (right : j < coordinates.length) :
      coordinates[j].shape = [m + 1] ∧
        coordinates[j].column (m + 1) = E *ᵥ vectors[j].column shape.size :=
    related.get left right
  obtain ⟨a, stacked, ha, columns⟩ := Tensor.columns_of_shape (m := m + 1) count' fun c member => by
    obtain ⟨j, inside, rfl⟩ := List.getElem_of_mem member
    exact (pair j (by omega) inside).1
  refine ⟨a, Outcome.bind_eq_ok.mpr ⟨vectors, sliced,
    Outcome.bind_eq_ok.mpr ⟨coordinates, mapped, stacked⟩⟩, ha, ?_⟩
  refine Matrix.ext_col fun j => ?_
  have inside : (j : ℕ) < vectors.length := by omega
  have inside' : (j : ℕ) < coordinates.length := by omega
  rw [columns j _ (List.getElem?_eq_getElem inside'), (pair j inside inside').2,
    (rows j _ (List.getElem?_eq_getElem inside)).2]
  rfl

/-- What a caller's functions give: the derivative at `base`, and the residual where it is taken,
with its factor. -/
structure Known (problem : RootProblem ℝ) (base : Tensor ℝ) (residual : Option (Tensor ℝ))
    (operator : LinearOperator ℝ) (value : Tensor ℝ) (factor : ℝ) : Prop where
  derivative : (problem.derivative base).Gives operator
  map : ∃ y, (problem.mapAt (residual.getD base)).Gives y ∧ problem.connection y = .ok value
  scaling : problem.scaling = .ok factor

def carried (problem : RootProblem ℝ) (base : Tensor ℝ) (residual : Option (Tensor ℝ))
    (transport : Literal ℝ) (value : Tensor ℝ) : Outcome ℝ (Tensor ℝ) :=
  match residual with
  | none => .ok value
  | some q => problem.bundle.transport q base value transport

theorem carried_of_linear (fibers : problem.bundle.Linear shape fiber n) (inside : base.shape = shape)
    (elsewhere : ∀ q ∈ residual, q.shape = shape) (named : transport.NamesTransport)
    (element : value.shape = fiber) :
    ∃ moved, problem.carried base residual transport value = .ok moved ∧ moved.shape = fiber := by
  cases residual with
  | none => exact ⟨value, rfl, element⟩
  | some q => exact fibers.transport (elsewhere q rfl) inside element named

theorem Known.rightHandSide (known : problem.Known base residual operator value factor)
    {moved : Tensor ℝ} (carried : problem.carried base residual transport value = .ok moved) :
    (problem.rightHandSide base residual transport).Gives (moved.scale (-factor)) := by
  obtain ⟨y, mapped, connected⟩ := known.map
  refine mapped.bind ((gives_liftM connected).bind ?_)
  cases residual with
  | none =>
    cases carried
    exact (gives_liftM known.scaling).bind (gives_pure _)
  | some q => exact (gives_liftM carried).bind ((gives_liftM known.scaling).bind (gives_pure _))

theorem Known.newtonSystem (known : problem.Known base residual operator value factor)
    (framed : problem.manifold.Framed shape n) (fibers : problem.bundle.Linear shape fiber n)
    (tangent : problem.manifold.basis base = .ok basis)
    (vertical : problem.bundle.basis base = .ok fiberBasis) {a moved rhs : Tensor ℝ}
    (assembled : problem.derivativeMatrix base basis fiberBasis operator = .ok a)
    (carried : problem.carried base residual transport value = .ok moved)
    (taken : problem.bundle.coordinates base (moved.scale (-factor)) (some fiberBasis) = .ok rhs) :
    (problem.newtonSystem base residual transport).Gives ⟨a, rhs, basis⟩ := by
  have same : (Number.int n : Number ℝ).same (.int n) = true :=
    Bool.and_eq_true_iff.mpr ⟨Number.le_iff.mpr le_rfl, Number.le_iff.mpr le_rfl⟩
  have dimensions : problem.checkDimensions = .ok () := by
    refine Outcome.bind_eq_ok.mpr ⟨_, fibers.dimension,
      Outcome.bind_eq_ok.mpr ⟨_, framed.dimension, ?_⟩⟩
    rw [same]
    rfl
  refine (gives_liftM dimensions).bind ((gives_liftM tangent).bind ((gives_liftM vertical).bind ?_))
  refine known.derivative.bind ((gives_liftM assembled).bind ?_)
  exact (known.rightHandSide carried).bind ((gives_liftM taken).bind (gives_pure _))

theorem coordinates_unique {B : Matrix (Fin n) (Fin shape.size) ℝ} (regular : (E * Bᵀ).det ≠ 0)
    {c d : Fin n → ℝ} (same : E *ᵥ (c ᵥ* B) = E *ᵥ (d ᵥ* B)) : c = d := by
  rw [← mulVec_transpose, ← mulVec_transpose, mulVec_mulVec, mulVec_mulVec, ← sub_eq_zero,
    ← mulVec_sub] at same
  exact sub_eq_zero.mp (eq_zero_of_mulVec_eq_zero regular same)

/-- The one vector in the span of the basis whose image has the coordinates `rhs`. -/
structure Solves (problem : RootProblem ℝ) (base basis fiberBasis : Tensor ℝ)
    (operator : LinearOperator ℝ) (shape : Shape) (n : ℕ) (rhs X : Tensor ℝ) : Prop where
  shaped : X.shape = shape
  spanned : X.column shape.size ∈ basis.rowSpace n shape.size
  unique : ∀ v, v.shape = shape → v.column shape.size ∈ basis.rowSpace n shape.size →
    ((∃ image, operator.apply v = .ok image ∧
      problem.bundle.coordinates base image (some fiberBasis) = .ok rhs) ↔ v = X)

theorem answer_solves (framed : problem.manifold.Framed shape n)
    (axes : basis.shape = n :: shape)
    (images : problem.ImageCoordinates base basis fiberBasis operator shape n E)
    {a rhs : Tensor ℝ} (ha : a.shape = [n, n]) (hrhs : rhs.shape = [n])
    (matrix : a.toMatrix n n = E * (basis.toMatrix n shape.size)ᵀ)
    (regular : (a.toMatrix n n).det ≠ 0) :
    ∃ c X : Tensor ℝ, problem.answer base ⟨a, rhs, basis⟩ = .ok X ∧
      problem.Solves base basis fiberBasis operator shape n rhs X ∧ c.shape = [n] ∧
      X.column shape.size = c.column n ᵥ* basis.toMatrix n shape.size ∧
      a.toMatrix n n *ᵥ c.column n = rhs.column n := by
  obtain ⟨c, solved, hc, equal⟩ := solveLinear_of_regular ha hrhs regular
  obtain ⟨X, combined, hX, column⟩ := Tensor.combine_vecMul hc axes
  have given : problem.answer base ⟨a, rhs, basis⟩ = .ok X := by
    refine Outcome.bind_eq_ok.mpr ⟨c, Outcome.bind_eq_ok.mpr ⟨c, solved, requireFinite_real c⟩, ?_⟩
    exact (framed.vector base c basis).trans combined
  have spanned : X.column shape.size ∈ basis.rowSpace n shape.size :=
    Tensor.mem_rowSpace.mpr ⟨_, column.symm⟩
  rw [matrix, ← mulVec_mulVec, mulVec_transpose] at equal
  refine ⟨c, X, given, ⟨hX, spanned, fun v hv inside => ⟨?_, ?_⟩⟩, hc, column, ?_⟩
  · rintro ⟨image, applied, taken⟩
    obtain ⟨image', d, applied', taken', hd, entries⟩ := images v hv inside
    obtain rfl := Except.ok.inj (applied.symm.trans applied')
    obtain rfl := Except.ok.inj (taken.symm.trans taken')
    obtain ⟨x, same⟩ := Tensor.mem_rowSpace.mp inside
    rw [matrix] at regular
    rw [← same, ← equal] at entries
    obtain rfl := coordinates_unique regular entries
    exact Tensor.ext_column hv hX (same.symm.trans column.symm)
  · rintro rfl
    obtain ⟨image, d, applied, taken, hd, entries⟩ := images v hv inside
    rw [column, equal] at entries
    rw [Tensor.eq_of_column hd hrhs entries] at taken
    exact ⟨image, applied, taken⟩
  · rw [matrix, ← mulVec_mulVec, mulVec_transpose, equal]

structure SolvedBy (problem : RootProblem ℝ) (base : Tensor ℝ) (residual : Option (Tensor ℝ))
    (transport : Literal ℝ) (basis : Tensor ℝ) (shape : Shape) (n : ℕ) (a rhs c X : Tensor ℝ) :
    Prop where
  posed : (problem.newtonSystem base residual transport).Gives ⟨a, rhs, basis⟩
  given : (problem.newtonVector .off base residual transport).Gives X
  square : a.shape = [n, n]
  value : rhs.shape = [n]
  coordinates : c.shape = [n]
  shaped : X.shape = shape
  combined : X.column shape.size = c.column n ᵥ* basis.toMatrix n shape.size
  equal : a.toMatrix n n *ᵥ c.column n = rhs.column n

theorem Known.solvedBy (known : problem.Known base residual operator value factor)
    (framed : problem.manifold.Framed shape n) (fibers : problem.bundle.Linear shape fiber n)
    (inside : base.shape = shape) (tangent : problem.manifold.basis base = .ok basis)
    (vertical : problem.bundle.basis base = .ok fiberBasis)
    (images : problem.ImageCoordinates base basis fiberBasis operator shape n E)
    (regular : (E * (basis.toMatrix n shape.size)ᵀ).det ≠ 0) {moved rhs : Tensor ℝ}
    (carried : problem.carried base residual transport value = .ok moved)
    (taken : problem.bundle.coordinates base (moved.scale (-factor)) (some fiberBasis) = .ok rhs)
    (hrhs : rhs.shape = [n]) :
    ∃ a c X, a.toMatrix n n = E * (basis.toMatrix n shape.size)ᵀ ∧
      problem.SolvedBy base residual transport basis shape n a rhs c X ∧
      problem.Solves base basis fiberBasis operator shape n rhs X := by
  obtain ⟨b, given, axes, -⟩ := framed.basis inside
  obtain rfl := Except.ok.inj (tangent.symm.trans given)
  obtain ⟨a, assembled, ha, matrix⟩ := derivativeMatrix_of_images framed.positive axes images
  rw [← matrix] at regular
  obtain ⟨c, X, answered, solves, hc, combined, equal⟩ :=
    answer_solves framed axes images ha hrhs matrix regular
  have posed := known.newtonSystem framed fibers tangent vertical assembled carried taken
  refine ⟨a, c, X, matrix, ⟨posed, ?_, ha, hrhs, hc, solves.shaped, combined, equal⟩, solves⟩
  rw [newtonVector_off]
  exact posed.bind (gives_liftM answered)

theorem length_zipSame_self (x : Tensor ℝ) : (x.zipSame Scalar.difference x rfl).length = 0 := by
  rw [Tensor.length, Tensor.total_real, Scalar.sqrt_real]
  simp [Tensor.zipSame, List.zipWith_self]

theorem residualNorm_of_solution (framed : problem.manifold.Framed shape n)
    (axes : basis.shape = n :: shape)
    (orthonormal : basis.toMatrix n shape.size * (basis.toMatrix n shape.size)ᵀ = 1)
    {a rhs c X : Tensor ℝ} (ha : a.shape = [n, n]) (hrhs : rhs.shape = [n]) (hc : c.shape = [n])
    (hX : X.shape = shape)
    (column : X.column shape.size = c.column n ᵥ* basis.toMatrix n shape.size)
    (equal : a.toMatrix n n *ᵥ c.column n = rhs.column n) {e : NewtonEquation ℝ}
    (posed : e.posed = .ok (problem, base, ⟨a, rhs, basis⟩)) : e.residualNorm X = .ok 0 := by
  have full : X.entries.length = shape.size := by rw [X.size_eq, hX]
  obtain ⟨d, taken, hd, coordinates⟩ := Tensor.coordinates_mulVec framed.positive axes full
  have same : d = c := by
    refine Tensor.eq_of_column hd hc ?_
    rw [coordinates, column, ← mulVec_transpose, mulVec_mulVec, orthonormal, one_mulVec]
  obtain ⟨image, applied, himage, entries⟩ := Tensor.apply_mulVec ha hc
  have reached : image = rhs := Tensor.eq_of_column himage hrhs (entries.trans equal)
  rw [same] at taken
  rw [reached] at applied
  have found : e.coordinates X = .ok c :=
    Outcome.bind_eq_ok.mpr ⟨_, posed, (framed.coordinates base X basis).trans taken⟩
  refine Outcome.bind_eq_ok.mpr ⟨_, posed, Outcome.bind_eq_ok.mpr ⟨c, found, ?_⟩⟩
  refine Outcome.bind_eq_ok.mpr ⟨rhs, applied, ?_⟩
  refine Outcome.bind_eq_ok.mpr ⟨_, Tensor.pointwise_of_shape _ rfl, ?_⟩
  rw [length_zipSame_self]
  rfl

end RootProblem

namespace RootProblem

section Mismatch

variable {α : Type} [Scalar α] {problem : RootProblem α} {fiber dimension : Number α}

theorem newtonSystem_of_mismatch (fibers : problem.bundle.fiberDimension = .ok fiber)
    (tangents : problem.manifold.dimension = .ok dimension) (differ : fiber.same dimension = false)
    (base : Tensor α) (residual : Option (Tensor α)) (transport : Literal α) (s : Trail α) :
    problem.newtonSystem base residual transport s = .error (.fiberMismatch dimension fiber) s := by
  have failed : problem.checkDimensions = .error (.fiberMismatch dimension fiber) := by
    unfold checkDimensions
    rw [fibers, tangents]
    change (if (!fiber.same dimension) = true then _ else _) = _
    rw [differ]
    rfl
  exact bind_of_error (liftM_eq_error.mpr ⟨failed, rfl⟩)

end Mismatch

noncomputable def steady : RootProblem ℝ where
  manifold := sphere 2
  bundle := .tangent (sphere 2)
  map := .allocating fun _ => return some (.vector [0, 1, 0])
  derivative _ := return .action .ok

theorem steady_matrix {base basis : Tensor ℝ} (inside : base.shape = [3])
    (given : steady.manifold.basis base = .ok basis) :
    ∃ matrix, steady.derivativeMatrix base basis basis (.action .ok) = .ok matrix ∧
      matrix.toMatrix 2 2 = 1 := by
  obtain ⟨b, given', axes, orthonormal⟩ := (sphere_framed 1).basis inside
  obtain rfl := Except.ok.inj (given.symm.trans given')
  have images : steady.ImageCoordinates base basis basis (.action .ok) [3] 2
      (basis.toMatrix 2 (Shape.size [3])) := by
    intro v hv _
    obtain ⟨c, taken, hc, column⟩ :=
      Tensor.coordinates_mulVec (v := v) two_ne_zero axes (by rw [v.size_eq, hv])
    exact ⟨v, c, rfl, taken, hc, column⟩
  obtain ⟨matrix, assembled, -, same⟩ := derivativeMatrix_of_images two_ne_zero axes images
  exact ⟨matrix, assembled, same.trans orthonormal⟩

end RootProblem

end ManifoldOpt

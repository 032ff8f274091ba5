import ManifoldOpt.Proofs.Newton.Correctness

/-!
The Newton equation at a point with a nonsingular derivative, in coordinates. Only the right hand
side depends on the factor of the residual: the direction has the coordinates that a fixed invertible
matrix takes to those of the residual times the negative factor.
-/

set_option autoImplicit false

namespace ManifoldOpt

open Attempt Matrix

namespace RootProblem

def withScaling {α : Type} [Scalar α] (problem : RootProblem α) (factor : α) : RootProblem α :=
  { problem with scaling := .ok factor }

theorem withScaling_eq {α : Type} [Scalar α] {problem : RootProblem α} {factor : α}
    (scaled : problem.scaling = .ok factor) : problem.withScaling factor = problem := by
  rw [withScaling, ← scaled]

/-- At a point of flat space or of a sphere, the map takes the given value in a linear fiber, and the
derivative is linear and nonsingular. -/
structure Nonsingular (problem : RootProblem ℝ) (shape fiber : Shape) (n : ℕ) (p value : Tensor ℝ) :
    Prop where
  standard : problem.manifold.Standard shape n
  fibers : problem.bundle.Linear shape fiber n
  inside : p.shape = shape
  map : ∃ y, (problem.mapAt p).Gives y ∧ problem.connection y = .ok value
  element : value.entries.length = fiber.size
  derivative : ∃ operator basis fiberBasis matrix, (problem.derivative p).Gives operator ∧
    problem.manifold.basis p = .ok basis ∧ problem.bundle.basis p = .ok fiberBasis ∧
    operator.LinearOn shape (basis.rowSpace n shape.size) fiber.size ∧
    problem.derivativeMatrix p basis fiberBasis operator = .ok matrix ∧
    (matrix.toMatrix n n).det ≠ 0

/-- The Newton equation at `p` in coordinates: `B` holds the tangent basis, `C` takes coordinates in
the fiber, and `A` is the matrix of the system, whatever the factor of the residual is. -/
structure Linearized (problem : RootProblem ℝ) (shape fiber : Shape) (n : ℕ)
    (p value fiberBasis : Tensor ℝ) (A : Matrix (Fin n) (Fin n) ℝ)
    (B : Matrix (Fin n) (Fin shape.size) ℝ) (C : Matrix (Fin n) (Fin fiber.size) ℝ) : Prop where
  vertical : problem.bundle.basis p = .ok fiberBasis
  regular : A.det ≠ 0
  orthonormal : B * Bᵀ = 1
  coordinates : ∀ v, v.entries.length = fiber.size →
    ∃ c, problem.bundle.coordinates p v (some fiberBasis) = .ok c ∧ c.shape = [n] ∧
      c.column n = C *ᵥ v.column fiber.size
  direction : ∀ factor transport, ∃ d X,
    ((problem.withScaling factor).newtonVector .off p none transport).Gives X ∧ X.shape = shape ∧
      X.column shape.size = d ᵥ* B ∧ A *ᵥ d = -factor • C *ᵥ value.column fiber.size

theorem Nonsingular.linearized {problem : RootProblem ℝ} {shape fiber : Shape} {n : ℕ}
    {p value : Tensor ℝ} (nonsingular : problem.Nonsingular shape fiber n p value) :
    ∃ b A B C, problem.Linearized shape fiber n p value b A B C := by
  obtain ⟨operator, basis, b, matrix, derived, tangent, vertical, linear, assembled, regular⟩ :=
    nonsingular.derivative
  have framed := nonsingular.standard.framed
  have inside := nonsingular.inside
  obtain ⟨basis', given, axes, orthonormal⟩ := framed.basis inside
  obtain rfl := Except.ok.inj (tangent.symm.trans given)
  obtain ⟨E, images⟩ := imageCoordinates_of_linear nonsingular.fibers inside vertical linear
  obtain ⟨_, assembled', -, same⟩ := derivativeMatrix_of_images framed.positive axes images
  obtain rfl := Except.ok.inj (assembled.symm.trans assembled')
  rw [same] at regular
  obtain ⟨b', given', C, coordinates⟩ := nonsingular.fibers.coordinates inside
  obtain rfl := Except.ok.inj (vertical.symm.trans given')
  refine ⟨b, _, _, C, vertical, regular, orthonormal, coordinates, fun factor transport => ?_⟩
  have known : (problem.withScaling factor).Known p none operator value factor :=
    ⟨derived, nonsingular.map, rfl⟩
  obtain ⟨rhs, taken, hrhs, column⟩ := coordinates (value.scale (-factor))
    ((List.length_map _).trans nonsingular.element)
  have carried : (problem.withScaling factor).carried p none transport value = .ok value := rfl
  obtain ⟨a, d, X, matrix, solved, -⟩ := known.solvedBy framed nonsingular.fibers inside tangent
    vertical images regular carried taken hrhs
  refine ⟨d.column n, X, solved.given, solved.shaped, solved.combined, ?_⟩
  rw [← matrix, solved.equal, column, Tensor.column_scale, mulVec_smul]

end RootProblem

end ManifoldOpt

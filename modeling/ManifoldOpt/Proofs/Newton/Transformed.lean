import ManifoldOpt.Proofs.Linear.Image
import ManifoldOpt.Proofs.Newton.Modes

set_option autoImplicit false

namespace ManifoldOpt

open Attempt Matrix

variable {m : ℕ} {A : Matrix (Fin m) (Fin m) ℝ}

def Manifold.BasisVector (M : Manifold ℝ) (p v : Tensor ℝ) : Prop :=
  ∃ basis vectors, M.basis p = .ok basis ∧ basis.slices = .ok vectors ∧ v ∈ vectors

theorem trivial_transport {M : Manifold ℝ} {shape : Shape} {p q x y : Tensor ℝ}
    (image : Tensor.Image A x y) (method : Literal ℝ) :
    Outcome.Agree (Tensor.Image A) ((Bundle.trivial M shape).transport p q x method)
      ((Bundle.trivial M shape).transport p q y method) := by
  cases method with
  | none => exact .ok image
  | transport t => exact .ok image
  | _ => exact .error _

namespace RootProblem

/-- In a product bundle with fibers of `m` numbers, the values of the second map are the matrix
times those of the first one, and so are the derivatives on basis vectors. -/
structure Transformed (A : Matrix (Fin m) (Fin m) ℝ) (problem problem' : RootProblem ℝ) : Prop where
  manifold : problem'.manifold = problem.manifold
  bundle : problem.bundle = .trivial problem.manifold [m]
  bundle' : problem'.bundle = .trivial problem.manifold [m]
  connection : ∀ v, problem.connection v = .ok v
  connection' : ∀ v, problem'.connection v = .ok v
  scaling : problem'.scaling = problem.scaling
  map : ∀ p, Couples Trail.SameTally (Tensor.Image A) (problem.mapAt p) (problem'.mapAt p)
  derivative : ∀ p, Couples Trail.SameTally
    (fun f g => ∀ v, problem.manifold.BasisVector p v →
      Outcome.Agree (Tensor.Image A) (f.apply v) (g.apply v))
    (problem.derivative p) (problem'.derivative p)

/-- The derivative at a point is nonsingular: whenever its matrix on the tangent basis is square,
the determinant does not vanish. -/
def Regular (m : ℕ) (problem : RootProblem ℝ) (p : Tensor ℝ) : Prop :=
  ∀ s basis operator t matrix, problem.manifold.basis p = .ok basis →
    problem.derivative p s = .ok operator t →
    problem.derivativeMatrix p basis (standardBasis [m]) operator = .ok matrix →
    matrix.shape = [m, m] → (matrix.toMatrix m m).det ≠ 0

structure SystemImage (A : Matrix (Fin m) (Fin m) ℝ) (system system' : NewtonSystem ℝ) : Prop where
  basis : system'.basis = system.basis
  matrix : ∃ n, Tensor.MatrixImage A n system.matrix system'.matrix
  value : Tensor.CoordinateImage A system.value system'.value
  regular : system.matrix.shape = [m, m] → (system.matrix.toMatrix m m).det ≠ 0

theorem SystemImage.solveDirect {system system' : NewtonSystem ℝ} (invertible : IsUnit A)
    (image : SystemImage A system system') :
    ManifoldOpt.solveDirect system'.matrix system'.value =
      ManifoldOpt.solveDirect system.matrix system.value := by
  obtain ⟨n, matrix⟩ := image.matrix
  unfold ManifoldOpt.solveDirect
  by_cases square : n = m
  · subst square
    rw [solveLinear_transformed matrix.source image.value.source invertible
      (image.regular matrix.source) matrix.target image.value.target matrix.square
      image.value.column]
  · -- A matrix that is not square has no solution on either side.
    have apart : m ≠ n := Ne.symm square
    simp [solveLinear, Tensor.squareRows?, matrix.source, matrix.target, apart]

variable {problem problem' : RootProblem ℝ} {base : Tensor ℝ} (residual : Option (Tensor ℝ))
  (transport : Literal ℝ) (transformed : Transformed A problem problem')

include transformed

theorem Transformed.checkDimensions : problem'.checkDimensions = problem.checkDimensions := by
  unfold RootProblem.checkDimensions
  rw [transformed.manifold, transformed.bundle', transformed.bundle]

theorem Transformed.rightHandSide :
    Couples Trail.SameTally (Tensor.Image A) (problem.rightHandSide base residual transport)
      (problem'.rightHandSide base residual transport) := by
  unfold RootProblem.rightHandSide
  rw [transformed.bundle, transformed.bundle', transformed.scaling]
  refine (transformed.map _).bind fun x y image => ?_
  rw [transformed.connection, transformed.connection']
  refine (couples_lift (.ok image)).bind fun x y image => ?_
  cases residual with
  | none => exact Couples.lift_bind fun c _ => couples_pure (image.scale (-c))
  | some q =>
    refine (couples_lift (trivial_transport image transport)).bind fun x y image => ?_
    exact Couples.lift_bind fun c _ => couples_pure (image.scale (-c))

theorem Transformed.derivativeMatrix {basis : Tensor ℝ} {f g : LinearOperator ℝ}
    (given : problem.manifold.basis base = .ok basis)
    (related : ∀ v, problem.manifold.BasisVector base v →
      Outcome.Agree (Tensor.Image A) (f.apply v) (g.apply v)) :
    Outcome.Agree (fun a b => ∃ n, Tensor.MatrixImage A n a b)
      (problem.derivativeMatrix base basis (standardBasis [m]) f)
      (problem'.derivativeMatrix base basis (standardBasis [m]) g) := by
  unfold RootProblem.derivativeMatrix
  rw [transformed.bundle, transformed.bundle']
  cases sliced : basis.slices with
  | error e => exact .error e
  | ok vectors =>
    have images : ∀ v ∈ vectors, _ := fun v member =>
      (related v ⟨basis, vectors, given, sliced, member⟩).bind fun x y image => image.coordinates
    refine (Outcome.Agree.mapM images).bind fun xs ys related => ?_
    exact (Tensor.columns_agree related).mono fun a b image => ⟨xs.length, image⟩

theorem Transformed.newtonSystem (regular : problem.Regular m base) :
    Couples Trail.SameTally (SystemImage A) (problem.newtonSystem base residual transport)
      (problem'.newtonSystem base residual transport) := by
  unfold RootProblem.newtonSystem
  rw [transformed.checkDimensions, transformed.manifold, transformed.bundle, transformed.bundle']
  refine Couples.lift_bind fun _ _ => Couples.lift_bind fun basis given => ?_
  have fibers (M : Manifold ℝ) : Couples Trail.SameTally
      (fun b c => b = standardBasis [m] ∧ c = standardBasis [m])
      (liftM ((Bundle.trivial M [m]).basis base) : Attempt ℝ (Trail ℝ) (Tensor ℝ))
      (liftM ((Bundle.trivial M [m]).basis base) : Attempt ℝ (Trail ℝ) (Tensor ℝ)) :=
    couples_pure ⟨rfl, rfl⟩
  refine (fibers _).bind ?_
  rintro _ _ ⟨rfl, rfl⟩
  have operators := (transformed.derivative base).and_left
    (P := fun f => ∃ s t, problem.derivative base s = .ok f t) fun s _ t done => ⟨s, t, done⟩
  refine operators.bind ?_
  rintro f g ⟨related, s, t, evaluated⟩
  have matrices := couples_lift (σ := Trail ℝ) (τ := Trail ℝ) (R := Trail.SameTally)
    (transformed.derivativeMatrix given related)
  refine (matrices.and_left fun _ _ _ done => (liftM_eq_ok.mp done).1).bind ?_
  rintro a b ⟨image, assembled⟩
  refine (transformed.rightHandSide residual transport).bind fun x y rhs => ?_
  refine (couples_lift rhs.coordinates).bind fun c d value => couples_pure ?_
  exact ⟨rfl, image, value, regular s basis f t a given evaluated assembled⟩

theorem Transformed.newtonVector (invertible : IsUnit A) (regular : problem.Regular m base) :
    Couples Trail.SameTally Eq (problem.newtonVector .off base residual transport)
      (problem'.newtonVector .off base residual transport) := by
  rw [newtonVector_off, newtonVector_off]
  refine (transformed.newtonSystem residual transport regular).bind fun system system' image => ?_
  have same : problem'.answer base system' = problem.answer base system := by
    unfold answer
    rw [image.solveDirect invertible, image.basis, transformed.manifold]
  rw [same]
  exact couples_outcome _

end RootProblem

noncomputable def Tensor.transform (A : Matrix (Fin m) (Fin m) ℝ) (x : Tensor ℝ) : Tensor ℝ :=
  .tabulate x.shape fun i => if inside : i < m then (A *ᵥ x.column m) ⟨i, inside⟩ else 0

theorem Tensor.transform_image {x : Tensor ℝ} (full : x.entries.length = m) :
    Tensor.Image A x (x.transform A) := by
  have size : x.shape.size = m := x.size_eq.symm.trans full
  refine ⟨full, by simp [transform, tabulate, size], funext fun i => ?_⟩
  simp [transform, tabulate, column, size]

namespace RootProblem

noncomputable def transform (A : Matrix (Fin m) (Fin m) ℝ) (problem : RootProblem ℝ) :
    RootProblem ℝ :=
  { problem with
    map := .allocating fun p => do
      let value ← problem.mapAt p
      return some (value.transform A)
    derivative := fun p => do
      let operator ← problem.derivative p
      return .action fun v => do
        let image ← operator.apply v
        return image.transform A }

theorem transform_transformed {problem : RootProblem ℝ} (ignores : problem.IgnoresEvents)
    (bundle : problem.bundle = .trivial problem.manifold [m])
    (connection : ∀ v, problem.connection v = .ok v)
    (map : ∀ p s value t, problem.mapAt p s = .ok value t → value.entries.length = m)
    (derivative : ∀ p s operator t v image, problem.derivative p s = .ok operator t →
      problem.manifold.BasisVector p v → operator.apply v = .ok image → image.entries.length = m) :
    Transformed A problem (problem.transform A) where
  manifold := rfl
  bundle := bundle
  bundle' := bundle
  connection := connection
  connection' := connection
  scaling := rfl
  map p := by
    have evaluated : (problem.transform A).mapAt p =
        problem.mapAt p >>= fun value => pure (value.transform A) := by
      have buffer : problem.bundle.zero p = .ok (Tensor.zeros [m]) := by rw [bundle]; rfl
      change (liftM (problem.bundle.zero p) >>= fun buffer =>
        (problem.transform A).map.evaluate buffer p : Attempt ℝ (Trail ℝ) (Tensor ℝ)) = _
      rw [buffer, liftM_ok_bind]
      simp only [transform, Procedure.evaluate, Procedure.evaluateWith, bind_assoc, pure_bind]
    have same : Attempt.IgnoresEvents (problem.mapAt p) :=
      Couples.lift_bind fun buffer _ => ignores.map.evaluate buffer p
    have values := (same.and_left (map p)).bind (W := Tensor.Image A) (f := pure)
      (g := fun value => pure (value.transform A)) fun x y ⟨equal, full⟩ =>
        couples_pure (equal ▸ Tensor.transform_image full)
    rwa [bind_pure, ← evaluated] at values
  derivative p := by
    have operators := (ignores.derivative p).and_left
      (P := fun f => ∃ s t, problem.derivative p s = .ok f t) fun s _ t done => ⟨s, t, done⟩
    have values := operators.bind (f := pure) (g := fun f => pure (.action fun v => do
        let image ← f.apply v
        return image.transform A))
      (W := fun f g => ∀ v, problem.manifold.BasisVector p v →
        Outcome.Agree (Tensor.Image A) (f.apply v) (LinearOperator.apply v g)) ?_
    · rwa [bind_pure] at values
    · rintro f _ ⟨rfl, s, t, evaluated⟩
      refine couples_pure fun v tangent => ?_
      change Outcome.Agree _ (f.apply v) (f.apply v >>= fun image => pure (image.transform A))
      cases applied : f.apply v with
      | error e => exact .error e
      | ok image =>
        exact .ok (Tensor.transform_image (derivative p s f t v image evaluated tangent applied))

end RootProblem

end ManifoldOpt

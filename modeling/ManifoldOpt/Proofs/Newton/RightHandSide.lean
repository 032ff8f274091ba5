import ManifoldOpt.Proofs.Newton.Correctness

set_option autoImplicit false

namespace ManifoldOpt

open Attempt

namespace RootProblem

section Residuals

variable {α : Type} [Scalar α]

def residualAt (problem : RootProblem α) (q : Tensor α) : Attempt α (Trail α) (Tensor α) := do
  let image ← problem.mapAt q
  problem.connection image

def unmoved (problem : RootProblem α) (q : Tensor α) : Attempt α (Trail α) (Tensor α) := do
  let value ← problem.residualAt q
  return value.scale (-(← problem.scaling))

variable {problem : RootProblem α} {base q value : Tensor α} {transport : Literal α}

theorem rightHandSide_none : problem.rightHandSide base none transport = problem.unmoved base :=
  (bind_assoc _ _ _).symm

theorem rightHandSide_some :
    problem.rightHandSide base (some q) transport = (do
      let value ← problem.residualAt q
      let moved ← problem.bundle.transport q base value transport
      return moved.scale (-(← problem.scaling))) :=
  (bind_assoc _ _ _).symm

theorem rightHandSide_of_kept
    (kept : ∀ s value t, problem.residualAt q s = .ok value t →
      problem.bundle.transport q base value transport = .ok value) :
    problem.rightHandSide base (some q) transport = problem.unmoved q := by
  rw [rightHandSide_some]
  funext s
  unfold unmoved
  cases taken : problem.residualAt q s with
  | error e t => rw [bind_of_error taken, bind_of_error taken]
  | ok value t =>
    rw [bind_of_ok taken, bind_of_ok taken, kept s value t taken]
    rfl

end Residuals

variable {problem : RootProblem ℝ} {n : ℕ} {p q value : Tensor ℝ} {method : Literal ℝ}

theorem rightHandSide_of_carried {s t : Trail ℝ} {moved : Tensor ℝ} {factor : ℝ}
    (taken : problem.residualAt q s = .ok value t)
    (carried : problem.bundle.transport q p value method = .ok moved)
    (scaling : problem.scaling = .ok factor) :
    problem.rightHandSide p (some q) method s = .ok (moved.scale (-factor)) t := by
  rw [rightHandSide_some, bind_of_ok taken, carried, scaling]
  rfl

/-- On the sphere the right hand side is tangent at the base point wherever the residual, tangent
there, is taken, and naming the base point for it changes nothing. In flat space and in product
bundles it is the residual times the negated factor, for all scalars. -/
theorem rightHandSide_vertical :
    (∀ {problem : RootProblem ℝ} {n : ℕ} {p : Tensor ℝ} {method : Literal ℝ},
      problem.bundle = .tangent (sphere n) → Sphere.Point n p → method.NamesTransport →
      (∀ {q value : Tensor ℝ} {factor : ℝ} {s t : Trail ℝ}, Sphere.Point n q → q ≠ p.neg →
        problem.residualAt q s = .ok value t → Sphere.Tangent n q value →
        problem.scaling = .ok factor →
        ∃ moved, (sphere n).transport q p value method = .ok moved ∧
          problem.rightHandSide p (some q) method s = .ok (moved.scale (-factor)) t ∧
          Sphere.Tangent n p (moved.scale (-factor))) ∧
      ((∀ s value t, problem.residualAt p s = .ok value t → Sphere.Tangent n p value) →
        ∀ other, problem.rightHandSide p (some p) method = problem.rightHandSide p none other)) ∧
    ∀ {α : Type} [Scalar α] {problem : RootProblem α} {method : Literal α},
      ((∃ shape, problem.bundle = .tangent (euclidean shape)) ∨
        ∃ M fiber, problem.bundle = .trivial M fiber) → method.NamesTransport →
      ∀ p q other, problem.rightHandSide p (some q) method = problem.unmoved q ∧
        problem.rightHandSide q none other = problem.unmoved q := by
  constructor
  · intro problem n p method bundle hp named
    constructor
    · intro q value factor s t hq differ taken tangent scaling
      have apart := Sphere.apart_of_ne_neg hp hq differ
      rw [real_inner_comm] at apart
      obtain ⟨moved, carried, vertical⟩ := Sphere.transport_tangent hq hp apart named tangent
      refine ⟨moved, carried, rightHandSide_of_carried taken ?_ scaling, vertical.scale _⟩
      rw [bundle]
      exact carried
    · intro tangents other
      rw [rightHandSide_none]
      refine rightHandSide_of_kept fun s value t taken => ?_
      rw [bundle]
      exact Sphere.transport_self hp named (tangents s value t taken)
  · intro α _ problem method flat named p q other
    refine ⟨rightHandSide_of_kept fun s value t _ => ?_, rightHandSide_none⟩
    obtain ⟨shape, bundle⟩ | ⟨M, fiber, bundle⟩ := flat
    · rw [bundle]
      exact euclidean_transport named
    · rw [bundle]
      exact trivial_transport_eq named

noncomputable def slanted : RootProblem ℝ :=
  { steady with map := .allocating fun _ => return some (.vector [0, 1, 1]) }

theorem slanted_residualAt (q : Tensor ℝ) (s : Trail ℝ) :
    slanted.residualAt q s = .ok (.vector [0, 1, 1]) s := rfl

theorem rightHandSide_vertical_slanted :
    (∃ moved, slanted.rightHandSide (.vector [-(3 / 5), 4 / 5, 0]) (some (.vector [1, 0, 0]))
        (.transport .parallel) {} = .ok (.scale (-1) moved) {} ∧
      Sphere.Tangent 2 (.vector [-(3 / 5), 4 / 5, 0]) (.scale (-1) moved)) ∧
    slanted.rightHandSide (.vector [1, 0, 0]) (some (.vector [1, 0, 0])) (.transport .projection) =
      slanted.rightHandSide (.vector [1, 0, 0]) none .none ∧
    ({ slanted with bundle := .trivial (sphere 2) [3] } : RootProblem ℝ).rightHandSide
        (.vector [0, 0, 1]) (some (.vector [1, 0, 0])) (.transport .parallel) =
      ({ slanted with bundle := .trivial (sphere 2) [3] } : RootProblem ℝ).unmoved
        (.vector [1, 0, 0]) := by
  have first : Sphere.Point 2 (.vector [1, 0, 0]) := Sphere.point_vector rfl (by simp)
  have obtuse : Sphere.Point 2 (.vector [-(3 / 5), 4 / 5, 0]) :=
    Sphere.point_vector rfl (by norm_num)
  have tangent : Sphere.Tangent 2 (.vector [1, 0, 0]) (.vector [0, 1, 1]) :=
    Sphere.tangent_vector rfl rfl (by simp)
  have differ : Tensor.vector [(1 : ℝ), 0, 0] ≠ (Tensor.vector [-(3 / 5), 4 / 5, 0]).neg := by
    intro same
    have entries := congrArg Tensor.entries same
    norm_num [Tensor.vector, Tensor.neg] at entries
  obtain ⟨moved, -, given, vertical⟩ := (rightHandSide_vertical.1 rfl obtuse (.method .parallel)).1
    first differ (slanted_residualAt _ {}) tangent rfl
  have tangents (s : Trail ℝ) (value : Tensor ℝ) (t : Trail ℝ)
      (taken : slanted.residualAt (.vector [1, 0, 0]) s = .ok value t) :
      Sphere.Tangent 2 (.vector [1, 0, 0]) value := by
    cases taken
    exact tangent
  exact ⟨⟨moved, given, vertical⟩,
    (rightHandSide_vertical.1 rfl first (.method .projection)).2 tangents .none,
    (rightHandSide_vertical.2 (.inr ⟨_, _, rfl⟩) (.method .parallel) _ _ .none).1⟩

end RootProblem

end ManifoldOpt

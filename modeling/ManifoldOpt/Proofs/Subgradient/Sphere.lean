import ManifoldOpt.Proofs.Manifold.Sphere
import ManifoldOpt.Proofs.Subgradient.Step

set_option autoImplicit false

namespace ManifoldOpt

namespace Subgradient

open scoped RealInnerProductSpace
open Sphere (Tangent)

variable {m : ℕ} {problem : CostProblem ℝ}

section Advance

variable {k : Int} {old new : SubgradientState ℝ} {v p : Tensor ℝ} {length cost best : ℝ}
  (advance : Advance problem k old new v p length cost best) (space : problem.manifold = sphere m)
  (tangent : Tangent m old.point v)

include advance

theorem Advance.parts :
    new.point = p ∧ new.direction = v ∧ new.retraction = old.retraction := by
  obtain ⟨traces, left⟩ := advance.left
  rw [left]
  exact ⟨rfl, rfl, rfl⟩

include space

theorem Advance.moved_exponential
    (exponential : old.retraction = .none ∨ old.retraction = .retraction .exponential) :
    Sphere.exp old.point (v.scale (-length)) = .ok p := by
  have moved := advance.moved
  rw [space] at moved
  -- The exponential map is the default.
  rcases exponential with default | chosen
  · rwa [default] at moved
  · rwa [chosen] at moved

include tangent

theorem Advance.unit (projection : old.retraction = .retraction .projection)
    (unit : ‖old.point.toVector [m + 1]‖ = 1) :
    new.point.shape = [m + 1] ∧ ‖new.point.toVector [m + 1]‖ = 1 := by
  obtain ⟨y, -, -, reached, shape, normalized⟩ := Sphere.retr_of_tangent (tangent.scale (-length)) unit
  have moved := advance.moved
  rw [space, projection] at moved
  rw [advance.parts.1, ← Except.ok.inj (reached.symm.trans moved)]
  exact ⟨shape, normalized⟩

theorem Advance.drift
    (exponential : old.retraction = .none ∨ old.retraction = .retraction .exponential)
    (outside : 1 ≤ ‖old.point.toVector [m + 1]‖ ^ 2) :
    new.point.shape = [m + 1] ∧ 1 ≤ ‖new.point.toVector [m + 1]‖ ^ 2 ∧
      ‖new.point.toVector [m + 1]‖ ^ 2 ≤
        ‖old.point.toVector [m + 1]‖ ^ 2 + Tolerance.epsilon ^ 2 := by
  obtain ⟨q, reached, result⟩ := Sphere.exp_of_tangent (tangent.scale (-length)) outside
  have moved := advance.moved_exponential space exponential
  rw [advance.parts.1, ← Except.ok.inj (reached.symm.trans moved)]
  exact result

end Advance

variable {recorder : Option (Recorder ℝ)} {first : Stage ℝ (Run ℝ (SubgradientState ℝ))} {n : ℕ}
  {stages : ℕ → Stage ℝ (Run ℝ (SubgradientState ℝ))}

theorem course_retraction (course : Solver.Course (solver problem) recorder first n stages) {k : ℕ}
    (le : k ≤ n) : (stages k).state.own.retraction = first.state.own.retraction := by
  induction k with
  | zero =>
    obtain ⟨s, cost, t, evaluated, own⟩ := prepared_own course.prepared
    rw [own]
  | succ k ih =>
    obtain ⟨v, p, length, cost, best, advance, -⟩ := course_advance course (Nat.lt_of_succ_le le)
    exact advance.parts.2.2.trans (ih (Nat.le_of_succ_le le))

section Sphere

variable (space : problem.manifold = sphere m)
  (course : Solver.Course (solver problem) recorder first n stages)
  (start : first.state.own.point.shape = [m + 1] ∧ ‖first.state.own.point.toVector [m + 1]‖ = 1)
  (tangent : ∀ k < n, (stages (k + 1)).state.own.direction.shape = [m + 1] ∧
    ⟪(stages k).state.own.point.toVector [m + 1],
      (stages (k + 1)).state.own.direction.toVector [m + 1]⟫ = 0)

include space course start tangent

theorem course_unit (projection : first.state.own.retraction = .retraction .projection) {k : ℕ}
    (le : k ≤ n) :
    (stages k).state.own.point.shape = [m + 1] ∧
      ‖(stages k).state.own.point.toVector [m + 1]‖ = 1 := by
  induction k with
  | zero =>
    rw [course_start course]
    exact start
  | succ k ih =>
    have inside := Nat.lt_of_succ_le le
    obtain ⟨shape, unit⟩ := ih inside.le
    obtain ⟨v, p, length, cost, best, advance, -⟩ := course_advance course inside
    obtain ⟨same, orthogonal⟩ := tangent k inside
    rw [advance.parts.2.1] at same orthogonal
    exact advance.unit space ⟨shape, same, orthogonal⟩
      ((course_retraction course inside.le).trans projection) unit

theorem course_drift
    (exponential : first.state.own.retraction = .none ∨
      first.state.own.retraction = .retraction .exponential) {k : ℕ} (le : k ≤ n) :
    (stages k).state.own.point.shape = [m + 1] ∧
      1 ≤ ‖(stages k).state.own.point.toVector [m + 1]‖ ^ 2 ∧
      ‖(stages k).state.own.point.toVector [m + 1]‖ ^ 2 ≤ 1 + k * Tolerance.epsilon ^ 2 := by
  induction k with
  | zero =>
    obtain ⟨shape, unit⟩ := start
    rw [course_start course, unit]
    exact ⟨shape, by norm_num, by simp⟩
  | succ k ih =>
    have inside := Nat.lt_of_succ_le le
    obtain ⟨shape, outside, near⟩ := ih inside.le
    obtain ⟨v, p, length, cost, best, advance, -⟩ := course_advance course inside
    obtain ⟨same, orthogonal⟩ := tangent k inside
    rw [advance.parts.2.1] at same orthogonal
    rw [← course_retraction course inside.le] at exponential
    obtain ⟨shape', outside', drift⟩ :=
      advance.drift space ⟨shape, same, orthogonal⟩ exponential outside
    refine ⟨shape', outside', ?_⟩
    push_cast
    linarith

/-- The iterates of a run that takes tangent subgradients stay on the sphere. By projection they are
of unit length, since the sum that is divided by its length is never shorter than that. Along great
circles every step adds at most the square of a step that is too short for a great circle. -/
theorem iterates_on_sphere :
    (first.state.own.retraction = .retraction .projection → ∀ k ≤ n,
      ‖(stages k).state.own.point.toVector [m + 1]‖ = 1 ∧
      ∀ v, Tangent m (stages k).state.own.point v → ∀ length, ∃ y,
        (stages k).state.own.point.add (v.scale (-length)) = .ok y ∧ 1 ≤ y.length ∧
        problem.manifold.retract (stages k).state.own.point (v.scale (-length))
          (stages k).state.own.retraction = .ok (y.map (Scalar.quotient · y.length))) ∧
    (first.state.own.retraction = .none ∨ first.state.own.retraction = .retraction .exponential →
      ∀ k ≤ n, 1 ≤ ‖(stages k).state.own.point.toVector [m + 1]‖ ^ 2 ∧
        ‖(stages k).state.own.point.toVector [m + 1]‖ ^ 2 ≤ 1 + k * Tolerance.epsilon ^ 2) := by
  constructor
  · intro projection k le
    obtain ⟨-, unit⟩ := course_unit space course start tangent projection le
    refine ⟨unit, fun v orthogonal length => ?_⟩
    obtain ⟨y, added, large, moved, -⟩ :=
      Sphere.retr_of_tangent (orthogonal.scale (-length)) unit
    refine ⟨y, added, large, ?_⟩
    rw [space, course_retraction course le, projection]
    exact moved
  · intro exponential k le
    exact (course_drift space course start tangent exponential le).2

end Sphere

noncomputable def turning : CostProblem ℝ where
  manifold := sphere 1
  cost p := return some (.scalar (p.entries.getD 1 0))
  subgradient := .allocating fun p => return some (.vector [-p.entries.getD 1 0, p.entries.headD 0])

noncomputable def fromEast (retraction : Retraction) : Stage ℝ (Run ℝ (SubgradientState ℝ)) :=
  ⟨{}, prepare (sphere 1) { stop := some (.after 1), retraction := .retraction retraction }
    (.vector [1, 0])⟩

theorem fromEast_unit (retraction : Retraction) :
    ‖(fromEast retraction).state.own.point.toVector [1 + 1]‖ = 1 := by
  rw [EuclideanSpace.norm_eq, Real.sqrt_eq_one]
  change ∑ i : Fin 2, ‖([1, 0] : List ℝ).getD i 0‖ ^ 2 = 1
  simp

theorem turning_course (retraction : Retraction) :
    ∃ stages, Solver.Course (solver turning) none (fromEast retraction) 1 stages := by
  obtain ⟨s, prepared⟩ : ∃ s, (solver turning).prepare none (fromEast retraction) = .ok () s :=
    ⟨_, rfl⟩
  have start : Solver.Course (solver turning) none (fromEast retraction) 0 fun _ => s :=
    ⟨prepared, fun k inside => absurd inside (Nat.not_lt_zero k)⟩
  obtain ⟨t, u, going, iterated⟩ : ∃ t u,
      (solver turning).shouldStop 0 s = .ok false t ∧ (solver turning).iterate 1 t = .ok () u := by
    cases prepared
    cases retraction with
    | exponential =>
      exact ⟨_, _, rfl, Attempt.bind_eq_ok.mpr ⟨_, _, step_of_calls rfl rfl rfl rfl rfl, rfl⟩⟩
    | projection =>
      exact ⟨_, _, rfl, Attempt.bind_eq_ok.mpr ⟨_, _, step_of_calls rfl rfl rfl rfl rfl, rfl⟩⟩
  exact ⟨_, start.extend going iterated⟩

theorem turning_tangent {retraction : Retraction} {stages : ℕ → Stage ℝ (Run ℝ (SubgradientState ℝ))}
    (course : Solver.Course (solver turning) none (fromEast retraction) 1 stages) :
    ∀ k < 1, (stages (k + 1)).state.own.direction.shape = [1 + 1] ∧
      ⟪(stages k).state.own.point.toVector [1 + 1],
        (stages (k + 1)).state.own.direction.toVector [1 + 1]⟫ = 0 := by
  intro k within
  obtain rfl := Nat.lt_one_iff.mp within
  obtain ⟨v, p, length, cost, best, advance, -⟩ := course_advance course within
  obtain ⟨s, t, taken⟩ := advance.taken
  rw [advance.parts.2.1, course_start course]
  rw [course_start course] at taken
  cases taken
  refine ⟨rfl, ?_⟩
  rw [@Tensor.inner_toVector [1 + 1] _ _ rfl rfl]
  simp [fromEast, prepare, SubgradientState.start, Tensor.vector]

theorem iterates_on_sphere_circle :
    (∃ stages, Solver.Course (solver turning) none (fromEast .projection) 1 stages ∧
      ‖(stages 1).state.own.point.toVector [1 + 1]‖ = 1) ∧
    ∃ stages, Solver.Course (solver turning) none (fromEast .exponential) 1 stages ∧
      1 ≤ ‖(stages 1).state.own.point.toVector [1 + 1]‖ ^ 2 ∧
      ‖(stages 1).state.own.point.toVector [1 + 1]‖ ^ 2 ≤ 1 + (1 : ℕ) * Tolerance.epsilon ^ 2 := by
  constructor
  · obtain ⟨stages, course⟩ := turning_course .projection
    have runs := iterates_on_sphere rfl course ⟨rfl, fromEast_unit _⟩ (turning_tangent course)
    exact ⟨stages, course, (runs.1 rfl 1 le_rfl).1⟩
  · obtain ⟨stages, course⟩ := turning_course .exponential
    have runs := iterates_on_sphere rfl course ⟨rfl, fromEast_unit _⟩ (turning_tangent course)
    exact ⟨stages, course, runs.2 (.inr rfl) 1 le_rfl⟩

end Subgradient

end ManifoldOpt

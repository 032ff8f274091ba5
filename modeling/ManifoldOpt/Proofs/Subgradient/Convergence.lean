import ManifoldOpt.Proofs.Manifold.Euclidean
import ManifoldOpt.Proofs.Subgradient.Best

/-!
How close the subgradient method comes to a minimum, on arrays with exact arithmetic. Each step
brings the iterate closer to a reference point by as much as the cost exceeds the one there, up to
the square of the step; over a run the squared distances telescope.
-/

set_option autoImplicit false

namespace ManifoldOpt

open Finset

open scoped RealInnerProductSpace

section Steps

variable {E : Type*} [NormedAddCommGroup E] [InnerProductSpace ℝ E] {x v : ℕ → E} {s : ℕ → ℝ}
  {n : ℕ}

theorem sum_inner_of_steps (steps : ∀ k < n, x (k + 1) = x k - s k • v k) (z : E) :
    2 * ∑ k ∈ range n, s k * ⟪v k, x k - z⟫ =
      ‖x 0 - z‖ ^ 2 - ‖x n - z‖ ^ 2 + ∑ k ∈ range n, s k ^ 2 * ‖v k‖ ^ 2 := by
  induction n with
  | zero => simp
  | succ n ih =>
    have shorter := ih fun k inside => steps k (by omega)
    -- One step: the squared distance falls by the inner product and grows by the squared step.
    have closer : ‖x (n + 1) - z‖ ^ 2 =
        ‖x n - z‖ ^ 2 - 2 * (s n * ⟪v n, x n - z⟫) + s n ^ 2 * ‖v n‖ ^ 2 := by
      rw [steps n (Nat.lt_succ_self n), sub_right_comm, norm_sub_sq_real, real_inner_smul_right,
        real_inner_comm, norm_smul, mul_pow, Real.norm_eq_abs, sq_abs]
    rw [sum_range_succ, sum_range_succ, mul_add, shorter, closer]
    ring

theorem least_value_le {f : ℕ → ℝ} {least value : ℝ} {z : E}
    (steps : ∀ k < n, x (k + 1) = x k - s k • v k) (nonneg : ∀ k < n, 0 ≤ s k)
    (positive : 0 < ∑ k ∈ range n, s k) (below : ∀ k < n, least ≤ f k)
    (slope : ∀ k < n, f k + ⟪v k, z - x k⟫ ≤ value) :
    least ≤ value +
      (‖x 0 - z‖ ^ 2 + ∑ k ∈ range n, s k ^ 2 * ‖v k‖ ^ 2) / (2 * ∑ k ∈ range n, s k) := by
  -- Every step length weighs the excess of the value met over the one at `z`.
  have excess : ∀ k ∈ range n, s k * (least - value) ≤ s k * ⟪v k, x k - z⟫ := by
    intro k member
    have inside := mem_range.mp member
    have turned : ⟪v k, z - x k⟫ = -⟪v k, x k - z⟫ := by rw [← inner_neg_right, neg_sub]
    have bound := slope k inside
    rw [turned] at bound
    exact mul_le_mul_of_nonneg_left (by linarith [below k inside]) (nonneg k inside)
  have total : 2 * ((∑ k ∈ range n, s k) * (least - value)) ≤
      ‖x 0 - z‖ ^ 2 + ∑ k ∈ range n, s k ^ 2 * ‖v k‖ ^ 2 := by
    calc 2 * ((∑ k ∈ range n, s k) * (least - value))
        = 2 * ∑ k ∈ range n, s k * (least - value) := by rw [sum_mul]
      _ ≤ 2 * ∑ k ∈ range n, s k * ⟪v k, x k - z⟫ := by gcongr 2 * ?_; exact sum_le_sum excess
      _ = ‖x 0 - z‖ ^ 2 - ‖x n - z‖ ^ 2 + ∑ k ∈ range n, s k ^ 2 * ‖v k‖ ^ 2 :=
        sum_inner_of_steps steps z
      _ ≤ ‖x 0 - z‖ ^ 2 + ∑ k ∈ range n, s k ^ 2 * ‖v k‖ ^ 2 := by
        linarith [sq_nonneg ‖x n - z‖]
  have quotient : least - value ≤
      (‖x 0 - z‖ ^ 2 + ∑ k ∈ range n, s k ^ 2 * ‖v k‖ ^ 2) / (2 * ∑ k ∈ range n, s k) := by
    rw [le_div_iff₀ (by linarith)]
    linarith
  linarith

end Steps

/-- What the subgradient callback gives at an array of the shape is a subgradient of `f`. -/
structure CostProblem.HasSubgradients (problem : CostProblem ℝ) (shape : Shape)
    (f : Tensor ℝ → ℝ) : Prop where
  shape_eq : ∀ {buffer p s v t}, p.shape = shape →
    problem.subgradientInto buffer p s = .ok v t → v.shape = shape
  slope : ∀ {buffer p s v t}, p.shape = shape → problem.subgradientInto buffer p s = .ok v t →
    ∀ z : Tensor ℝ, z.shape = shape →
      f p + ⟪v.toVector shape, z.toVector shape - p.toVector shape⟫ ≤ f z

namespace Subgradient

variable {shape : Shape} {problem : CostProblem ℝ} {f : Tensor ℝ → ℝ}
  {recorder : Option (Recorder ℝ)} {first : Stage ℝ (Run ℝ (SubgradientState ℝ))} {n : ℕ}
  {stages : ℕ → Stage ℝ (Run ℝ (SubgradientState ℝ))}

/-- Step `k + 1` of a run on arrays moves against a subgradient at the iterate before. -/
structure Descent (shape : Shape) (f : Tensor ℝ → ℝ) (old new : SubgradientState ℝ) (length : ℝ) :
    Prop where
  shape_new : new.point.shape = shape
  moved : new.point.toVector shape =
    old.point.toVector shape - length • new.direction.toVector shape
  slope : ∀ z : Tensor ℝ, z.shape = shape →
    f old.point + ⟪new.direction.toVector shape, z.toVector shape - old.point.toVector shape⟫ ≤ f z

theorem Advance.descent {k : Int} {old new : SubgradientState ℝ} {v p : Tensor ℝ}
    {length cost best : ℝ} (flat : problem.manifold = euclidean shape)
    (subgradients : problem.HasSubgradients shape f)
    (advance : Advance problem k old new v p length cost best) (inside : old.point.shape = shape) :
    Descent shape f old new length := by
  obtain ⟨s, t, taken⟩ := advance.taken
  have same := subgradients.shape_eq inside taken
  obtain ⟨traces, rfl⟩ := advance.left
  have moved := advance.moved
  rw [flat] at moved
  obtain ⟨same', vector⟩ := euclidean_retract_against inside same moved
  exact ⟨same', vector, subgradients.slope inside taken⟩

theorem course_descent (flat : problem.manifold = euclidean shape)
    (subgradients : problem.HasSubgradients shape f)
    (course : Solver.Course (solver problem) recorder first n stages)
    (inside : first.state.own.point.shape = shape) {k : ℕ} (within : k < n) :
    ∃ length, (stages (k + 1)).state.lastStepsize = some length ∧
      Descent shape f (stages k).state.own (stages (k + 1)).state.own length := by
  -- Retracting adds arrays of one shape, which has to be known for the iterate before.
  have shapes : ∀ k ≤ n, (stages k).state.own.point.shape = shape := by
    intro k
    induction k with
    | zero =>
      intro _
      rw [course_start course]
      exact inside
    | succ k ih =>
      intro le
      obtain ⟨v, p, length, cost, best, advance, -⟩ := course_advance course (Nat.lt_of_succ_le le)
      exact (advance.descent flat subgradients (ih (Nat.le_of_succ_le le))).shape_new
  obtain ⟨v, p, length, cost, best, advance, noted⟩ := course_advance course within
  exact ⟨length, noted, advance.descent flat subgradients (shapes k within.le)⟩

/-- After steps of lengths `s`, the best cost exceeds the cost at any array `z` by at most the
squared distance of the start from `z` plus the squared steps, over twice the way gone. -/
theorem bestCost_le (flat : problem.manifold = euclidean shape) (pure : problem.HasCost f)
    (subgradients : problem.HasSubgradients shape f)
    (course : Solver.Course (solver problem) recorder first n stages)
    (inside : first.state.own.point.shape = shape) {s : ℕ → ℝ}
    (lengths : ∀ k < n, (stages (k + 1)).state.lastStepsize = some (s k))
    (nonneg : ∀ k < n, 0 ≤ s k) (positive : 0 < ∑ k ∈ range n, s k) {z : Tensor ℝ}
    (reference : z.shape = shape) :
    ∃ cost, (stages n).state.own.bestCost = some cost ∧ cost ≤ f z +
      (‖(stages 0).state.own.point.toVector shape - z.toVector shape‖ ^ 2 +
        ∑ k ∈ range n, s k ^ 2 * ‖(stages (k + 1)).state.own.direction.toVector shape‖ ^ 2) /
      (2 * ∑ k ∈ range n, s k) := by
  obtain ⟨cost, known, among⟩ := course_best pure course
  refine ⟨cost, known, ?_⟩
  have descent : ∀ k < n,
      Descent shape f (stages k).state.own (stages (k + 1)).state.own (s k) := by
    intro k within
    obtain ⟨length, noted, descent⟩ := course_descent flat subgradients course inside within
    obtain rfl : s k = length := Option.some.inj ((lengths k within).symm.trans noted)
    exact descent
  exact least_value_le (x := fun k => (stages k).state.own.point.toVector shape)
    (fun k within => (descent k within).moved) nonneg positive
    (fun k within => not_lt.mp (among.unbeaten k within.le))
    fun k within => (descent k within).slope z reference

noncomputable def coordinate : CostProblem ℝ where
  manifold := euclidean [1]
  cost p := return some (.scalar (p.entries.headD 0))
  subgradient := .allocating fun _ => return some (.vector [1])

theorem coordinate_hasCost : coordinate.HasCost fun p => p.entries.headD 0 := by
  intro p s c t evaluated
  cases evaluated
  rfl

theorem coordinate_hasSubgradients :
    coordinate.HasSubgradients [1] fun p => p.entries.headD 0 where
  shape_eq _ taken := by
    cases taken
    rfl
  slope {_ p _ _ _} same taken z same' := by
    cases taken
    obtain ⟨shape, entries, size⟩ := p
    obtain ⟨shape', entries', size'⟩ := z
    obtain rfl : shape = [1] := same
    obtain rfl : shape' = [1] := same'
    obtain ⟨a, rfl⟩ := List.length_eq_one_iff.mp size
    obtain ⟨b, rfl⟩ := List.length_eq_one_iff.mp size'
    rw [PiLp.inner_apply]
    change a + ∑ i : Fin 1, (b - a) * 1 ≤ b
    simp

noncomputable def fromZero : Stage ℝ (Run ℝ (SubgradientState ℝ)) :=
  ⟨{}, prepare (euclidean [1]) { stop := some (.after 1) } (.vector [0])⟩

theorem coordinate_course :
    ∃ stages, Solver.Course (solver coordinate) none fromZero 1 stages ∧
      (stages 1).state.lastStepsize = some 1 := by
  obtain ⟨s, prepared⟩ : ∃ s, (solver coordinate).prepare none fromZero = .ok () s := ⟨_, rfl⟩
  have start : Solver.Course (solver coordinate) none fromZero 0 fun _ => s :=
    ⟨prepared, fun k inside => absurd inside (Nat.not_lt_zero k)⟩
  obtain ⟨t, u, going, iterated, length⟩ : ∃ t u,
      (solver coordinate).shouldStop 0 s = .ok false t ∧
      (solver coordinate).iterate 1 t = .ok () u ∧ u.state.lastStepsize = some 1 := by
    cases prepared
    exact ⟨_, _, rfl,
      Attempt.bind_eq_ok.mpr ⟨_, _, step_of_calls rfl rfl rfl rfl rfl, rfl⟩, rfl⟩
  refine ⟨_, start.extend going iterated, ?_⟩
  rw [Function.update_self, length]

theorem bestCost_le_coordinate :
    ∃ stages, Solver.Course (solver coordinate) none fromZero 1 stages ∧
      ∃ cost, (stages 1).state.own.bestCost = some cost ∧ cost ≤ 0 +
        (‖(stages 0).state.own.point.toVector [1] - (Tensor.vector [0]).toVector [1]‖ ^ 2 +
          ∑ k ∈ range 1, 1 ^ 2 * ‖(stages (k + 1)).state.own.direction.toVector [1]‖ ^ 2) /
        (2 * ∑ _k ∈ range 1, (1 : ℝ)) := by
  obtain ⟨stages, course, length⟩ := coordinate_course
  have lengths : ∀ k < 1, (stages (k + 1)).state.lastStepsize = some 1 := by
    intro k within
    obtain rfl := Nat.lt_one_iff.mp within
    exact length
  exact ⟨stages, course, bestCost_le (s := fun _ => 1) rfl coordinate_hasCost
    coordinate_hasSubgradients course rfl lengths (fun _ _ => zero_le_one) (by simp)
    (z := .vector [0]) rfl⟩

end Subgradient

end ManifoldOpt

import ManifoldOpt.Proofs.Linear.StandardBasis
import ManifoldOpt.Proofs.Manifold.Geodesic
import ManifoldOpt.Proofs.Newton.Progress

/-!
Affine maps of flat space. With exact scalars the derivative is the matrix of the map everywhere, so
that the residual after a step is that before it, cut down by the factor that the step goes along its
direction. The full step leads to the zero, which is seen from the direction that is left there.
-/

set_option autoImplicit false

namespace ManifoldOpt

open Attempt Matrix

theorem Shape.entries_of_size_ne_zero {shape : Shape} (size : shape.size ≠ 0) : 0 ∉ shape := by
  induction shape with
  | nil => simp
  | cons m rest ih =>
    rw [Shape.size_cons] at size
    rw [List.mem_cons, not_or]
    exact ⟨Ne.symm (left_ne_zero_of_mul size), ih (right_ne_zero_of_mul size)⟩

/-- The tangent bundle, and the products with arrays of as many entries as the points have. -/
inductive Bundle.Flat (shape : Shape) : Bundle ℝ → Prop
  | tangent : Flat shape (.tangent (euclidean shape))
  | product {fiber : Shape} (size : fiber.size = shape.size) :
    Flat shape (.trivial (euclidean shape) fiber)

namespace Bundle

variable {bundle : Bundle ℝ} {shape : Shape} (flat : bundle.Flat shape)

include flat

theorem Flat.linear (axes : shape ≠ []) (entries : 0 ∉ shape) :
    ∃ fiber, bundle.Linear shape fiber shape.size := by
  cases flat with
  | tangent => exact ⟨shape, (Manifold.Standard.flat axes entries).tangent_linear⟩
  | @product fiber size =>
    have some_entry : 0 ∉ fiber := Shape.entries_of_size_ne_zero
      (size.trans_ne (Shape.size_ne_zero entries))
    exact ⟨fiber, size ▸ trivial_linear (euclidean shape) shape some_entry⟩

theorem Flat.coordinates (entries : 0 ∉ shape) (p : Tensor ℝ) :
    ∃ b, bundle.basis p = .ok b ∧ ∀ v : Tensor ℝ, v.entries.length = shape.size →
      ∃ c, bundle.coordinates p v (some b) = .ok c ∧ c.shape = [shape.size] ∧
        c.column shape.size = v.column shape.size := by
  have standard (fiber : Shape) (size : fiber.size = shape.size) (v : Tensor ℝ)
      (full : v.entries.length = shape.size) :
      ∃ c, Tensor.coordinates (standardBasis fiber) v.ravel = .ok c ∧ c.shape = [shape.size] ∧
        c.column shape.size = v.column shape.size := by
    have some_entry : fiber.size ≠ 0 := size.trans_ne (Shape.size_ne_zero entries)
    exact ⟨v.ravel, Tensor.coordinates_standardBasis_exact some_entry (full.trans size.symm)
      (Tensor.exact_real v), congrArg (fun k => [k]) full, rfl⟩
  cases flat with
  | tangent => exact ⟨standardBasis shape, rfl, standard shape rfl⟩
  | @product fiber size => exact ⟨standardBasis fiber, rfl, standard fiber size⟩

theorem Flat.transport_eq {p q v : Tensor ℝ} {method : Literal ℝ}
    (named : method.NamesTransport) : bundle.transport p q v method = .ok v := by
  cases flat with
  | tangent => exact euclidean_transport named
  | product => exact trivial_transport_eq named

end Bundle

namespace RootProblem

/-- The map that takes the entries of a point to the matrix times them, less `b`, with the matrix as
its derivative. -/
structure Affine (problem : RootProblem ℝ) (shape : Shape)
    (A : Matrix (Fin shape.size) (Fin shape.size) ℝ) (b : Fin shape.size → ℝ) (factor : ℝ) :
    Prop where
  manifold : problem.manifold = euclidean shape
  bundle : problem.bundle.Flat shape
  connection : ∀ v, problem.connection v = .ok v
  scaling : problem.scaling = .ok factor
  map : ∀ {p}, p.shape = shape → ∃ y, (problem.mapAt p).Gives y ∧ y.entries.length = shape.size ∧
    y.column shape.size = A *ᵥ p.column shape.size - b
  derivative : ∀ {p}, p.shape = shape → ∃ operator, (problem.derivative p).Gives operator ∧
    ∀ v, v.shape = shape → ∃ w, operator.apply v = .ok w ∧ w.entries.length = shape.size ∧
      w.column shape.size = A *ᵥ v.column shape.size

variable {problem : RootProblem ℝ} {shape : Shape}
  {A : Matrix (Fin shape.size) (Fin shape.size) ℝ} {b : Fin shape.size → ℝ} {factor : ℝ}

theorem Affine.retract_eq (affine : problem.Affine shape A b factor) {p v : Tensor ℝ}
    {method : Literal ℝ} (named : method.NamesRetraction) :
    problem.manifold.retract p v method = p.add v := by
  rw [affine.manifold, euclidean_retract_eq named]

theorem Affine.shaped (affine : problem.Affine shape A b factor) (axes : shape ≠ [])
    (entries : 0 ∉ shape) : problem.manifold.Shaped shape := by
  rw [affine.manifold]
  exact euclidean_shaped axes entries

theorem Affine.newtonVector (affine : problem.Affine shape A b factor) (axes : shape ≠ [])
    (entries : 0 ∉ shape) (invertible : A.det ≠ 0) {base : Tensor ℝ} {residual : Option (Tensor ℝ)}
    {transport : Literal ℝ} (inside : base.shape = shape)
    (elsewhere : (residual.getD base).shape = shape) (named : transport.NamesTransport) :
    ∃ X, (problem.newtonVector .off base residual transport).Gives X ∧ X.shape = shape ∧
      A *ᵥ X.column shape.size =
        -factor • (A *ᵥ (residual.getD base).column shape.size - b) := by
  have framed : problem.manifold.Framed shape shape.size := by
    rw [affine.manifold]
    exact euclidean_framed entries
  have tangent : problem.manifold.basis base = .ok (standardBasis shape) := by
    rw [affine.manifold]
    rfl
  have unit := Tensor.toMatrix_standardBasis shape
  obtain ⟨fiber, fibers⟩ := affine.bundle.linear axes entries
  obtain ⟨fiberBasis, vertical, coordinates⟩ := affine.bundle.coordinates entries base
  obtain ⟨y, mapped, full, value⟩ := affine.map elsewhere
  obtain ⟨operator, derived, image⟩ := affine.derivative inside
  have images : problem.ImageCoordinates base (standardBasis shape) fiberBasis operator shape
      shape.size A := by
    intro v hv _
    obtain ⟨w, applied, hw, column⟩ := image v hv
    obtain ⟨c, taken, hc, same⟩ := coordinates w hw
    exact ⟨w, c, applied, taken, hc, same.trans column⟩
  have known : problem.Known base residual operator y factor :=
    ⟨derived, ⟨y, mapped, affine.connection y⟩, affine.scaling⟩
  have carried : problem.carried base residual transport y = .ok y := by
    cases residual with
    | none => rfl
    | some q => exact affine.bundle.transport_eq named
  obtain ⟨rhs, taken, hrhs, column⟩ := coordinates (y.scale (-factor))
    ((List.length_map _).trans full)
  obtain ⟨a, c, X, matrix, solved, -⟩ := known.solvedBy framed fibers inside tangent vertical images
    (by rwa [unit, transpose_one, mul_one]) carried taken hrhs
  have equal := solved.equal
  rw [matrix, unit, transpose_one, mul_one] at equal
  refine ⟨X, solved.given, solved.shaped, ?_⟩
  rw [solved.combined, unit, vecMul_one, equal, column, Tensor.column_scale, value]

end RootProblem

theorem Tensor.add_column {shape : Shape} {x y : Tensor ℝ} (hx : x.shape = shape)
    (hy : y.shape = shape) :
    ∃ z, x.add y = .ok z ∧ z.shape = shape ∧
      z.column shape.size = x.column shape.size + y.column shape.size := by
  obtain ⟨z, added, hz, vector⟩ := Tensor.add_of_shape hx hy
  exact ⟨z, added, hz, funext fun i => congrArg (· i) vector⟩

theorem Damping.Valid.first_allowed {d : Damping ℝ} (valid : d.Valid) (full : d.least ≤ 1) :
    DampingSearch.isExhausted d 0 1 = false ∧ 1 < DampingSearch.allowance d := by
  have some_trial := valid.trials_pos
  constructor
  · have more : d.trials.le (.int 0) = false := by
      rw [Bool.eq_false_iff]
      intro few
      have none_left : (Number.int 0 : Number ℝ).value = 0 := by simp [Number.value, Scalar.ofInt]
      have le := Number.le_iff.mp few
      linarith
    have large : ¬ (1 : ℝ) < d.least := not_lt.mpr full
    simp [DampingSearch.isExhausted, more, large]
  · unfold DampingSearch.allowance
    cases whole : d.trials.int? with
    | some count =>
      rw [Number.value_of_int? whole] at some_trial
      have positive : 1 ≤ count := by exact_mod_cast some_trial
      change 1 < count.toNat + 1
      omega
    | none => exact Nat.one_lt_pow (by decide) (by decide)

namespace Newton

variable {problem : RootProblem ℝ} {shape : Shape}
  {A : Matrix (Fin shape.size) (Fin shape.size) ℝ} {b : Fin shape.size → ℝ} {factor : ℝ}
  (affine : problem.Affine shape A b factor) (axes : shape ≠ []) (entries : 0 ∉ shape)
  (invertible : A.det ≠ 0) {s : Stage ℝ (Run ℝ (NewtonState ℝ))} {k : Int}

include affine axes entries invertible

theorem computeDirection_affine (ready : s.state.own.Ready shape)
    (elsewhere : s.state.own.frame.evaluationPoint.shape = shape) :
    ∃ X t subsolver, computeDirection problem k s = .ok X t ∧ X.shape = shape ∧
      A *ᵥ X.column shape.size =
        -factor • (A *ᵥ s.state.own.frame.evaluationPoint.column shape.size - b) ∧
      Subsolver.Direct subsolver ∧
      t.state = { s.state with own := { s.state.own with subsolver } } := by
  have shaped := affine.shaped axes entries
  have evaluated : s.state.own.frame.residualPoint.getD s.state.own.point =
      s.state.own.frame.evaluationPoint := by
    unfold Frame.residualPoint Frame.evaluationPoint
    split
    · rfl
    · rfl
  rw [← evaluated] at elsewhere
  obtain ⟨X, gives, hX, image⟩ := affine.newtonVector axes entries invertible ready.point elsewhere
    ready.transport
  obtain ⟨t, subsolver, computed, direct, left⟩ :=
    computeDirection_of_gives (k := k) shaped ready gives
  exact ⟨X, t, subsolver, computed, hX, by rw [image, evaluated], direct, left⟩

theorem step_of_constant {c : ℝ} (ready : s.state.own.Ready shape)
    (constant : s.state.own.stepsize = .rule (.constant c .relative)) :
    ∃ t, step problem k s = .ok () t ∧ t.state.own.Ready shape ∧
      t.state.own.stepsize = s.state.own.stepsize ∧
      A *ᵥ t.state.own.point.column shape.size - b =
        (1 - factor * c) • (A *ᵥ s.state.own.point.column shape.size - b) := by
  have shaped := affine.shaped axes entries
  obtain ⟨X, gives, hX, image⟩ := affine.newtonVector axes entries invertible ready.point
    (show (none.getD s.state.own.point).shape = shape from ready.point) ready.transport
  obtain ⟨q, added, hq, column⟩ := Tensor.add_column ready.point (y := X.scale c) hX
  obtain ⟨t, stepped, ready', stepsize, -, reached⟩ := step_of_gives (k := k) shaped ready gives
    constant ((affine.retract_eq ready.retraction).trans added) hq
  refine ⟨t, stepped, ready', stepsize, ?_⟩
  rw [Option.getD_none] at image
  rw [reached, column, Tensor.column_scale, mulVec_add, mulVec_smul, image, sub_smul, one_smul,
    smul_smul, mul_comm factor c, ← neg_mul_eq_mul_neg]
  module

section Damped

variable {d : Damping ℝ} (valid : d.Valid) (wanted : d.accepted < Default.initialContraction)
  (full : d.least ≤ 1)

include valid wanted full

theorem stepLength_affine {q : Tensor ℝ} (ready : s.state.own.Ready shape)
    (damped : s.state.own.stepsize = .damped d) (same : s.state.own.isSame = true)
    (added : s.state.own.point.add (s.state.own.direction.scale 1) = .ok q) (hq : q.shape = shape)
    (zero : A *ᵥ q.column shape.size = b) :
    ∃ t trial subsolver, stepLength problem k s = .ok 1 t ∧ Subsolver.Direct subsolver ∧
      t.state.own = { s.state.own with alpha := 1, theta := 0, trial, subsolver } := by
  have length : problem.manifold.normNumber s.state.own.point s.state.own.direction =
      .ok ‖s.state.own.direction.toVector shape‖ := by
    rw [affine.manifold]
    exact euclidean_normNumber ready.direction
  by_cases small : ‖s.state.own.direction.toVector shape‖ ≤ Tolerance.epsilon
  · refine ⟨_, s.state.own.trial, s.state.own.subsolver,
      stepLength_of_vanishing damped length small, ready.direct, ?_⟩
    rw [← same]
    rfl
  · let trial : Stage ℝ (Run ℝ (NewtonState ℝ)) := { s with state := { s.state with
      own := { s.state.own with
        alpha := 1, theta := Default.initialContraction, trial := q, isSame := false } } }
    have there : trial.state.own.frame.evaluationPoint = q := rfl
    have ready' : trial.state.own.Ready shape := { ready with }
    obtain ⟨Y, u, subsolver, solved, hY, image, direct, left⟩ :=
      computeDirection_affine affine axes entries invertible (k := k) ready' (by rw [there, hq])
    rw [there, zero, sub_self, smul_zero] at image
    have none_left : Y.column shape.size = 0 := eq_zero_of_mulVec_eq_zero invertible image
    have moved : problem.manifold.retract s.state.own.point (s.state.own.direction.scale 1)
        s.state.own.retraction = .ok q := (affine.retract_eq ready.retraction).trans added
    have compared : problem.manifold.normNumber s.state.own.point Y = .ok 0 := by
      rw [affine.manifold, euclidean_normNumber hY, Tensor.toVector_eq_zero none_left, norm_zero]
    obtain ⟨allowed, room⟩ := valid.first_allowed full
    have met : ¬ d.accepted < 0 / ‖s.state.own.direction.toVector shape‖ := by
      rw [zero_div, not_lt]
      exact valid.desired_pos.le.trans valid.desired_le
    refine ⟨_, q, subsolver, stepLength_of_first damped length small wanted allowed moved solved
      compared met room, direct, ?_⟩
    rw [zero_div, left, ← same]
    rfl

theorem step_of_damped (unscaled : factor = 1) (ready : s.state.own.Ready shape)
    (damped : s.state.own.stepsize = .damped d) :
    ∃ t, step problem k s = .ok () t ∧ t.state.own.Ready shape ∧
      t.state.own.stepsize = s.state.own.stepsize ∧
      A *ᵥ t.state.own.point.column shape.size = b ∧ t.state.own.alpha = 1 ∧
      t.state.own.theta = 0 ∧ t.state.lastStepsize = some 1 := by
  have shaped := affine.shaped axes entries
  obtain ⟨X, gives, hX, image⟩ := affine.newtonVector axes entries invertible ready.point
    (show (none.getD s.state.own.point).shape = shape from ready.point) ready.transport
  obtain ⟨u, subsolver, solved, direct, -, own⟩ := withDirection_of_gives (k := k) shaped ready gives
  rw [Option.getD_none, unscaled] at image
  obtain ⟨q, added, hq, column⟩ := Tensor.add_column ready.point (y := X.scale 1) hX
  have zero : A *ᵥ q.column shape.size = b := by
    rw [column, Tensor.column_scale, one_smul, mulVec_add, image, neg_smul, one_smul, neg_sub,
      add_sub_cancel]
  obtain ⟨w, trial, subsolver', measured, direct', left'⟩ :=
    stepLength_affine affine axes entries invertible valid wanted full
      (s := withDirection X u) (k := k)
      (by rw [own]; exact ⟨ready.point, hX, direct, ready.retraction, ready.transport⟩)
      (by rw [own]; exact damped) (by rw [own]) (by rw [own]; exact added) hq zero
  have moved : problem.manifold.retract s.state.own.point (X.scale 1) s.state.own.retraction =
      .ok q := (affine.retract_eq ready.retraction).trans added
  have reached : (stepEnd k 1 q w).state.own = { s.state.own with
      direction := X, alpha := 1, theta := 0, point := q, trial := q, isSame := true
      subsolver := subsolver' } := by
    change ({ w.state.own with point := q, trial := q, isSame := true } : NewtonState ℝ) = _
    rw [left', own]
  refine ⟨_, step_of_length solved measured moved, ?_⟩
  rw [reached]
  exact ⟨⟨hq, hX, direct', ready.retraction, ready.transport⟩, rfl, zero, rfl, rfl, rfl⟩

end Damped

/-- With the factor one and a damped stepsize that does not accept the contraction searches start
from, all iterates but the first are the zero of the map, reached by full steps that leave nothing.
With constant steps, every one leaves the same part of the residual. The next step never fails. -/
theorem affine_run {cost : Option (Tensor ℝ → Attempt ℝ (Trail ℝ) ℝ)}
    {recorder : Option (Recorder ℝ)} {first : Stage ℝ (Run ℝ (NewtonState ℝ))} {n : ℕ}
    {stages : ℕ → Stage ℝ (Run ℝ (NewtonState ℝ))} (ready : first.state.own.Ready shape)
    (course : Solver.Course (solver problem cost) recorder first n stages) :
    (∀ d, factor = 1 → first.state.own.stepsize = .damped d → d.Valid →
      d.accepted < Default.initialContraction → d.least ≤ 1 →
      (solver problem cost).Proceeds n stages ∧ ∀ k, 1 ≤ k → k ≤ n →
        A *ᵥ (stages k).state.own.point.column shape.size = b ∧
        (stages k).state.own.alpha = 1 ∧ (stages k).state.own.theta = 0 ∧
        (stages k).state.lastStepsize = some 1) ∧
    ∀ c, first.state.own.stepsize = .rule (.constant c .relative) →
      (solver problem cost).Proceeds n stages ∧ ∀ k ≤ n,
        A *ᵥ (stages k).state.own.point.column shape.size - b =
          (1 - factor * c) ^ k • (A *ᵥ first.state.own.point.column shape.size - b) := by
  have start := course_start course
  have ready₀ : (stages 0).state.own.Ready shape := by
    rw [start]
    exact { ready with }
  constructor
  · intro d unscaled damped valid wanted full
    obtain ⟨holds, proceeds⟩ := course.carries
      (P := fun k own size => own.Ready shape ∧ own.stepsize = .damped d ∧ (1 ≤ k →
        A *ᵥ own.point.column shape.size = b ∧ own.alpha = 1 ∧ own.theta = 0 ∧ size = some 1))
      ⟨ready₀, by rw [start]; exact damped, fun late => absurd late (by omega)⟩ (by
        rintro k - t - ⟨ready, damped, -⟩
        obtain ⟨u, stepped, ready', same, reached⟩ := step_of_damped affine axes entries invertible
          valid wanted full unscaled ready damped
        exact ⟨u, stepped, ready', same.trans damped, fun _ => reached⟩)
    exact ⟨proceeds, fun k late inside => (holds k inside).2.2 late⟩
  · intro c constant
    obtain ⟨holds, proceeds⟩ := course.carries
      (P := fun k own _ => own.Ready shape ∧ own.stepsize = .rule (.constant c .relative) ∧
        A *ᵥ own.point.column shape.size - b =
          (1 - factor * c) ^ k • (A *ᵥ first.state.own.point.column shape.size - b))
      ⟨ready₀, by rw [start]; exact constant, by rw [start, pow_zero, one_smul]⟩ (by
        rintro k - t - ⟨ready, constant, left⟩
        obtain ⟨u, stepped, ready', same, shorter⟩ :=
          step_of_constant affine axes entries invertible ready constant
        exact ⟨u, stepped, ready', same.trans constant, by
          rw [shorter, left, smul_smul, pow_succ']⟩)
    exact ⟨proceeds, fun k inside => (holds k inside).2.2⟩

end Newton

namespace RootProblem

noncomputable def ofMatrix (shape : Shape) (a b : Tensor ℝ) (factor : ℝ) : RootProblem ℝ where
  manifold := euclidean shape
  bundle := .trivial (euclidean shape) [shape.size]
  map := .allocating fun p => do
    let image ← a.apply p.ravel
    let value ← image.sub b
    return some value
  derivative _ := return .matrix a
  scaling := .ok factor

theorem ofMatrix_affine {shape : Shape} {a b : Tensor ℝ} {factor : ℝ}
    (ha : a.shape = [shape.size, shape.size]) (hb : b.shape = [shape.size]) :
    (ofMatrix shape a b factor).Affine shape (a.toMatrix shape.size shape.size)
      (b.column shape.size) factor where
  manifold := rfl
  bundle := .product (Shape.size_singleton _)
  connection _ := rfl
  scaling := rfl
  map {p} hp := by
    have full : p.entries.length = shape.size := by rw [p.size_eq, hp]
    have flat : p.ravel.shape = [shape.size] := congrArg (fun n => [n]) full
    obtain ⟨image, applied, hi, column⟩ := Tensor.apply_mulVec ha flat
    obtain ⟨y, subtracted, hy, vector⟩ := Tensor.sub_of_shape hi hb
    refine ⟨y, fun s => ⟨s, ?_⟩, by rw [y.size_eq, hy, Shape.size_singleton], ?_⟩
    · refine bind_eq_ok.mpr ⟨_, s, rfl, bind_eq_ok.mpr ⟨some y, s, ?_, rfl⟩⟩
      refine liftM_bind_eq_ok.mpr ⟨image, applied, ?_⟩
      exact liftM_bind_eq_ok.mpr ⟨y, subtracted, rfl⟩
    · change y.column shape.size = a.toMatrix _ _ *ᵥ p.ravel.column shape.size - _
      rw [← column]
      exact funext fun i => congrArg (· (i.cast (Shape.size_singleton _).symm)) vector
  derivative _ := ⟨.matrix a, gives_pure _, fun _ hv => LinearOperator.matrix_mulVec ha hv⟩

end RootProblem

namespace Newton

noncomputable def sheared (factor : ℝ) : RootProblem ℝ :=
  .ofMatrix [2] ⟨[2, 2], [1, 1, 0, 1 + 1], rfl⟩ (.vector [1 + 1 + 1, 1 + 1 + 1 + 1]) factor

theorem sheared_affine (factor : ℝ) :
    (sheared factor).Affine [2] !![1, 1; 0, 2] ![3, 4] factor := by
  have affine : (sheared factor).Affine [2] _ _ factor := RootProblem.ofMatrix_affine rfl rfl
  have matrix : (⟨[2, 2], [1, 1, 0, 1 + 1], rfl⟩ : Tensor ℝ).toMatrix 2 2 = !![1, 1; 0, 2] := by
    ext i j
    fin_cases i <;> fin_cases j <;> norm_num [Tensor.toMatrix]
  have value : (Tensor.vector [(1 : ℝ) + 1 + 1, 1 + 1 + 1 + 1]).column 2 = ![3, 4] := by
    ext i
    fin_cases i <;> norm_num [Tensor.column, Tensor.vector]
  exact matrix ▸ value ▸ affine

theorem affine_run_plane :
    (∃ stages, Solver.Course (solver (sheared 1) none) none
        (fromPoint (.vector [0, 0]) (.damped Stepsize.defaultDamping) .none) 2 stages ∧
      ∀ k, 1 ≤ k → k ≤ 2 →
        !![1, 1; 0, 2] *ᵥ (stages k).state.own.point.column 2 = ![3, 4] ∧
        (stages k).state.own.alpha = 1 ∧ (stages k).state.own.theta = 0 ∧
        (stages k).state.lastStepsize = some 1) ∧
    ∃ stages, Solver.Course (solver (sheared 2) none) none
        (fromPoint (.vector [0, 0]) (.rule (.constant (1 / 4) .relative)) .none) 2 stages ∧
      ∀ k ≤ 2, !![1, 1; 0, 2] *ᵥ (stages k).state.own.point.column 2 - ![3, 4] =
        (1 - 2 * (1 / 4) : ℝ) ^ k •
          (!![1, 1; 0, 2] *ᵥ (Tensor.vector [(0 : ℝ), 0]).column 2 - ![3, 4]) := by
  have invertible : (!![1, 1; 0, 2] : Matrix (Fin 2) (Fin 2) ℝ).det ≠ 0 := by
    norm_num [Matrix.det_fin_two]
  have run (factor : ℝ) (stepsize : Stepsize ℝ) := fun n stages =>
    @affine_run _ [2] _ _ _ (sheared_affine factor) (List.cons_ne_nil _ _) (by decide) invertible
      none none _ n stages (fromPoint_ready (.vector [0, 0]) stepsize .default)
  have valid := Stepsize.defaultDamping_valid
  have wanted : (Stepsize.defaultDamping : Damping ℝ).accepted < Default.initialContraction := by
    norm_num [Stepsize.defaultDamping, Default.acceptanceFactor, Default.desiredContraction,
      Default.initialContraction]
  have full : (Stepsize.defaultDamping : Damping ℝ).least ≤ 1 := by
    norm_num [Stepsize.defaultDamping, Default.leastDamping]
  have damped := fun n stages course =>
    (run 1 (.damped Stepsize.defaultDamping) n stages course).1 _ rfl rfl valid wanted full
  have constant := fun n stages course =>
    (run 2 (.rule (.constant (1 / 4) .relative)) n stages course).2 _ rfl
  constructor
  · obtain ⟨stages, course, -⟩ := exists_course rfl rfl
      (fun n stages course => (damped n stages course).1) 2 le_rfl
    exact ⟨stages, course, (damped 2 stages course).2⟩
  · obtain ⟨stages, course, -⟩ := exists_course rfl rfl
      (fun n stages course => (constant n stages course).1) 2 le_rfl
    exact ⟨stages, course, (constant 2 stages course).2⟩

end Newton

end ManifoldOpt

import ManifoldOpt.Proofs.Manifold.Geodesic
import ManifoldOpt.Proofs.Newton.Nonsingular
import ManifoldOpt.Proofs.Newton.Progress

set_option autoImplicit false

namespace ManifoldOpt

open Attempt Matrix

section Retraction

variable {shape : Shape} {p v : Tensor ℝ} (hv : v.shape = shape)
  (vanishes : v.column shape.size = 0)

include hv vanishes

theorem Tensor.add_vanishing (hp : p.shape = shape) : p.add v = .ok p := by
  obtain ⟨q, added, hq, vector⟩ := Tensor.add_of_shape hp hv
  rw [Tensor.toVector_eq_zero vanishes, add_zero] at vector
  rw [added, Tensor.eq_of_toVector hq hp vector]

theorem Manifold.Standard.retract_vanishing {M : Manifold ℝ} {n : ℕ} (standard : M.Standard shape n)
    (hp : p.shape = shape) (point : M.isPoint 0 p = .ok true) {method : Literal ℝ}
    (named : method.NamesRetraction) : M.retract p v method = .ok p := by
  cases standard with
  | flat => rw [euclidean_retract_eq named, Tensor.add_vanishing hv vanishes hp]
  | round n =>
    have unit := ((Sphere.point_iff_isPoint hp).mpr point).unit
    have exponential : Sphere.exp p v = .ok p := by
      obtain ⟨q, moved, hq, vector⟩ := Sphere.exp_of_shape hp hv
      have short : ‖v.toVector [n + 2]‖ < Tolerance.epsilon := by
        rw [Tensor.toVector_eq_zero vanishes, norm_zero]
        norm_num [Tolerance.epsilon]
      rw [if_pos short, Tensor.toVector_eq_zero vanishes, add_zero] at vector
      rw [moved, Tensor.eq_of_toVector hq hp vector]
    cases named with
    | default => exact exponential
    | method m =>
      cases m with
      | exponential => exact exponential
      | projection =>
        obtain ⟨q, added, hq, -, moved⟩ := Sphere.retr_of_shape hp hv
        obtain rfl := Except.ok.inj (added.symm.trans (Tensor.add_vanishing hv vanishes hp))
        have same : (q.map (Scalar.quotient · q.length)).toVector [n + 2] = q.toVector [n + 2] := by
          rw [Tensor.toVector_quotient, Tensor.length_toVector hq, unit, inv_one, one_smul]
        exact moved.trans (congrArg _ (Tensor.eq_of_toVector hq hq same))

end Retraction

theorem Manifold.Standard.normNumber_eq {M : Manifold ℝ} {shape : Shape} {n : ℕ}
    (standard : M.Standard shape n) {p v : Tensor ℝ} (hv : v.shape = shape) :
    M.normNumber p v = .ok ‖v.toVector shape‖ := by
  cases standard with
  | flat => exact euclidean_normNumber hv
  | round => exact Outcome.bind_eq_ok.mpr ⟨_, Sphere.norm_of_shape hv, rfl⟩

namespace RootProblem

variable {problem : RootProblem ℝ} {shape fiber : Shape} {n : ℕ} {p value : Tensor ℝ} {factor : ℝ}

theorem Nonsingular.direction_vanishes (nonsingular : problem.Nonsingular shape fiber n p value)
    (scaled : problem.scaling = .ok factor) (transport : Literal ℝ) :
    ∃ b c X, problem.bundle.basis p = .ok b ∧
      problem.bundle.coordinates p (value.scale factor) (some b) = .ok c ∧ c.shape = [n] ∧
      (problem.newtonVector .off p none transport).Gives X ∧ X.shape = shape ∧
      (X.column shape.size = 0 ↔ c.column n = 0) ∧
      (value.column fiber.size = 0 → c.column n = 0) := by
  obtain ⟨b, A, B, C, linearized⟩ := nonsingular.linearized
  obtain ⟨c, taken, hc, column⟩ := linearized.coordinates (value.scale factor)
    ((List.length_map _).trans nonsingular.element)
  obtain ⟨d, X, gives, hX, combined, equal⟩ := linearized.direction factor transport
  rw [withScaling_eq scaled] at gives
  rw [Tensor.column_scale, mulVec_smul] at column
  rw [neg_smul, ← column] at equal
  refine ⟨b, c, X, linearized.vertical, taken, hc, gives, hX, ⟨fun still => ?_, fun zero => ?_⟩,
    fun zero => ?_⟩
  · -- An orthonormal basis gives back the coordinates of the direction.
    have back : d = 0 := by
      rw [← vecMul_one d, ← linearized.orthonormal, ← vecMul_vecMul, ← combined, still, zero_vecMul]
    rwa [back, mulVec_zero, eq_comm, neg_eq_zero] at equal
  · rw [zero, neg_zero] at equal
    rw [combined, eq_zero_of_mulVec_eq_zero linearized.regular equal, zero_vecMul]
  · rw [column, zero, mulVec_zero, smul_zero]

end RootProblem

namespace Newton

variable {problem : RootProblem ℝ} {shape fiber : Shape} {n : ℕ} {p value : Tensor ℝ} {factor : ℝ}
  {k : Int} {s t : Stage ℝ (Run ℝ (NewtonState ℝ))} {d : Damping ℝ}

/-- Step `k` from `s` ends at `t`, and once its direction is known nothing is done but to report
that it vanishes and that the whole step is taken. -/
def TriesNothing (problem : RootProblem ℝ) (k : Int) (s t : Stage ℝ (Run ℝ (NewtonState ℝ))) : Prop :=
  step problem k s = .ok () t ∧ ∃ v u, computeDirection problem k (beginning s) = .ok v u ∧
    t.trail = { u.trail with events := .damped k 1 0 :: .directionVanishes k :: u.trail.events }

structure AfterZeroStep (shape : Shape) (own : NewtonState ℝ) (size : Option ℝ) : Prop where
  direction : own.direction.column shape.size = 0
  theta : own.theta = 0
  alpha : own.alpha = 1
  size : size = some 1

theorem step_of_zero (nonsingular : problem.Nonsingular shape fiber n p value)
    (scaled : problem.scaling = .ok factor) (zero : value.column fiber.size = 0)
    (point : problem.manifold.isPoint 0 p = .ok true) (ready : s.state.own.Ready shape)
    (here : s.state.own.point = p) (damped : s.state.own.stepsize = .damped d) :
    ∃ t, TriesNothing problem k s t ∧ t.state.own.Ready shape ∧ t.state.own.point = p ∧
      t.state.own.stepsize = .damped d ∧ AfterZeroStep shape t.state.own t.state.lastStepsize := by
  obtain ⟨b, c, X, -, -, -, gives, hX, vanishes, still⟩ :=
    nonsingular.direction_vanishes scaled s.state.own.transport
  have none_left := vanishes.mpr (still zero)
  rw [← here] at gives point
  obtain ⟨u, subsolver, solved, direct, -, own⟩ :=
    withDirection_of_gives (k := k) nonsingular.standard.shaped ready gives
  have short : ‖X.toVector shape‖ ≤ Tolerance.epsilon := by
    rw [Tensor.toVector_eq_zero none_left, norm_zero]
    norm_num [Tolerance.epsilon]
  have length : problem.manifold.normNumber (withDirection X u).state.own.point
      (withDirection X u).state.own.direction = .ok ‖X.toVector shape‖ :=
    nonsingular.standard.normNumber_eq hX
  have measured := stepLength_of_vanishing (k := k) (by rw [own]; exact damped) length short
  have scaled : (X.scale 1).column shape.size = 0 := by
    rw [Tensor.column_scale, none_left, smul_zero]
  have moved := nonsingular.standard.retract_vanishing (v := X.scale 1) hX scaled ready.point point
    ready.retraction
  refine ⟨_, ⟨step_of_length solved measured moved, X, u, solved, rfl⟩, ?_⟩
  have reached : (stepEnd k 1 s.state.own.point (Stage.noting (.directionVanishes k)
      { withDirection X u with state := { (withDirection X u).state with
        own := { (withDirection X u).state.own with
          alpha := 1, theta := 0, isSame := true } } })).state.own =
      { s.state.own with
        direction := X, alpha := 1, theta := 0, trial := s.state.own.point, isSame := true
        subsolver } := by
    simp only [stepEnd, Stage.noting, own]
  rw [reached]
  exact ⟨⟨ready.point, hX, direct, ready.retraction, ready.transport⟩, here, damped,
    ⟨none_left, rfl, rfl, rfl⟩⟩

theorem zero_of_step (nonsingular : problem.Nonsingular shape fiber n p value)
    (scaled : problem.scaling = .ok factor) (ready : s.state.own.Ready shape)
    (here : s.state.own.point = p) (done : step problem k s = .ok () t)
    (still : t.state.own.direction.column shape.size = 0) :
    ∃ b c, problem.bundle.basis p = .ok b ∧
      problem.bundle.coordinates p (value.scale factor) (some b) = .ok c ∧ c.shape = [n] ∧
      c.column n = 0 := by
  obtain ⟨b, c, X, vertical, taken, hc, gives, -, vanishes, -⟩ :=
    nonsingular.direction_vanishes scaled s.state.own.transport
  obtain ⟨v, length, advance, -⟩ := step_eq_ok done
  obtain ⟨s', t', solved, own⟩ := advance.solved
  rw [← here] at gives
  obtain ⟨u, subsolver, solved', -⟩ := computeDirection_of_gives (s := s') (k := k)
    nonsingular.standard.shaped (by rw [own]; exact { ready with }) (by rw [own]; exact gives)
  obtain ⟨rfl, -⟩ := EStateM.Result.ok.inj (solved.symm.trans solved')
  rw [advance.shown] at still
  exact ⟨b, c, vertical, taken, hc, vanishes.mp still⟩

/-- A damped run from a zero with a nonsingular derivative never leaves it, whichever way the
equation is solved: every step succeeds, and tries nothing. Conversely, a step that leaves no
direction was made where the coordinates of the residual vanish. -/
theorem zero_stationary (nonsingular : problem.Nonsingular shape fiber n p value)
    (scaled : problem.scaling = .ok factor) :
    (value.column fiber.size = 0 → problem.manifold.isPoint 0 p = .ok true →
      ∀ {cost : Option (Tensor ℝ → Attempt ℝ (Trail ℝ) ℝ)} {recorder : Option (Recorder ℝ)}
        {first : Stage ℝ (Run ℝ (NewtonState ℝ))} {m : ℕ}
        {stages : ℕ → Stage ℝ (Run ℝ (NewtonState ℝ))},
        first.state.own.Ready shape → first.state.own.point = p →
        first.state.own.stepsize = .damped d →
        Solver.Course (solver problem cost) recorder first m stages → ∀ k ≤ m,
          (stages k).state.own.point = p ∧
          (1 ≤ k → AfterZeroStep shape (stages k).state.own (stages k).state.lastStepsize) ∧
          ∀ s, (solver problem cost).shouldStop k (stages k) = .ok false s →
            ∃ t, TriesNothing problem (k + 1) s t) ∧
    ∀ {k : Int} {s t : Stage ℝ (Run ℝ (NewtonState ℝ))}, s.state.own.Ready shape →
      s.state.own.point = p → step problem k s = .ok () t →
      t.state.own.direction.column shape.size = 0 →
      ∃ b c, problem.bundle.basis p = .ok b ∧
        problem.bundle.coordinates p (value.scale factor) (some b) = .ok c ∧ c.shape = [n] ∧
        c.column n = 0 := by
  refine ⟨?_, fun ready here done still => zero_of_step nonsingular scaled ready here done still⟩
  intro zero point cost recorder first m stages ready here damped course
  have start := course_start course
  obtain ⟨holds, -⟩ := course.carries
    (P := fun k own size => own.Ready shape ∧ own.point = p ∧ own.stepsize = .damped d ∧
      (1 ≤ k → AfterZeroStep shape own size))
    (by
      rw [start]
      exact ⟨{ ready with }, here, damped, fun late => absurd late (by omega)⟩)
    (by
      rintro k - s - ⟨ready, here, damped, -⟩
      obtain ⟨t, stepped, ready', here', damped', zeroStep⟩ :=
        step_of_zero nonsingular scaled zero point ready here damped
      exact ⟨t, stepped.1, ready', here', damped', fun _ => zeroStep⟩)
  intro k inside
  obtain ⟨ready, here, damped, zeroStep⟩ := holds k inside
  refine ⟨here, zeroStep, fun s asked => ?_⟩
  obtain ⟨memory, left⟩ := Solver.shouldStop_state asked
  have same : s.state.own = (stages k).state.own := by rw [left]
  rw [← same] at ready here damped
  obtain ⟨t, stepped, -⟩ := step_of_zero nonsingular scaled zero point ready here damped
  exact ⟨t, stepped⟩

noncomputable def height : RootProblem ℝ where
  manifold := sphere 2
  bundle := .tangent (sphere 2)
  map := .allocating fun p => return some (← Sphere.project p (.vector [0, 0, 1]))
  derivative p := return .action fun v => return v.scale (-p.entries.getLastD 0)

theorem height_nonsingular : ∃ value, value.column (Shape.size [3]) = 0 ∧
    height.Nonsingular [3] [3] 2 (.vector [0, 0, 1]) value := by
  have standard : height.manifold.Standard [3] 2 := .round 1
  obtain ⟨basis, tangent, axes, orthonormal⟩ := standard.framed.basis (p := .vector [0, 0, 1]) rfl
  let operator : LinearOperator ℝ := .action fun v => return v.scale (-1)
  have images : height.ImageCoordinates (.vector [0, 0, 1]) basis basis operator [3] 2
      (-basis.toMatrix 2 (Shape.size [3])) := by
    intro v hv _
    obtain ⟨c, taken, hc, column⟩ := Tensor.coordinates_mulVec (v := v.scale (-1)) two_ne_zero axes
      ((List.length_map _).trans (by rw [v.size_eq, hv]))
    refine ⟨_, c, rfl, taken, hc, ?_⟩
    rw [column, Tensor.column_scale, neg_smul, one_smul, mulVec_neg, neg_mulVec]
  obtain ⟨matrix, assembled, -, same⟩ :=
    RootProblem.derivativeMatrix_of_images two_ne_zero axes images
  have regular : (matrix.toMatrix 2 2).det ≠ 0 := by
    rw [same, Matrix.neg_mul, orthonormal, det_neg, det_one]
    norm_num
  have linear : operator.LinearOn [3] (basis.rowSpace 2 (Shape.size [3])) (Shape.size [3]) := by
    refine ⟨-Submodule.subtype _, fun v hv _ => ⟨_, rfl, ?_, ?_⟩⟩
    · exact (List.length_map _).trans (by rw [v.size_eq, hv])
    · rw [Tensor.column_scale, neg_smul, one_smul]
      rfl
  let along : ℝ := 0 + 0 * 0 + 0 * 0 + 1 * 1
  let value : Tensor ℝ := .vector [0 - along * 0, 0 - along * 0, 1 - along * 1]
  refine ⟨value, ?_, standard, standard.tangent_linear, rfl, ⟨value, fun s => ⟨s, rfl⟩, rfl⟩, rfl,
    operator, basis, basis, matrix, gives_pure _, tangent, tangent, linear, assembled, regular⟩
  ext i
  fin_cases i <;> simp [value, along, Tensor.column, Tensor.vector]

noncomputable def fromPole : Stage ℝ (Run ℝ (NewtonState ℝ)) :=
  fromPoint (.vector [0, 0, 1]) (.damped Stepsize.defaultDamping) (.retraction .projection)

theorem zero_stationary_height :
    ∃ stages, Solver.Course (solver height none) none fromPole 2 stages ∧
      (∀ k ≤ 2, (stages k).state.own.point = .vector [0, 0, 1]) ∧
      (∃ s t, TriesNothing height 1 s t) ∧
      ∃ (value b c : Tensor ℝ), height.bundle.coordinates (.vector [0, 0, 1]) (value.scale 1)
        (some b) = .ok c ∧ c.column 2 = 0 := by
  obtain ⟨value, zero, nonsingular⟩ := height_nonsingular
  have ready : fromPole.state.own.Ready [3] :=
    fromPoint_ready (.vector [0, 0, 1]) _ (.method .projection)
  have point : height.manifold.isPoint 0 (.vector [0, 0, 1]) = .ok true := by
    refine (Sphere.point_iff_isPoint (n := 2) rfl).mp ⟨rfl, ?_⟩
    rw [← Tensor.length_toVector (by rfl)]
    simp [Tensor.length, Tensor.vector, Tensor.total]
  obtain ⟨stays, converse⟩ := zero_stationary (d := Stepsize.defaultDamping) nonsingular rfl
  have run := fun m stages => @stays zero point none none fromPole m stages ready rfl rfl
  have proceeds (m : ℕ) (stages : ℕ → Stage ℝ (Run ℝ (NewtonState ℝ)))
      (course : Solver.Course (solver height none) none fromPole m stages) :
      (solver height none).Proceeds m stages := by
    intro s asked
    obtain ⟨t, stepped, -⟩ := (run m stages course m le_rfl).2.2 s asked
    exact ⟨t, stepped⟩
  obtain ⟨stages, course, -⟩ := exists_course rfl rfl proceeds 2 le_rfl
  have along := run 2 stages course
  obtain ⟨t, asked, -⟩ := course.continued 0 two_pos
  obtain ⟨u, tried⟩ := (along 0 (by omega)).2.2 t asked
  obtain ⟨s, v, memory, kept, stepped, left, reached⟩ := course.stepped two_pos
  have own : s.state.own = (stages 0).state.own := by rw [left]
  have still := ((along 1 (by omega)).2.1 le_rfl).direction
  rw [reached] at still
  obtain ⟨b, c, -, taken, -, vanishes⟩ := converse
    (by rw [own, course_start course]; exact { ready with }) (by rw [own, course_start course]; rfl)
    stepped still
  exact ⟨stages, course, fun k inside => (along k inside).1, ⟨t, u, tried⟩, value, b, c, taken,
    vanishes⟩

end Newton

end ManifoldOpt

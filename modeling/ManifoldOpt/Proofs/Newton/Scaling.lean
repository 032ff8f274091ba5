import ManifoldOpt.Proofs.Manifold.Sphere
import ManifoldOpt.Proofs.Newton.Nonsingular
import ManifoldOpt.Proofs.Newton.Progress

set_option autoImplicit false

namespace ManifoldOpt

open Attempt Matrix

theorem Manifold.Standard.retract_of_shape {M : Manifold ℝ} {shape : Shape} {n : ℕ}
    (standard : M.Standard shape n) {p v : Tensor ℝ} (hp : p.shape = shape) (hv : v.shape = shape)
    {method : Literal ℝ} (named : method.NamesRetraction) :
    ∃ q, M.retract p v method = .ok q ∧ q.shape = shape := by
  cases standard with
  | flat =>
    obtain ⟨q, added, hq, -⟩ := Tensor.add_of_shape hp hv
    exact ⟨q, (euclidean_retract_eq named).trans added, hq⟩
  | round n =>
    obtain ⟨q, moved, hq, -⟩ := Sphere.exp_of_shape hp hv
    cases named with
    | default => exact ⟨q, moved, hq⟩
    | method m =>
      cases m with
      | exponential => exact ⟨q, moved, hq⟩
      | projection =>
        obtain ⟨y, -, hy, -, moved⟩ := Sphere.retr_of_shape hp hv
        exact ⟨_, moved, hy⟩

namespace RootProblem

variable {problem : RootProblem ℝ} {shape fiber : Shape} {n : ℕ} {p value : Tensor ℝ}

theorem Nonsingular.direction (nonsingular : problem.Nonsingular shape fiber n p value) :
    ∃ W : Tensor ℝ, W.shape = shape ∧ ∀ factor transport,
      ((problem.withScaling factor).newtonVector .off p none transport).Gives (W.scale factor) := by
  obtain ⟨b, A, B, C, linearized⟩ := nonsingular.linearized
  obtain ⟨w, W, -, hW, combined, equal⟩ := linearized.direction 1 .none
  refine ⟨W, hW, fun factor transport => ?_⟩
  obtain ⟨d, X, gives, hX, combined', equal'⟩ := linearized.direction factor transport
  have coordinates : d = factor • w := by
    have image : A *ᵥ (d - factor • w) = 0 := by
      rw [mulVec_sub, mulVec_smul, equal, equal', neg_smul, neg_smul, one_smul, smul_neg, sub_self]
    exact sub_eq_zero.mp (eq_zero_of_mulVec_eq_zero linearized.regular image)
  have same : X = W.scale factor := by
    refine Tensor.ext_column hX hW ?_
    rw [combined', coordinates, smul_vecMul, ← combined, Tensor.column_scale]
  rwa [← same]

end RootProblem

namespace Newton

variable {problem : RootProblem ℝ} {shape fiber : Shape} {m : ℕ} {factor c : ℝ}

def RegularAlong (problem : RootProblem ℝ) (shape fiber : Shape) (m n : ℕ)
    (stages : ℕ → Stage ℝ (Run ℝ (NewtonState ℝ))) : Prop :=
  ∀ k ≤ n, (stages k).state.own.point.shape = shape →
    ∃ value, problem.Nonsingular shape fiber m (stages k).state.own.point value

/-- Steps from `p` by a constant length go along `W`, by the product of the factor of the residual and
the length. -/
def LeadsAlong (problem : RootProblem ℝ) (shape : Shape) (p W : Tensor ℝ) : Prop :=
  ∀ (factor c : ℝ) (k : Int) (s : Stage ℝ (Run ℝ (NewtonState ℝ))), s.state.own.point = p →
    s.state.own.Ready shape → s.state.own.stepsize = .rule (.constant c .relative) →
    ∃ t, step (problem.withScaling factor) k s = .ok () t ∧ t.state.own.Ready shape ∧
      t.state.own.stepsize = s.state.own.stepsize ∧
      t.state.own.retraction = s.state.own.retraction ∧
      problem.manifold.retract p (W.scale (factor * c)) s.state.own.retraction =
        .ok t.state.own.point

theorem exists_leadsAlong {p value : Tensor ℝ}
    (nonsingular : problem.Nonsingular shape fiber m p value) :
    ∃ W, LeadsAlong problem shape p W := by
  obtain ⟨W, hW, gives⟩ := nonsingular.direction
  refine ⟨W, ?_⟩
  rintro factor c k s rfl ready constant
  obtain ⟨q, moved, hq⟩ := nonsingular.standard.retract_of_shape (v := (W.scale factor).scale c)
    ready.point hW ready.retraction
  have shaped : (problem.withScaling factor).manifold.Shaped shape := nonsingular.standard.shaped
  obtain ⟨t, stepped, ready', stepsize, retraction, reached⟩ :=
    step_of_gives (k := k) shaped ready (gives factor _) constant moved hq
  rw [Tensor.scale_scale, mul_comm c] at moved
  exact ⟨t, stepped, ready', stepsize, retraction, by rw [reached, moved]⟩

section Runs

variable {cost cost' : Option (Tensor ℝ → Attempt ℝ (Trail ℝ) ℝ)}
  {recorder recorder' : Option (Recorder ℝ)} {first first' : Stage ℝ (Run ℝ (NewtonState ℝ))}
  {n n' : ℕ} {stages stages' : ℕ → Stage ℝ (Run ℝ (NewtonState ℝ))}
  (regular : RegularAlong problem shape fiber m n stages) (ready : first.state.own.Ready shape)
  (constant : first.state.own.stepsize = .rule (.constant c .relative))
  (course : Solver.Course (solver (problem.withScaling factor) cost) recorder first n stages)

include regular ready constant course

theorem course_carries_constant :
    (∀ k ≤ n, (stages k).state.own.Ready shape ∧
      (stages k).state.own.stepsize = .rule (.constant c .relative) ∧
      (stages k).state.own.retraction = first.state.own.retraction) ∧
    (solver (problem.withScaling factor) cost).Proceeds n stages := by
  have start := course_start course
  refine course.carries (P := fun _ own _ => own.Ready shape ∧
    own.stepsize = .rule (.constant c .relative) ∧ own.retraction = first.state.own.retraction)
    (by
      rw [start]
      exact ⟨{ ready with }, constant, rfl⟩) ?_
  rintro k inside t same ⟨ready, constant, retraction⟩
  obtain ⟨value, nonsingular⟩ := regular k inside (by rw [← same]; exact ready.point)
  obtain ⟨W, leads⟩ := exists_leadsAlong nonsingular
  obtain ⟨u, stepped, ready', stepsize, retraction', -⟩ :=
    leads factor c (k + 1) t (congrArg _ same) ready constant
  exact ⟨u, stepped, ready', stepsize.trans constant, retraction'.trans retraction⟩

theorem course_leadsAlong {k : ℕ} (inside : k < n) {W : Tensor ℝ}
    (leads : LeadsAlong problem shape (stages k).state.own.point W) :
    problem.manifold.retract (stages k).state.own.point (W.scale (factor * c))
      first.state.own.retraction = .ok (stages (k + 1)).state.own.point := by
  obtain ⟨ready', constant', retraction⟩ :=
    (course_carries_constant regular ready constant course).1 k inside.le
  obtain ⟨t, u, memory, recorded, stepped, asked, reached⟩ := course.stepped inside
  have own : t.state.own = (stages k).state.own := by rw [asked]
  obtain ⟨v, stepped', -, -, -, moved⟩ := leads factor c (k + 1) t (congrArg _ own)
    (by rwa [own]) (by rwa [own])
  obtain ⟨-, rfl⟩ := EStateM.Result.ok.inj (stepped.symm.trans stepped')
  rw [own, retraction] at moved
  rw [moved, reached]

theorem course_shares_points (course' : Solver.Course (solver (problem.withScaling 1) cost') recorder'
      first' n' stages')
    (begun : first'.state.own =
      { first.state.own with stepsize := .rule (.constant (factor * c) .relative) })
    (shorter : n' ≤ n) :
    (∀ k ≤ n', (stages' k).state.own.point = (stages k).state.own.point) ∧
      (solver (problem.withScaling 1) cost').Proceeds n' stages' := by
  have start := course_start course
  have start' := course_start course'
  rw [begun] at start'
  obtain ⟨holds, proceeds⟩ := course'.carries
    (P := fun k own _ => own.Ready shape ∧
      own.stepsize = .rule (.constant (factor * c) .relative) ∧
      own.retraction = first.state.own.retraction ∧
      (k ≤ n → own.point = (stages k).state.own.point))
    (by
      rw [start', start]
      exact ⟨{ ready with }, rfl, rfl, fun _ => rfl⟩) (by
    rintro k inside t - ⟨ready', constant', retraction, point⟩
    have here := point (by omega)
    obtain ⟨value, nonsingular⟩ := regular k (by omega) (by rw [← here]; exact ready'.point)
    obtain ⟨W, leads⟩ := exists_leadsAlong nonsingular
    obtain ⟨u, stepped, ready'', stepsize, kept, moved⟩ :=
      leads 1 _ (k + 1) t here ready' constant'
    refine ⟨u, stepped, ready'', stepsize.trans constant', kept.trans retraction, fun later => ?_⟩
    -- The step of the other run with this number goes the same way.
    have moved' := course_leadsAlong regular ready constant course later leads
    rw [one_mul, retraction, moved'] at moved
    exact (Except.ok.inj moved).symm)
  exact ⟨fun k inside => (holds k inside).2.2.2 (by omega), proceeds⟩

/-- With nonsingular derivatives along the run, a factor of the residual and constant steps lead to
the same iterates as the factor one and steps of the length times that factor. Neither run fails. -/
theorem scaling_interchanges :
    (solver (problem.withScaling factor) cost).Proceeds n stages ∧
    ∀ {cost' : Option (Tensor ℝ → Attempt ℝ (Trail ℝ) ℝ)} {recorder' : Option (Recorder ℝ)}
      {first' : Stage ℝ (Run ℝ (NewtonState ℝ))} {n' : ℕ}
      {stages' : ℕ → Stage ℝ (Run ℝ (NewtonState ℝ))},
      first'.state.own =
        { first.state.own with stepsize := .rule (.constant (factor * c) .relative) } →
      Solver.Course (solver (problem.withScaling 1) cost') recorder' first' n' stages' →
      (∀ k ≤ n, k ≤ n' → (stages' k).state.own.point = (stages k).state.own.point) ∧
      (n' ≤ n → (solver (problem.withScaling 1) cost').Proceeds n' stages') := by
  refine ⟨(course_carries_constant regular ready constant course).2, fun begun course' => ⟨?_, ?_⟩⟩
  · intro k inside inside'
    exact (course_shares_points regular ready constant course (course'.shorten inside') begun
      inside).1 k le_rfl
  · exact fun shorter =>
      (course_shares_points regular ready constant course course' begun shorter).2

end Runs

theorem steady_nonsingular {p : Tensor ℝ} (hp : p.shape = [3]) :
    RootProblem.steady.Nonsingular [3] [3] 2 p (.vector [0, 1, 0]) := by
  have standard : RootProblem.steady.manifold.Standard [3] 2 := .round 1
  obtain ⟨basis, tangent, -⟩ := standard.framed.basis hp
  obtain ⟨matrix, assembled, same⟩ := RootProblem.steady_matrix hp tangent
  refine ⟨standard, standard.tangent_linear, hp, ⟨_, fun s => ⟨s, rfl⟩, rfl⟩, rfl, _, basis, basis,
    matrix, gives_pure _, tangent, tangent, LinearOperator.identity_linear _, assembled, ?_⟩
  rw [same, det_one]
  exact one_ne_zero

theorem scaling_interchanges_steady :
    ∃ stages stages',
      Solver.Course (solver (RootProblem.steady.withScaling 2) none) none
        (fromPoint (.vector [0, 0, 1]) (.rule (.constant (1 / 4) .relative))
          (.retraction .projection)) 2 stages ∧
      Solver.Course (solver (RootProblem.steady.withScaling 1) none) none
        (fromPoint (.vector [0, 0, 1]) (.rule (.constant (2 * (1 / 4)) .relative))
          (.retraction .projection)) 2 stages' ∧
      ∀ k ≤ 2, (stages' k).state.own.point = (stages k).state.own.point := by
  have ready (length : ℝ) : (fromPoint (.vector [0, 0, 1]) (.rule (.constant length .relative))
      (.retraction .projection)).state.own.Ready [3] :=
    fromPoint_ready (.vector [0, 0, 1]) _ (.method .projection)
  have regular (n : ℕ) (stages : ℕ → Stage ℝ (Run ℝ (NewtonState ℝ))) :
      RegularAlong RootProblem.steady [3] [3] 2 n stages := fun k _ hp => ⟨_, steady_nonsingular hp⟩
  obtain ⟨stages, course, -⟩ := exists_course rfl rfl
    (fun n stages course => (scaling_interchanges (regular n stages) (ready (1 / 4)) rfl course).1)
    2 le_rfl
  obtain ⟨stages', course', -⟩ := exists_course rfl rfl
    (fun n stages course => (scaling_interchanges (regular n stages) (ready (2 * (1 / 4))) rfl
      course).1) 2 le_rfl
  have same := (scaling_interchanges (regular 2 stages) (ready (1 / 4)) rfl course).2 rfl course'
  exact ⟨stages, stages', course, course', fun k inside => same.1 k inside inside⟩

end Newton

end ManifoldOpt

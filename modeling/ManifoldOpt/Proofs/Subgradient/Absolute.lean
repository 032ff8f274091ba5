import ManifoldOpt.Proofs.Stepsize.Absolute
import ManifoldOpt.Proofs.Subgradient.Best
import ManifoldOpt.Proofs.Subgradient.Sphere

set_option autoImplicit false

namespace ManifoldOpt

/-- The subgradient callback computes the function `g`, though it may also fail or report events. -/
def CostProblem.HasSubgradient (problem : CostProblem ℝ) (g : Tensor ℝ → Tensor ℝ) : Prop :=
  ∀ {buffer p s v t}, problem.subgradientInto buffer p s = .ok v t → v = g p

structure CostProblem.Rescaled (problem problem' : CostProblem ℝ) (f : Tensor ℝ → ℝ)
    (g : Tensor ℝ → Tensor ℝ) (c : Tensor ℝ → ℝ) : Prop where
  manifold : problem'.manifold = problem.manifold
  cost : problem.HasCost f
  cost' : problem'.HasCost f
  subgradient : problem.HasSubgradient g
  subgradient' : problem'.HasSubgradient fun p => (g p).scale (c p)
  positive : ∀ p, 0 < c p

namespace Subgradient

variable {problem problem' : CostProblem ℝ} {r : StepRule ℝ}

section Advance

variable {k : Int} {old new : SubgradientState ℝ} {v p : Tensor ℝ} {length cost best : ℝ}
  (advance : Advance problem k old new v p length cost best)

include advance

theorem Advance.length_of_rule (rule : old.stepsize = .rule r) :
    r.lengthAt problem.manifold old.point v (.int k) = .ok length := by
  obtain ⟨s, t, measured, own⟩ := advance.measured
  rw [stepLength, Running.getOwn_bind, own] at measured
  simp only [rule] at measured
  exact (Attempt.liftM_eq_ok.mp measured).1

theorem Advance.normalized (rule : old.stepsize = .rule (r.withKind .absolute))
    (measures : problem.manifold.MeasuresLength) :
    ∃ t, (r.withKind .relative).lengthAt problem.manifold old.point v (.int k) = .ok t ∧
      length = StepRule.normalize t v.length := by
  obtain ⟨t, norm, given, measured, normalized⟩ :=
    StepRule.absolute_lengthAt (advance.length_of_rule rule)
  have same := Except.ok.inj (measured.symm.trans (measures measured rfl))
  exact ⟨t, given, by rw [normalized, same]⟩

end Advance

structure SameIterates (r : StepRule ℝ) (s s' : SubgradientState ℝ) : Prop where
  point : s'.point = s.point
  best : s'.best = s.best
  bestCost : s'.bestCost = s.bestCost
  retraction : s'.retraction = s.retraction
  stepsize : s.stepsize = .rule (r.withKind .absolute)
  stepsize' : s'.stepsize = .rule (r.withKind .absolute)

section Rescaled

variable {f : Tensor ℝ → ℝ} {g : Tensor ℝ → Tensor ℝ} {c : Tensor ℝ → ℝ}
  (rescaled : problem.Rescaled problem' f g c) (measures : problem.manifold.MeasuresLength)

def Scalable (problem : CostProblem ℝ) (g : Tensor ℝ → Tensor ℝ) (c : Tensor ℝ → ℝ) (p : Tensor ℝ) :
    Prop :=
  g p = (g p).zerosLike ∨
    problem.manifold.Moves p (g p) ∧ problem.manifold.Moves p ((g p).scale (c p))

include rescaled measures

theorem Advance.sameIterates {k : Int} {old new old' new' : SubgradientState ℝ} {v p v' p' : Tensor ℝ}
    {length cost best length' cost' best' : ℝ} (sameIterates : SameIterates r old old')
    (scalable : Scalable problem g c old.point)
    (advance : Advance problem k old new v p length cost best)
    (advance' : Advance problem' k old' new' v' p' length' cost' best') : SameIterates r new new' := by
  obtain ⟨s, t, taken⟩ := advance.taken
  obtain ⟨s', t', taken'⟩ := advance'.taken
  obtain rfl := rescaled.subgradient taken
  obtain rfl := rescaled.subgradient' taken'
  have space := rescaled.manifold
  obtain ⟨relative, given, normalized⟩ := advance.normalized sameIterates.stepsize measures
  obtain ⟨relative', given', normalized'⟩ :=
    advance'.normalized sameIterates.stepsize' (space ▸ measures)
  -- The relative length depends on the iteration only.
  have same_length : relative' = relative := by
    rw [space, sameIterates.point] at given'
    exact Except.ok.inj (given'.symm.trans (StepRule.relative_lengthAt given _))
  have long : g old.point = (g old.point).zerosLike ∨ Tolerance.machine < (g old.point).length ∧
      Tolerance.machine < ((g old.point).scale (c old.point)).length := by
    refine scalable.imp_right fun ⟨⟨norm, measured, large⟩, norm', measured', large'⟩ => ?_
    rw [Except.ok.inj (measured.symm.trans (measures measured rfl))] at large
    rw [Except.ok.inj (measured'.symm.trans (measures measured' rfl))] at large'
    exact ⟨large, large'⟩
  have same_point : p' = p := by
    have moved' := advance'.moved
    rw [normalized', same_length, sameIterates.point, sameIterates.retraction, space,
      StepRule.scale_normalize (rescaled.positive _) long, ← normalized] at moved'
    exact Except.ok.inj (moved'.symm.trans advance.moved)
  obtain ⟨u, w, evaluated⟩ := advance.evaluated
  obtain ⟨u', w', evaluated'⟩ := advance'.evaluated
  have same_cost : cost' = cost := by
    rw [rescaled.cost evaluated, rescaled.cost' evaluated', same_point]
  have same_best : best' = best := by
    have known' := advance'.known
    rw [sameIterates.bestCost, advance.known] at known'
    exact (Option.some.inj known').symm
  obtain ⟨traces, left⟩ := advance.left
  obtain ⟨traces', left'⟩ := advance'.left
  rw [left, left', same_point, same_cost, same_best]
  exact
    { point := rfl
      best := by rw [sameIterates.best]
      bestCost := rfl
      retraction := sameIterates.retraction
      stepsize := sameIterates.stepsize
      stepsize' := sameIterates.stepsize' }

variable {recorder recorder' : Option (Recorder ℝ)}
  {first first' : Stage ℝ (Run ℝ (SubgradientState ℝ))} {n n' : ℕ}
  {stages stages' : ℕ → Stage ℝ (Run ℝ (SubgradientState ℝ))}
  (course : Solver.Course (solver problem) recorder first n stages)
  (course' : Solver.Course (solver problem') recorder' first' n' stages')
  (point : first'.state.own.point = first.state.own.point)
  (retraction : first'.state.own.retraction = first.state.own.retraction)
  (stepsize : first.state.own.stepsize = .rule (r.withKind .absolute))
  (stepsize' : first'.state.own.stepsize = .rule (r.withKind .absolute))

include course course' point retraction stepsize stepsize'

omit measures in
theorem sameIterates_start : SameIterates r (stages 0).state.own (stages' 0).state.own := by
  obtain ⟨s, cost, t, evaluated, own⟩ := prepared_own course.prepared
  obtain ⟨s', cost', t', evaluated', own'⟩ := prepared_own course'.prepared
  have same : cost' = cost := by
    rw [rescaled.cost evaluated, rescaled.cost' evaluated', point]
  rw [own, own', same]
  exact
    { point := point
      best := point
      bestCost := rfl
      retraction := retraction
      stepsize := stepsize
      stepsize' := stepsize' }

theorem courses_sameIterates
    (scalable : ∀ k < n, k < n' → Scalable problem g c (stages k).state.own.point) {k : ℕ} (le : k ≤ n)
    (le' : k ≤ n') : SameIterates r (stages k).state.own (stages' k).state.own := by
  induction k with
  | zero =>
    exact sameIterates_start rescaled course course' point retraction stepsize stepsize'
  | succ k ih =>
    have inside := Nat.lt_of_succ_le le
    have inside' := Nat.lt_of_succ_le le'
    obtain ⟨v, p, length, cost, best, advance, -⟩ := course_advance course inside
    obtain ⟨v', p', length', cost', best', advance', -⟩ := course_advance course' inside'
    exact Advance.sameIterates rescaled measures (ih inside.le inside'.le) (scalable k inside inside')
      advance advance'

end Rescaled

section Distance

variable {k : Int} {old new : SubgradientState ℝ} {v p : Tensor ℝ} {length cost best s : ℝ}
  (advance : Advance problem k old new v p length cost best)
  (rule : old.stepsize = .rule (r.withKind .absolute))
  (moves : problem.manifold.Moves old.point v)
  (given : (r.withKind .relative).lengthAt problem.manifold old.point v (.int k) = .ok s)

include advance rule moves given

theorem Advance.length_step (measures : problem.manifold.MeasuresLength) :
    (v.scale (-length)).length = |s| := by
  obtain ⟨t, given', rfl⟩ := advance.normalized rule measures
  obtain rfl := Except.ok.inj (given.symm.trans given')
  obtain ⟨norm, measured, large⟩ := moves
  rw [Except.ok.inj (measured.symm.trans (measures measured rfl))] at large
  exact StepRule.length_normalize large s

theorem Advance.dist_flat {shape : Shape} (flat : problem.manifold = euclidean shape)
    (hp : old.point.shape = shape) (hv : v.shape = shape) (nonneg : 0 ≤ s) :
    problem.manifold.distNumber old.point new.point = .ok s := by
  have way := advance.length_step rule moves given (flat ▸ euclidean_measuresLength shape)
  have moved := advance.moved
  rw [flat] at moved
  obtain ⟨hq, vector⟩ := euclidean_retract_against hp hv moved
  have change : p.toVector shape - old.point.toVector shape =
      (v.scale (-length)).toVector shape := by
    rw [vector, Tensor.toVector_scale, neg_smul]
    abel
  rw [advance.parts.1, flat, euclidean_distNumber hp hq, change,
    ← Tensor.length_toVector (x := v.scale (-length)) hv, way,
    abs_of_nonneg nonneg]

theorem Advance.dist_round {m : ℕ} (space : problem.manifold = sphere m)
    (exponential : old.retraction = .none ∨ old.retraction = .retraction .exponential)
    (hp : Sphere.Point m old.point) (tangent : Sphere.Tangent m old.point v)
    (long : Tolerance.epsilon ≤ s) (half : s ≤ Real.pi) :
    problem.manifold.distNumber old.point new.point = .ok s := by
  have way := advance.length_step rule moves given (space ▸ Sphere.measuresLength m)
  rw [abs_of_pos (Tolerance.epsilon_pos.trans_le long)] at way
  rw [← way] at long half
  obtain ⟨y, moved, distance⟩ := Sphere.distNumber_of_arc hp (tangent.scale (-length)) long half
  have reached := advance.moved_exponential space exponential
  rw [advance.parts.1, space, ← way, ← Except.ok.inj (moved.symm.trans reached)]
  exact distance

end Distance

section Runs

variable {recorder : Option (Recorder ℝ)} {first : Stage ℝ (Run ℝ (SubgradientState ℝ))} {n : ℕ}
  {stages : ℕ → Stage ℝ (Run ℝ (SubgradientState ℝ))}
  (course : Solver.Course (solver problem) recorder first n stages)

include course

theorem course_stepsize {k : ℕ} (le : k ≤ n) :
    (stages k).state.own.stepsize = first.state.own.stepsize := by
  induction k with
  | zero =>
    obtain ⟨s, cost, t, evaluated, own⟩ := prepared_own course.prepared
    rw [own]
  | succ k ih =>
    obtain ⟨v, p, length, cost, best, advance, -⟩ := course_advance course (Nat.lt_of_succ_le le)
    obtain ⟨traces, left⟩ := advance.left
    rw [left]
    exact ih (Nat.le_of_succ_le le)

/-- By absolute steps, a run with positive multiples of the subgradients visits the same iterates with
the same costs and keeps the same best point, as long as both runs go on and no subgradient is too
short for its length to be divided out. A step along a direction that is not too short leads as far
as the rule says before it is normalized: always on flat space, and up to a half turn along the great
circles of the sphere. -/
theorem absolute_steps
    (space : (∃ shape, problem.manifold = euclidean shape) ∨ ∃ m, problem.manifold = sphere m)
    (absolute : first.state.own.stepsize = .rule (r.withKind .absolute)) :
    (∀ {problem' : CostProblem ℝ} {f g c}, problem.Rescaled problem' f g c →
      ∀ {recorder' first' n' stages'},
        Solver.Course (solver problem') recorder' first' n' stages' →
        first'.state.own.point = first.state.own.point →
        first'.state.own.stepsize = first.state.own.stepsize →
        first'.state.own.retraction = first.state.own.retraction →
        (∀ k < n, k < n' → Scalable problem g c (stages k).state.own.point) →
        ∀ k ≤ n, k ≤ n' →
          (stages' k).state.own.point = (stages k).state.own.point ∧
          (stages' k).state.own.best = (stages k).state.own.best ∧
          (stages' k).state.own.bestCost = (stages k).state.own.bestCost ∧
          ∀ {s s' cost cost' t t'},
            problem.costAt (stages k).state.own.point s = .ok cost t →
            problem'.costAt (stages' k).state.own.point s' = .ok cost' t' → cost' = cost) ∧
    ∀ k < n, ∀ {p q v s}, p = (stages k).state.own.point → q = (stages (k + 1)).state.own.point →
      v = (stages (k + 1)).state.own.direction → problem.manifold.Moves p v →
      (r.withKind .relative).lengthAt problem.manifold p v (.int (k + 1)) = .ok s →
      (∀ {shape}, problem.manifold = euclidean shape → p.shape = shape → v.shape = shape → 0 ≤ s →
        problem.manifold.distNumber p q = .ok s) ∧
      ∀ {m}, problem.manifold = sphere m →
        first.state.own.retraction = .none ∨ first.state.own.retraction = .retraction .exponential →
        Sphere.Point m p → Sphere.Tangent m p v → Tolerance.epsilon ≤ s → s ≤ Real.pi →
        problem.manifold.distNumber p q = .ok s := by
  have measures : problem.manifold.MeasuresLength := by
    obtain ⟨shape, flat⟩ | ⟨m, round⟩ := space
    · exact flat ▸ euclidean_measuresLength shape
    · exact round ▸ Sphere.measuresLength m
  constructor
  · intro problem' f g c rescaled recorder' first' n' stages' course' point stepsize retraction
      scalable k le le'
    have same := courses_sameIterates rescaled measures course course' point retraction absolute
      (stepsize.trans absolute) scalable le le'
    refine ⟨same.point, same.best, same.bestCost, fun evaluated evaluated' => ?_⟩
    rw [rescaled.cost evaluated, rescaled.cost' evaluated', same.point]
  · rintro k inside p q v s rfl rfl rfl moves given
    obtain ⟨v, p, length, cost, best, advance, -⟩ := course_advance course inside
    have rule := (course_stepsize course inside.le).trans absolute
    rw [advance.parts.2.1] at moves given
    rw [advance.parts.2.1, ← course_retraction course inside.le]
    exact ⟨fun flat hp hv nonneg => advance.dist_flat rule moves given flat hp hv nonneg,
      fun round exponential hp tangent long half =>
        advance.dist_round rule moves given round exponential hp tangent long half⟩

end Runs

noncomputable def turningBy (c : ℝ) : CostProblem ℝ where
  manifold := sphere 1
  cost p := return some (.scalar (p.entries.getD 1 0))
  subgradient := .allocating fun p =>
    return some ((Tensor.vector [-p.entries.getD 1 0, p.entries.headD 0]).scale c)

noncomputable def unitSteps : Stage ℝ (Run ℝ (SubgradientState ℝ)) :=
  ⟨{}, prepare (sphere 1)
    { stop := some (.after 1), stepsize := some (.rule (.constant 1 .absolute)) } (.vector [1, 0])⟩

theorem turningBy_course (c : ℝ) :
    ∃ stages, Solver.Course (solver (turningBy c)) none unitSteps 1 stages ∧
      (stages 0).state.own.point = .vector [1, 0] ∧
      (stages 1).state.own.direction = (Tensor.vector [-0, 1]).scale c := by
  obtain ⟨s, prepared⟩ : ∃ s, (solver (turningBy c)).prepare none unitSteps = .ok () s := ⟨_, rfl⟩
  have start : Solver.Course (solver (turningBy c)) none unitSteps 0 fun _ => s :=
    ⟨prepared, fun k inside => absurd inside (Nat.not_lt_zero k)⟩
  obtain ⟨t, u, going, iterated, direction⟩ : ∃ t u,
      (solver (turningBy c)).shouldStop 0 s = .ok false t ∧
      (solver (turningBy c)).iterate 1 t = .ok () u ∧
      u.state.own.direction = (Tensor.vector [-0, 1]).scale c := by
    cases prepared
    exact ⟨_, _, rfl, Attempt.bind_eq_ok.mpr ⟨_, _, step_of_calls rfl rfl rfl rfl rfl, rfl⟩, rfl⟩
  refine ⟨_, start.extend going iterated, ?_, ?_⟩
  · rw [Function.update_of_ne (by decide)]
    cases prepared
    rfl
  · rw [Function.update_self, direction]

theorem turningBy_moves {c : ℝ} (large : 1 ≤ |c|) (p : Tensor ℝ) :
    (sphere 1).Moves p ((Tensor.vector [-0, 1]).scale c) := by
  have length : ((Tensor.vector [-0, 1]).scale c).length = |c| := by
    rw [Tensor.length_scale]
    simp [Tensor.length, Tensor.vector, Tensor.total]
  refine ⟨_, Sphere.normNumber_of_shape (n := 1) (by rfl), ?_⟩
  rw [length]
  refine lt_of_lt_of_le ?_ large
  norm_num [Tolerance.machine]

theorem absolute_steps_circle :
    ∃ stages stages', Solver.Course (solver (turningBy 1)) none unitSteps 1 stages ∧
      Solver.Course (solver (turningBy 3)) none unitSteps 1 stages' ∧
      (stages' 1).state.own.point = (stages 1).state.own.point ∧
      (sphere 1).distNumber (stages 0).state.own.point (stages 1).state.own.point = .ok 1 := by
  obtain ⟨stages, course, point, direction⟩ := turningBy_course 1
  obtain ⟨stages', course', -⟩ := turningBy_course 3
  have rescaled : (turningBy 1).Rescaled (turningBy 3) (fun p => p.entries.getD 1 0)
      (fun p => (Tensor.vector [-p.entries.getD 1 0, p.entries.headD 0]).scale 1) fun _ => 3 :=
    { manifold := rfl
      cost := fun evaluated => by cases evaluated; rfl
      cost' := fun evaluated => by cases evaluated; rfl
      subgradient := fun taken => by cases taken; rfl
      subgradient' := fun taken => by
        cases taken
        beta_reduce
        rw [Tensor.scale_scale, mul_one]
      positive := fun _ => three_pos }
  obtain ⟨twice, distance⟩ := absolute_steps course (.inr ⟨1, rfl⟩)
    (r := .constant 1 .relative) rfl
  refine ⟨stages, stages', course, course', ?_, ?_⟩
  · refine (twice rescaled course' rfl rfl rfl ?_ 1 le_rfl le_rfl).1
    intro k inside _
    obtain rfl := Nat.lt_one_iff.mp inside
    rw [point]
    refine .inr ⟨turningBy_moves (by simp) _, ?_⟩
    rw [Tensor.scale_scale]
    exact turningBy_moves (by norm_num) _
  · refine (distance 0 one_pos rfl rfl rfl ?_ rfl).2 rfl (.inr rfl) ?_ ?_ ?_ ?_
    · rw [direction]
      exact turningBy_moves (by simp) _
    · rw [point]
      exact Sphere.point_vector rfl (by simp)
    · rw [point, direction]
      exact (Sphere.tangent_vector rfl rfl (by simp)).scale 1
    · norm_num [Tolerance.epsilon]
    · linarith [Real.two_le_pi]

end Subgradient

end ManifoldOpt

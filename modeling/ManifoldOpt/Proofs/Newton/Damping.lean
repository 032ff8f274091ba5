import ManifoldOpt.Proofs.Damping.Reference
import ManifoldOpt.Proofs.Damping.Rounds
import ManifoldOpt.Proofs.Manifold.Euclidean
import ManifoldOpt.Proofs.Newton.Direction

set_option autoImplicit false

namespace ManifoldOpt

namespace Newton

def dampingSearch {α : Type} [Scalar α] (problem : RootProblem α) (k : Int) (own : NewtonState α) :
    DampingSearch α (NewtonState α) :=
  { notes := NewtonState.notes, manifold := problem.manifold, point := own.point
    direction := own.direction, retraction := own.retraction
    simplified := computeDirection problem k, iteration := k }

variable {problem : RootProblem ℝ} {k : Int} {own : NewtonState ℝ} {d : Damping ℝ} {most : ℕ}
  {norm : ℝ} {s : Stage ℝ (Run ℝ (NewtonState ℝ))} {x : TrialSequence (NewtonState ℝ)}

/-- A trial with the factor `a` leads from stage `s` to stage `t`: the direction computed with the
residual at the trial point is `r` times as long as the direction itself. -/
def Trial (problem : RootProblem ℝ) (k : Int) (own : NewtonState ℝ) (norm a r : ℝ)
    (s t : Stage ℝ (Run ℝ (NewtonState ℝ))) : Prop :=
  ∃ q v size u,
    problem.manifold.retract own.point (own.direction.scale a) own.retraction = .ok q ∧
    computeDirection problem k { s with state := { s.state with
      own := { s.state.own with alpha := a, trial := q, isSame := false } } } = .ok v u ∧
    problem.manifold.normNumber own.point v = .ok size ∧ r = size / norm ∧
    t = { u with state := { u.state with own := { u.state.own with theta := r } } }

/-- The trials of a search from stage `s` on: those that are reached can be made. -/
structure Reference (problem : RootProblem ℝ) (k : Int) (d : Damping ℝ) (most : ℕ) (norm : ℝ)
    (s : Stage ℝ (Run ℝ (NewtonState ℝ))) (x : TrialSequence (NewtonState ℝ)) : Prop
    extends x.Recurrence d where
  start : x.stage 0 = { s with state := { s.state with
    own := { s.state.own with alpha := 1, theta := Default.initialContraction } } }
  trial : ∀ i, x.Reaches d most (i + 1) →
    Trial problem k s.state.own norm (x.factor (i + 1)) (x.contraction (i + 1)) (x.stage i)
      (x.stage (i + 1))

theorem Trial.estimate {a r : ℝ} {s t : Stage ℝ (Run ℝ (NewtonState ℝ))}
    (trial : Trial problem k own norm a r s t) :
    (dampingSearch problem k own).estimate norm a s = .ok r t := by
  obtain ⟨q, v, size, u, moved, computed, measured, rfl, rfl⟩ := trial
  exact DampingSearch.estimate_eq moved computed measured

theorem Trial.state {a r : ℝ} {s t : Stage ℝ (Run ℝ (NewtonState ℝ))}
    (trial : Trial problem k own norm a r s t) :
    ∃ trial subsolver, t.state = { s.state with
      own := { s.state.own with alpha := a, theta := r, isSame := false, trial, subsolver } } := by
  obtain ⟨q, v, size, u, -, computed, -, -, rfl⟩ := trial
  obtain ⟨subsolver, left⟩ := computeDirection_state computed
  refine ⟨q, subsolver, ?_⟩
  rw [left]

theorem Reference.stage_state (reference : Reference problem k d most norm s x) {i : ℕ}
    (reaches : x.Reaches d most i) :
    ∃ alpha isSame trial subsolver, (x.stage i).state = { s.state with
      own := { s.state.own with
        alpha, theta := x.contraction i, isSame, trial, subsolver } } ∧
      (1 ≤ i → alpha = x.factor i) := by
  -- Notes and the sub-solver are all that trials change, each trial those of the one before.
  induction i with
  | zero =>
    refine ⟨1, s.state.own.isSame, s.state.own.trial, s.state.own.subsolver, ?_, by omega⟩
    rw [reference.start, reference.initial]
  | succ i ih =>
    obtain ⟨alpha, isSame, trial, subsolver, before, -⟩ := ih (reaches.shorten (Nat.le_succ i))
    obtain ⟨trial', subsolver', left⟩ := (reference.trial i reaches).state
    refine ⟨x.factor (i + 1), false, trial', subsolver', ?_, fun _ => rfl⟩
    rw [left, before]

theorem stepLength_damped {α : Type} [Scalar α] {problem : RootProblem α} {k : Int}
    {s : Stage α (Run α (NewtonState α))} {d : Damping α}
    (damped : s.state.own.stepsize = .damped d) :
    stepLength problem k s = (dampingSearch problem k s.state.own).run d s := by
  rw [stepLength, Running.getOwn_bind, damped]
  rfl

section Search

variable (damped : s.state.own.stepsize = .damped d) (valid : d.Valid)
  (count : d.trials.int? = some (most : ℤ)) (below : d.accepted < Default.initialContraction)
  (measured : problem.manifold.normNumber s.state.own.point s.state.own.direction = .ok norm)
  (large : Tolerance.epsilon < norm) (reference : Reference problem k d most norm s x)

include damped valid count below measured large reference

theorem stepLength_outcome :
    (∃ m, x.Accepts d most m ∧ x.Reaches d most m ∧ stepLength problem k s =
      (dampingSearch problem k s.state.own).accept (x.factor m) (x.contraction m) m (x.stage m)) ∨
    ∃ t, x.Exhausts d most t ∧ x.Reaches d most t ∧ d.accepted < x.contraction t ∧
      stepLength problem k s = (dampingSearch problem k s.state.own).giveUp (x.factor (t + 1))
        (x.contraction t) t (x.stage t) := by
  have started : stepLength problem k s = (dampingSearch problem k s.state.own).loop d norm
      (DampingSearch.allowance d) 0 1 (x.contraction 0) 1 (x.stage 0) := by
    rw [stepLength_damped damped, DampingSearch.run_of_measured measured large.not_ge,
      reference.start, reference.initial]
    rfl
  have enough : 0 + DampingSearch.allowance d = most + 1 := by
    simp [DampingSearch.allowance, count]
  rw [started]
  exact DampingSearch.loop_eq valid count reference.toRecurrence below
    (fun i reaches => (reference.trial i reaches).estimate) enough
    (fun j inside => absurd inside (Nat.not_lt_zero j)) (fun counted => by omega)
    fun _ => reference.full.symm

theorem stepLength_accepts {m : ℕ} (accepts : x.Accepts d most m) :
    ∃ t trial subsolver, stepLength problem k s = .ok (x.factor m) t ∧
      t.state = { s.state with
        own := { s.state.own with
          alpha := x.factor m, theta := x.contraction m, isSame := true, trial, subsolver } } := by
  rcases stepLength_outcome damped valid count below measured large reference with
    ⟨m', accepts', reaches, returned⟩ | ⟨t, exhausts, reaches, rejected, -⟩
  · obtain rfl := accepts.unique accepts'
    obtain ⟨alpha, isSame, trial, subsolver, stage, last⟩ := reference.stage_state reaches
    obtain rfl := last accepts.counted
    refine ⟨_, trial, subsolver, returned, ?_⟩
    change { (x.stage m).state with own := { (x.stage m).state.own with isSame := true } } = _
    rw [stage]
  -- A search that has a trial to accept does not give up before it.
  · exact absurd (accepts.contraction_le exhausts reaches) rejected.not_ge

theorem stepLength_gives_up (none : ∀ m, ¬ x.Accepts d most m) :
    ∃ t u alpha trial subsolver, x.Exhausts d most t ∧
      stepLength problem k s =
        .error (.dampingFailed k (x.factor (t + 1)) (x.contraction t) t) u ∧
      u.state = { s.state with
        own := { s.state.own with
          alpha, theta := x.contraction t, isSame := true, trial, subsolver } } := by
  rcases stepLength_outcome damped valid count below measured large reference with
    ⟨m, accepts, -⟩ | ⟨t, exhausts, reaches, -, failed⟩
  · exact absurd accepts (none m)
  · obtain ⟨alpha, isSame, trial, subsolver, stage, -⟩ := reference.stage_state reaches
    refine ⟨t, _, alpha, trial, subsolver, exhausts, failed, ?_⟩
    change { (x.stage t).state with own := { (x.stage t).state.own with isSame := true } } = _
    rw [stage]

/-- A search returns the factor of the first trial that is accepted, if neither trials nor factors
are used up before, and fails with what it knows then otherwise. Point and direction stay. -/
theorem stepLength_follows_trials :
    (∀ m, x.Accepts d most m → ∃ t trial subsolver, stepLength problem k s = .ok (x.factor m) t ∧
      t.state = { s.state with
        own := { s.state.own with
          alpha := x.factor m, theta := x.contraction m, isSame := true, trial, subsolver } }) ∧
    ((∀ m, ¬ x.Accepts d most m) → ∃ t u alpha trial subsolver, x.Exhausts d most t ∧
      stepLength problem k s =
        .error (.dampingFailed k (x.factor (t + 1)) (x.contraction t) t) u ∧
      u.state = { s.state with
        own := { s.state.own with
          alpha, theta := x.contraction t, isSame := true, trial, subsolver } }) ∧
    ∀ i, (∀ j < i, d.accepted < x.contraction (j + 1)) →
      0 < x.factor (i + 1) ∧ x.factor (i + 1) ≤ 1 ∧ (d.accepted < x.contraction (i + 1) →
        x.factor (i + 2) < x.factor (i + 1) ∧
        x.factor (i + 2) < x.factor (i + 1) * d.desired / d.accepted) := by
  refine ⟨fun m accepts => ?_, fun none => ?_, fun i rejected => ?_⟩
  · exact stepLength_accepts damped valid count below measured large reference accepts
  · exact stepLength_gives_up damped valid count below measured large reference none
  · obtain ⟨positive, le_one⟩ := reference.factor_mem valid rejected
    refine ⟨positive, le_one, fun further => ?_⟩
    obtain ⟨-, drop, smaller⟩ := reference.factor_lt valid positive further
    exact ⟨smaller, drop⟩

end Search

noncomputable def line : RootProblem ℝ where
  manifold := euclidean [1]
  bundle := Problem.missingBundle
  map := .allocating fun _ => throw .noAttribute
  derivative _ := throw .noAttribute

-- Answers with the square of the trial point.
noncomputable def squareOfTrial : DirectionFunction ℝ where
  name := "square"
  description := .none
  allocating _ frame _ :=
    return some (.vector [(frame.trial.getD frame.point).entries.headD 0 ^ 2])
  inPlace _ _ _ _ := throw .argumentCount

noncomputable def halving : Damping ℝ := ⟨0.5, 0.5, .int 5, 0.01⟩

theorem halving_valid : halving.Valid :=
  ⟨by norm_num [halving], by norm_num [halving],
    by norm_num [halving, Number.value, Scalar.ofInt], by norm_num [halving]⟩

noncomputable def noted (a r : ℝ) (isSame : Bool) (trial : Tensor ℝ) :
    Stage ℝ (Run ℝ (NewtonState ℝ)) :=
  ⟨{}, {
    stop := defaultStop
    own := {
      point := .vector [0], direction := .vector [1], trial, isSame, alpha := a, theta := r
      subsolver := .allocating squareOfTrial, stepsize := .damped halving, retraction := .none
      transport := .none } }⟩

theorem noted_trial (a b r : ℝ) (isSame : Bool) (trial : Tensor ℝ) :
    Trial line 1 (noted 1 1 true (.vector [0])).state.own 1 b (b ^ 2) (noted a r isSame trial)
      (noted b (b ^ 2) false (.vector [0 + b * 1])) := by
  have size := euclidean_normNumber_single (.vector [0]) ((0 + b * 1) ^ 2)
  have same : |(0 + b * 1) ^ 2| = b ^ 2 := by rw [zero_add, mul_one, abs_of_nonneg (sq_nonneg b)]
  rw [same] at size
  exact ⟨.vector [0 + b * 1], _, b ^ 2, _, rfl, rfl, size, by rw [div_one], rfl⟩

-- One and the half in turns: a trial with the one finds the contraction one, and with the half a
-- quarter, from which the proposal returns to one.
noncomputable def alternating (i : ℕ) : ℝ := if i % 2 = 1 then 1 else 0.5

noncomputable def squareTrials : TrialSequence (NewtonState ℝ) where
  factor := alternating
  contraction i := if i = 0 then Default.initialContraction else alternating i ^ 2
  stage i :=
    if i = 0 then noted 1 Default.initialContraction true (.vector [0])
    else noted (alternating i) (alternating i ^ 2) false (.vector [0 + alternating i * 1])

theorem squareTrials_reference :
    Reference line 1 halving 5 1 (noted 1 Default.initialContraction true (.vector [0]))
      squareTrials where
  full := rfl
  initial := rfl
  next i := by
    change alternating (i + 2) = alternating (i + 1) * 0.5 / alternating (i + 1) ^ 2
    unfold alternating
    rcases Nat.mod_two_eq_zero_or_one i with even | odd
    · norm_num [Nat.add_mod, even]
    · norm_num [Nat.add_mod, odd]
  start := rfl
  trial i _ := by
    cases i with
    | zero => exact noted_trial _ _ _ _ _
    | succ i => exact noted_trial _ _ _ _ _

theorem squareTrials_accepts : squareTrials.Accepts halving 5 2 where
  counted := by decide
  allowed := by decide
  worthwhile i first last := by
    change 0.01 ≤ alternating i
    unfold alternating
    split <;> norm_num
  rejected i first before := by
    obtain rfl : i = 1 := by omega
    norm_num [halving, squareTrials, alternating]
  accepted := by norm_num [halving, squareTrials, alternating]

theorem stepLength_square :
    ∃ t, stepLength line 1 (noted 1 Default.initialContraction true (.vector [0])) =
        .ok (1 / 2) t ∧ t.state.own.alpha = 1 / 2 ∧ t.state.own.theta = (1 / 2) ^ 2 ∧
      t.state.own.isSame = true ∧ t.state.own.point = .vector [0] ∧
      t.state.own.direction = .vector [1] := by
  have size := euclidean_normNumber_single (.vector [0]) 1
  rw [abs_one] at size
  have below : halving.accepted < Default.initialContraction := by
    norm_num [halving, Default.initialContraction]
  have large : (Tolerance.epsilon : ℝ) < 1 := by norm_num [Tolerance.epsilon]
  obtain ⟨t, trial, subsolver, returned, left⟩ := (stepLength_follows_trials rfl halving_valid rfl
    below size large squareTrials_reference).1 2 squareTrials_accepts
  have factor : squareTrials.factor 2 = 1 / 2 := by norm_num [squareTrials, alternating]
  have contraction : squareTrials.contraction 2 = (1 / 2) ^ 2 := by
    norm_num [squareTrials, alternating]
  rw [factor] at returned
  rw [factor, contraction] at left
  exact ⟨t, returned, by rw [left], by rw [left], by rw [left], by rw [left]; rfl,
    by rw [left]; rfl⟩

end Newton

end ManifoldOpt

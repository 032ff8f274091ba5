import ManifoldOpt.Proofs.Damping.Rounds
import ManifoldOpt.Proofs.Newton.Damping
import ManifoldOpt.Proofs.Newton.Effort
import ManifoldOpt.Proofs.Solver.Interruption

set_option autoImplicit false

namespace ManifoldOpt

namespace Newton

open Attempt

variable {α : Type} [Scalar α] {problem : RootProblem α} {k : Int} {d : Damping α} {norm : α}
  {s t : Stage α (Run α (NewtonState α))}

abbrev SearchRound (α : Type) [Scalar α] := DampingSearch.Round α (NewtonState α)

def beforeTrials (problem : RootProblem α) (k : Int) (s : Stage α (Run α (NewtonState α))) :
    SearchRound α :=
  (dampingSearch problem k s.state.own).firstRound s

def Reached (problem : RootProblem α) (k : Int) (d : Damping α) (norm : α)
    (s : Stage α (Run α (NewtonState α))) (r : SearchRound α) : Prop :=
  (dampingSearch problem k s.state.own).Trials d norm (beforeTrials problem k s) r

/-- A trial with the factor `alpha` finds the contraction `theta` at the point `q`: so much shorter
or longer is the direction computed in stage `u`, with the residual taken at `q`. -/
structure Measures (problem : RootProblem α) (k : Int) (own : NewtonState α) (norm alpha theta : α)
    (q : Tensor α) (u : Stage α (Run α (NewtonState α))) : Prop where
  reached : problem.manifold.retract own.point (own.direction.scale alpha) own.retraction = .ok q
  begun : ∃ before subsolver, u.state.own =
    { own with alpha, theta := before, trial := q, isSame := false, subsolver }
  compared : ∃ v w size, computeDirection problem k u = .ok v w ∧
    problem.manifold.normNumber own.point v = .ok size ∧ theta = size / norm

structure Tried (problem : RootProblem α) (k : Int) (d : Damping α) (norm : α)
    (s : Stage α (Run α (NewtonState α))) (r : SearchRound α) (q : Tensor α) : Prop where
  counted : r.trials ≠ 0
  measured : ∃ r₀, Reached problem k d norm s r₀ ∧ r.trials = r₀.trials + 1 ∧
    Measures problem k s.state.own norm r.alpha r.theta q
      ((dampingSearch problem k s.state.own).tryAt r.alpha q r₀.stage)
  stage : ∃ subsolver, r.stage.state = { s.state with own := { s.state.own with
    alpha := r.alpha, theta := r.theta, trial := q, isSame := false, subsolver } }

theorem Reached.first_or_tried {r : SearchRound α} (reached : Reached problem k d norm s r) :
    r = beforeTrials problem k s ∨ ∃ q, Tried problem k d norm s r q := by
  induction reached with
  | refl => exact .inl rfl
  | @tail r₀ r trials trial ih =>
    right
    have left : ∃ alpha isSame trial subsolver, r₀.stage.state = { s.state with
        own := { s.state.own with alpha, theta := r₀.theta, isSame, trial, subsolver } } := by
      rcases ih with rfl | ⟨q, tried⟩
      · exact ⟨1, s.state.own.isSame, s.state.own.trial, s.state.own.subsolver, rfl⟩
      · obtain ⟨subsolver, stage⟩ := tried.stage
        exact ⟨_, false, q, subsolver, stage⟩
    obtain ⟨alpha, isSame, _, subsolver, left⟩ := left
    obtain ⟨theta, t, estimated, rfl⟩ := trial.made
    obtain ⟨q, v, u, found⟩ := DampingSearch.estimate_inv estimated
    obtain ⟨size, compared, same⟩ := found.compared
    have begun : ((dampingSearch problem k s.state.own).tryAt r₀.factor q r₀.stage).state =
        { s.state with own := { s.state.own with
          alpha := r₀.factor, theta := r₀.theta, trial := q, isSame := false, subsolver } } := by
      unfold DampingSearch.tryAt
      rw [left]
      rfl
    refine ⟨q, Nat.succ_ne_zero _, ⟨r₀, trials, rfl, found.reached, ?_, v, u, size, found.solved,
      compared, same⟩, ?_⟩
    · exact ⟨r₀.theta, subsolver, congrArg Run.own begun⟩
    · obtain ⟨subsolver', after⟩ := computeDirection_state found.solved
      refine ⟨subsolver', ?_⟩
      change t.state = _
      rw [found.noted, after, begun]
      rfl

/-- Where the number of trials is whole, no search makes more of them than it has rounds for. -/
theorem Reached.lt_allowance {most : Int} (count : d.trials.int? = some most) {r : SearchRound α}
    (reached : Reached problem k d norm s r) : r.trials < DampingSearch.allowance d := by
  have le := reached.le_count count rfl
  unfold DampingSearch.allowance
  rw [count]
  exact Nat.lt_succ_of_le le

def acceptedStage (k : Int) (r : SearchRound α) : Stage α (Run α (NewtonState α)) :=
  Stage.noting (.dampingAccepted k r.alpha r.theta r.trials)
    { r.stage with state := { r.stage.state with own := { r.stage.state.own with isSame := true } } }

theorem acceptedStage_theta {r : SearchRound α} (reached : Reached problem k d norm s r) :
    (acceptedStage k r).state.own.theta = r.theta := by
  rcases reached.first_or_tried with rfl | ⟨q, tried⟩
  · rfl
  · obtain ⟨subsolver, stage⟩ := tried.stage
    change r.stage.state.own.theta = r.theta
    rw [stage]

section Search

variable (damped : s.state.own.stepsize = .damped d)
  (measured : problem.manifold.normNumber s.state.own.point s.state.own.direction = .ok norm)

include damped measured

theorem stepLength_concludes (large : ¬ norm ≤ Tolerance.epsilon) :
    ∃ r, Reached problem k d norm s r ∧ (dampingSearch problem k s.state.own).Concludes d norm
      (DampingSearch.allowance d) r (stepLength problem k s) := by
  rw [stepLength_damped damped, DampingSearch.run_of_measured measured large]
  have concluded : ∃ r, Reached problem k d norm s r ∧ (dampingSearch problem k s.state.own).Concludes
      d norm (0 + DampingSearch.allowance d) r _ :=
    DampingSearch.continued_concludes (DampingSearch.allowance d) (beforeTrials problem k s)
  rwa [Nat.zero_add] at concluded

theorem stepLength_eq_ok (large : ¬ norm ≤ Tolerance.epsilon) {a : α}
    (returned : stepLength problem k s = .ok a t) :
    ∃ r, Reached problem k d norm s r ∧ ¬ d.accepted < r.theta ∧ a = r.alpha ∧
      t = acceptedStage k r := by
  obtain ⟨r, reached, concluded⟩ := stepLength_concludes (k := k) damped measured large
  rw [returned] at concluded
  generalize ended : EStateM.Result.ok a t = result at concluded
  cases concluded with
  | accepted met =>
    cases ended
    exact ⟨r, reached, met, rfl, rfl⟩
  | givenUp => cases ended
  | broken => cases ended
  | unfinished => cases ended

theorem stepLength_of_met (large : ¬ norm ≤ Tolerance.epsilon) {r : SearchRound α}
    (reached : Reached problem k d norm s r) (room : r.trials < DampingSearch.allowance d)
    (met : ¬ d.accepted < r.theta) : stepLength problem k s = .ok r.alpha (acceptedStage k r) := by
  rw [stepLength_damped damped, DampingSearch.run_of_met measured large reached room met]
  rfl

/-- With a bound below the contraction that searches start from, the factor that a search returns is
that of its last trial, and the contraction it leaves is the one measured where that factor leads.
With any other bound the full step is accepted at once, without a trial. -/
theorem accepted_step_tested (large : ¬ norm ≤ Tolerance.epsilon) :
    (d.accepted < Default.initialContraction → ∀ a t, stepLength problem k s = .ok a t →
      ∃ r q subsolver, Reached problem k d norm s r ∧ Tried problem k d norm s r q ∧ a = r.alpha ∧
        t.state = { s.state with own := { s.state.own with
          alpha := a, theta := r.theta, trial := q, isSame := true, subsolver } }) ∧
    (¬ d.accepted < Default.initialContraction →
      stepLength problem k s =
        .ok 1 (Stage.noting (.dampingAccepted k 1 Default.initialContraction 0)
          { s with state := { s.state with own := { s.state.own with
            alpha := 1, theta := Default.initialContraction, isSame := true } } })) := by
  constructor
  · intro below a t returned
    obtain ⟨r, reached, met, rfl, rfl⟩ := stepLength_eq_ok damped measured large returned
    rcases reached.first_or_tried with rfl | ⟨q, tried⟩
    · exact absurd below met
    · obtain ⟨subsolver, stage⟩ := tried.stage
      refine ⟨r, q, subsolver, reached, tried, rfl, ?_⟩
      change { r.stage.state with own := { r.stage.state.own with isSame := true } } = _
      rw [stage]
  · intro above
    exact stepLength_of_met damped measured large .refl (DampingSearch.allowance_pos d) above

end Search

def searchFromOne (f : DirectionFunction Float) (d : Damping Float := Stepsize.defaultDamping) :
    Stage Float (Run Float (NewtonState Float)) where
  trail := {}
  state := {
    stop := smallOrTwo
    own := .start (euclidean [1]) (.tangent (euclidean [1])) (.vector [1]) (.allocating f)
      (some (.vector [-0.5])) (some (.damped d)) .none .none }

theorem searchFromOne_measured (f : DirectionFunction Float) (d : Damping Float) :
    arctanOnLine.manifold.normNumber (searchFromOne f d).state.own.point
      (searchFromOne f d).state.own.direction = .ok 0.5 := by
  have size : ((euclidean [1]).normNumber (.vector [(1 : Float)]) (.vector [-0.5])).toOption =
      some 0.5 := by
    decide +kernel
  cases measured : (euclidean [1]).normNumber (.vector [(1 : Float)]) (.vector [-0.5]) with
  | ok norm =>
    rw [measured] at size
    exact measured.trans (congrArg _ (Option.some.inj size))
  | error e =>
    rw [measured] at size
    cases size

theorem accepted_step_tested_halfway :
    ∃ t r q, stepLength arctanOnLine 1 (searchFromOne halfway) = .ok 1 t ∧
      Tried arctanOnLine 1 Stepsize.defaultDamping 0.5 (searchFromOne halfway) r q ∧
      r.alpha = 1 ∧ t.state.own.theta = r.theta ∧ t.state.own.trial = q := by
  have below : (Stepsize.defaultDamping : Damping Float).accepted < Default.initialContraction := by
    decide +kernel
  have large : ¬ (0.5 : Float) ≤ Tolerance.epsilon := by decide +kernel
  have full : (value? (stepLength arctanOnLine 1 (searchFromOne halfway))).map
      Prod.fst = some 1 := by
    decide +kernel
  obtain ⟨⟨_, t⟩, returned, rfl⟩ := Option.map_eq_some_iff.mp full
  obtain ⟨r, q, _, -, tried, same, left⟩ := (accepted_step_tested rfl
    (searchFromOne_measured halfway _) large).1 below _ t (value?_eq_some.mp returned)
  exact ⟨t, r, q, value?_eq_some.mp returned, tried, same.symm, by rw [left], by rw [left]⟩

def acceptedAt (arguments : Arguments Float) : Option (Float × Float × List Nat) :=
  match Stepsize.affine arguments with
  | .ok (.damped d) =>
    (value? (stepLength arctanOnLine 1 (searchFromOne halfway d))).map fun (a, t) =>
      (a, t.state.own.theta, t.trail.tally)
  | _ => none

/-- With the bound two, the full step is accepted without the trial that finds its contraction. -/
theorem untested_step_accepted :
    acceptedAt [("theta_acc", .real 2)] = some (1, 1.3, []) ∧
      acceptedAt [] = some (1, 0.5, [1]) := by
  decide +kernel

section Undefined

variable {problem : RootProblem Float} {d : Damping Float} {norm : Float}
  {s : Stage Float (Run Float (NewtonState Float))}

theorem isNaN_initialContraction : Scalar.isNaN (Default.initialContraction : Float) = false := by
  decide +kernel

variable (damped : s.state.own.stepsize = .damped d)
  (measured : problem.manifold.normNumber s.state.own.point s.state.own.direction = .ok norm)
  (number : Scalar.isNaN d.accepted = false)

include damped measured number

/-- A search returns along a direction that vanishes, or with a contraction that does not exceed the
bound, or with an undefined one. The first undefined contraction that a trial finds is accepted. -/
theorem accepted_contraction_bounded :
    (∀ a t, stepLength problem k s = .ok a t →
      (norm ≤ Tolerance.epsilon ∧ a = 1 ∧ t.state.own.theta = 0) ∨
      t.state.own.theta ≤ d.accepted ∨
      ∃ r q, Reached problem k d norm s r ∧ Tried problem k d norm s r q ∧
        Scalar.isNaN r.theta = true ∧ a = r.alpha ∧ t = acceptedStage k r) ∧
    ∀ r, Reached problem k d norm s r → ¬ norm ≤ Tolerance.epsilon →
      Scalar.isNaN r.theta = true → r.trials < DampingSearch.allowance d →
      stepLength problem k s = .ok r.alpha (acceptedStage k r) := by
  constructor
  · intro a t returned
    by_cases small : norm ≤ Tolerance.epsilon
    · rw [stepLength_damped damped, DampingSearch.run_of_vanishing measured small] at returned
      cases returned
      exact .inl ⟨small, rfl, rfl⟩
    right
    obtain ⟨r, reached, met, rfl, rfl⟩ := stepLength_eq_ok damped measured small returned
    cases undefined : Scalar.isNaN r.theta with
    | false =>
      left
      rw [acceptedStage_theta reached]
      exact Scalar.le_of_not_lt number undefined met
    | true =>
      right
      rcases reached.first_or_tried with rfl | ⟨q, tried⟩
      · cases undefined.symm.trans isNaN_initialContraction
      · exact ⟨r, q, reached, tried, undefined, rfl, rfl⟩
  · intro r reached large undefined room
    have met : ¬ d.accepted < r.theta := fun below => by
      cases (Scalar.isNaN_right_of_lt below).symm.trans undefined
    exact stepLength_of_met damped measured large reached room met

end Undefined

-- No number is known of the way back from any trial point.
def lostAtTrials : DirectionFunction Float where
  name := "lost"
  description := .string "lost"
  allocating _ frame _ := return some (.vector [if frame.isSame then 1 else 0 / 0])
  inPlace _ _ _ _ := throw .argumentCount

theorem accepted_contraction_bounded_lost :
    ∃ r q, Tried arctanOnLine 1 Stepsize.defaultDamping 0.5 (searchFromOne lostAtTrials) r q ∧
      Scalar.isNaN r.theta = true ∧
      stepLength arctanOnLine 1 (searchFromOne lostAtTrials) = .ok 1 (acceptedStage 1 r) := by
  have number : Scalar.isNaN (Stepsize.defaultDamping : Damping Float).accepted = false := by
    decide +kernel
  have large : ¬ (0.5 : Float) ≤ Tolerance.epsilon := by decide +kernel
  have ended : (value? (stepLength arctanOnLine 1 (searchFromOne lostAtTrials))).map (fun (a, t) =>
      (a, decide (t.state.own.theta ≤ (Stepsize.defaultDamping : Damping Float).accepted))) =
      some (1, false) := by
    decide +kernel
  obtain ⟨⟨_, t⟩, returned, left⟩ := Option.map_eq_some_iff.mp ended
  obtain ⟨rfl, above⟩ := Prod.mk.inj left
  obtain ⟨bounded, accepts⟩ :=
    accepted_contraction_bounded (k := 1) rfl (searchFromOne_measured lostAtTrials _) number
  rcases bounded _ t (value?_eq_some.mp returned) with
    ⟨small, -⟩ | below | ⟨r, q, reached, tried, undefined, full, -⟩
  · exact absurd small large
  · exact absurd below (of_decide_eq_false above)
  · have count : (Stepsize.defaultDamping : Damping Float).trials.int? = some 50 := rfl
    have found := accepts r reached large undefined (reached.lt_allowance count)
    rw [← full] at found
    exact ⟨r, q, tried, undefined, found⟩

/-- The undefined contraction of the full step is accepted, not below the bound. -/
theorem undefined_contraction_accepted :
    (value? (stepLength arctanOnLine 1 (searchFromOne lostAtTrials))).map (fun (a, t) =>
      (a, Scalar.isNaN t.state.own.theta,
        decide (t.state.own.theta ≤ Default.acceptanceFactor * Default.desiredContraction))) =
      some (1, true, false) := by
  decide +kernel

end Newton

end ManifoldOpt

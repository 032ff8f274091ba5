import ManifoldOpt.Proofs.Newton.Acceptance
import ManifoldOpt.Proofs.Newton.Failure

set_option autoImplicit false

namespace ManifoldOpt

namespace Newton

open Attempt

variable {α : Type} [Scalar α] {problem : RootProblem α} {k : Int} {d : Damping α} {norm : α}
  {s t u : Stage α (Run α (NewtonState α))} {e : Fault α} {q v : Tensor α}

/-- The search from stage `s` fails with `e` while it is away from the iterate, at `q`. -/
inductive SearchFailsAt (problem : RootProblem α) (k : Int) (d : Damping α) (norm : α)
    (s : Stage α (Run α (NewtonState α))) (e : Fault α) (t : Stage α (Run α (NewtonState α)))
    (q : Tensor α) : Prop
  | estimate {r : SearchRound α} (reached : Reached problem k d norm s r)
    (rejected : d.accepted < r.theta)
    (allowed : DampingSearch.isExhausted d r.trials r.factor = false)
    (moved : problem.manifold.retract s.state.own.point (s.state.own.direction.scale r.factor)
      s.state.own.retraction = .ok q)
    (failed : (dampingSearch problem k s.state.own).Breaks r.factor r.stage e t)
  | retraction {r : SearchRound α} (reached : Reached problem k d norm s r)
    (tried : Tried problem k d norm s r q) (rejected : d.accepted < r.theta)
    (allowed : DampingSearch.isExhausted d r.trials r.factor = false)
    (failed : problem.manifold.retract s.state.own.point (s.state.own.direction.scale r.factor)
      s.state.own.retraction = .error e)
    (left : t.state = { r.stage.state with own := { r.stage.state.own with alpha := r.factor } })
  /-- The number of trials is not whole, and there are more of them than a search is given. -/
  | endless {r : SearchRound α} (reached : Reached problem k d norm s r)
    (tried : Tried problem k d norm s r q) (uncounted : d.trials.int? = none)
    (spent : r.trials = DampingSearch.allowance d) (given : e = .unfinished) (left : t = r.stage)

theorem computeDirection_state_of_error (failed : computeDirection problem k s = .error e t) :
    SameButSubsolver s.state t.state :=
  (computeDirection_keeps s.state k).of_error ⟨s.state.own.subsolver, rfl⟩ failed

theorem away_of_solved {own : NewtonState α} {factor : α}
    (solved : SameButSubsolver ((dampingSearch problem k own).tryAt factor q s).state u.state) :
    u.state.own.isSame = false ∧ u.state.own.trial = q := by
  obtain ⟨subsolver, left⟩ := solved
  rw [left]
  exact ⟨rfl, rfl⟩

theorem Tried.away {r : SearchRound α} (tried : Tried problem k d norm s r q) :
    r.stage.state.own.isSame = false ∧ r.stage.state.own.trial = q := by
  obtain ⟨subsolver, stage⟩ := tried.stage
  rw [stage]
  exact ⟨rfl, rfl⟩

theorem SearchFailsAt.away (searchFails : SearchFailsAt problem k d norm s e t q) :
    t.state.own.isSame = false ∧ t.state.own.trial = q := by
  cases searchFails with
  | estimate _ _ _ moved failed =>
    cases failed with
    | unreached failed => cases moved.symm.trans failed
    | unsolved reached failed =>
      cases moved.symm.trans reached
      exact away_of_solved (computeDirection_state_of_error failed)
    | incomparable reached solved =>
      cases moved.symm.trans reached
      exact away_of_solved (computeDirection_state solved)
  | retraction _ tried _ _ _ left =>
    rw [left]
    exact tried.away
  | endless _ tried _ _ _ left =>
    rw [left]
    exact tried.away

variable (same : s.state.own.isSame = true)

include same

theorem stepLength_here_or_searches :
    (left (stepLength problem k s)).state.own.isSame = true ∨
      ∃ d norm, s.state.own.stepsize = .damped d ∧
        problem.manifold.normNumber s.state.own.point s.state.own.direction = .ok norm ∧
        ¬ norm ≤ Tolerance.epsilon := by
  cases chosen : s.state.own.stepsize with
  | rule rule =>
    left
    rw [stepLength, Running.getOwn_bind, chosen]
    exact (congrArg (·.state.own.isSame) (left_liftM _ s)).trans same
  | inert x =>
    left
    rw [stepLength, Running.getOwn_bind, chosen]
    exact same
  | damped d =>
    cases measured : problem.manifold.normNumber s.state.own.point s.state.own.direction with
    | error e =>
      left
      rw [stepLength_damped chosen, DampingSearch.run_of_unmeasured measured]
      exact same
    | ok norm =>
      by_cases small : norm ≤ Tolerance.epsilon
      · left
        rw [stepLength_damped chosen, DampingSearch.run_of_vanishing measured small]
        rfl
      · exact .inr ⟨d, norm, rfl, rfl, small⟩

theorem stepLength_isSame {a : α} (returned : stepLength problem k s = .ok a t) :
    t.state.own.isSame = true := by
  rcases stepLength_here_or_searches same with here | ⟨d, norm, chosen, measured, large⟩
  · rw [returned] at here
    exact here
  · obtain ⟨r, -, -, -, rfl⟩ := stepLength_eq_ok chosen measured large returned
    rfl

theorem search_eq_error (damped : s.state.own.stepsize = .damped d)
    (measured : problem.manifold.normNumber s.state.own.point s.state.own.direction = .ok norm)
    (large : ¬ norm ≤ Tolerance.epsilon) (failed : stepLength problem k s = .error e t) :
    t.state.own.isSame = true ∨ ∃ q, SearchFailsAt problem k d norm s e t q := by
  obtain ⟨r, reached, concluded⟩ := stepLength_concludes (k := k) damped measured large
  rw [failed] at concluded
  generalize ended : EStateM.Result.error e t = result at concluded
  cases concluded with
  | accepted => cases ended
  | givenUp =>
    cases ended
    exact .inl rfl
  | broken rejected allowed failed =>
    cases ended
    cases DampingSearch.estimate_breaks_iff.mp failed with
    | unreached unreached =>
      rcases reached.first_or_tried with rfl | ⟨q, tried⟩
      · exact .inl same
      · exact .inr ⟨q, .retraction reached tried rejected allowed unreached rfl⟩
    | unsolved moved failed =>
      exact .inr ⟨_, .estimate reached rejected allowed moved (.unsolved moved failed)⟩
    | incomparable moved solved failed =>
      exact .inr ⟨_, .estimate reached rejected allowed moved (.incomparable moved solved failed)⟩
  | unfinished spent =>
    cases ended
    rcases reached.first_or_tried with rfl | ⟨q, tried⟩
    · exact .inl same
    · refine .inr ⟨q, .endless reached tried ?_ spent rfl rfl⟩
      cases count : d.trials.int? with
      | none => rfl
      | some most => exact absurd spent (Nat.ne_of_lt (reached.lt_allowance count))

def FailsAtTrial (problem : RootProblem α) (k : Int) (s : Stage α (Run α (NewtonState α)))
    (e : Fault α) (t : Stage α (Run α (NewtonState α))) (q : Tensor α) : Prop :=
  ∃ d norm, s.state.own.stepsize = .damped d ∧
    problem.manifold.normNumber s.state.own.point s.state.own.direction = .ok norm ∧
    ¬ norm ≤ Tolerance.epsilon ∧ SearchFailsAt problem k d norm s e t q

theorem stepLength_eq_error_isSame (failed : stepLength problem k s = .error e t) :
    t.state.own.isSame = true ∨ ∃ q, FailsAtTrial problem k s e t q := by
  rcases stepLength_here_or_searches same with here | ⟨d, norm, chosen, measured, large⟩
  · rw [failed] at here
    exact .inl here
  · rcases search_eq_error same chosen measured large failed with back | ⟨q, searchFails⟩
    · exact .inl back
    · exact .inr ⟨q, d, norm, chosen, measured, large, searchFails⟩

omit same

def beginning (s : Stage α (Run α (NewtonState α))) : Stage α (Run α (NewtonState α)) :=
  { s with state := { s.state with own := { s.state.own with isSame := true } } }

def withDirection (v : Tensor α) (s : Stage α (Run α (NewtonState α))) :
    Stage α (Run α (NewtonState α)) :=
  { s with state := { s.state with own := { s.state.own with direction := v } } }

theorem withDirection_isSame (solved : computeDirection problem k (beginning s) = .ok v u) :
    (withDirection v u).state.own.isSame = true := by
  obtain ⟨subsolver, left⟩ := computeDirection_state solved
  change u.state.own.isSame = true
  rw [left]
  rfl

theorem evaluationPoint_of_isSame (same : s.state.own.isSame = true) :
    s.state.own.frame.evaluationPoint = s.state.own.point :=
  if_pos same

theorem FailsAtTrial.away (failsAtTrial : FailsAtTrial problem k s e t q) :
    t.state.own.isSame = false ∧ t.state.own.trial = q := by
  obtain ⟨d, norm, -, -, -, searchFails⟩ := failsAtTrial
  exact searchFails.away

theorem FailsAtTrial.evaluationPoint (failsAtTrial : FailsAtTrial problem k s e t q) :
    t.state.own.frame.evaluationPoint = q := by
  obtain ⟨away, trial⟩ := failsAtTrial.away
  have apart : ¬ t.state.own.isSame = true := by
    rw [away]
    exact Bool.false_ne_true
  exact (if_neg apart).trans trial

theorem step_isSame (done : step problem k s = .ok () t) : t.state.own.isSame = true := by
  rw [step, Running.modifyOwn_bind] at done
  obtain ⟨v, u, -, done⟩ := bind_eq_ok.mp done
  rw [Running.modifyOwn_bind] at done
  obtain ⟨length, w, -, done⟩ := bind_eq_ok.mp done
  rw [Running.setStepsize_bind, Running.getOwn_bind] at done
  obtain ⟨_, _, -, done⟩ := bind_eq_ok.mp done
  obtain ⟨p, _, -, moved⟩ := bind_eq_ok.mp done
  cases moved
  rfl

theorem step_error_stage (failed : step problem k s = .error e t) :
    t.state.own.isSame = true ∨ ∃ v u q, computeDirection problem k (beginning s) = .ok v u ∧
      FailsAtTrial problem k (withDirection v u) e t q := by
  rw [step, Running.modifyOwn_bind] at failed
  rcases bind_eq_error.mp failed with failed | ⟨v, u, solved, failed⟩
  · obtain ⟨subsolver, left⟩ := computeDirection_state_of_error failed
    left
    rw [left]
  have same := withDirection_isSame solved
  rw [Running.modifyOwn_bind] at failed
  rcases bind_eq_error.mp failed with failed | ⟨length, w, measured, failed⟩
  · rcases stepLength_eq_error_isSame same failed with back | ⟨q, failsAtTrial⟩
    · exact .inl back
    · exact .inr ⟨v, u, q, solved, failsAtTrial⟩
  -- Only the retraction is left to fail, after the search.
  have back := stepLength_isSame same measured
  rw [Running.setStepsize_bind, Running.getOwn_bind] at failed
  rcases bind_eq_error.mp failed with impossible | ⟨_, _, emitted, failed⟩
  · cases impossible
  cases emitted
  rcases bind_eq_error.mp failed with failed | ⟨p, _, -, impossible⟩
  · obtain ⟨-, rfl⟩ := liftM_eq_error.mp failed
    exact .inl back
  · cases impossible

/-- The evaluation point after a step is the iterate, unless a trial of step `k` from stage `s` fails
away from the iterate. Then it is the trial point. -/
theorem evaluation_point_after_step :
    (∀ t, step problem k s = .ok () t →
      t.state.own.isSame = true ∧ t.state.own.frame.evaluationPoint = t.state.own.point) ∧
    ∀ e t, step problem k s = .error e t →
      t.state.own.point = s.state.own.point ∧
      (t.state.own.isSame = true → t.state.own.frame.evaluationPoint = t.state.own.point) ∧
      (t.state.own.isSame = false ↔ ∃ v u q, computeDirection problem k (beginning s) = .ok v u ∧
        FailsAtTrial problem k (withDirection v u) e t q ∧ t.state.own.frame.evaluationPoint = q) := by
  refine ⟨fun t done => ?_, fun e t failed => ?_⟩
  · have same := step_isSame done
    exact ⟨same, evaluationPoint_of_isSame same⟩
  have point := (step_eq_error failed).2
  refine ⟨point, evaluationPoint_of_isSame, fun away => ?_, ?_⟩
  · rcases step_error_stage failed with back | ⟨v, u, q, solved, failsAtTrial⟩
    · cases away.symm.trans back
    · exact ⟨v, u, q, solved, failsAtTrial, failsAtTrial.evaluationPoint⟩
  · rintro ⟨v, u, q, -, failsAtTrial, -⟩
    exact failsAtTrial.away.1

-- Half the way to zero from the iterate, and nothing from anywhere else.
def onlyHere : DirectionFunction Float where
  name := "here"
  description := .string "here"
  allocating _ frame _ := do
    if frame.isSame then return some (frame.point.scale (-0.5))
    else throw (.callback "no direction")
  inPlace _ _ _ _ := throw .argumentCount

theorem evaluation_point_after_step_onlyHere :
    ∃ e t v u q, step arctanOnLine 1 (searchFromOne onlyHere) = .error e t ∧
      computeDirection arctanOnLine 1 (beginning (searchFromOne onlyHere)) = .ok v u ∧
      FailsAtTrial arctanOnLine 1 (withDirection v u) e t q ∧ t.state.own.frame.evaluationPoint = q ∧
      t.state.own.point = .vector [1] := by
  have failing : (fault? (step arctanOnLine 1 (searchFromOne onlyHere))).map
      (fun r => r.2.state.own.isSame) = some false := by
    decide +kernel
  obtain ⟨⟨e, t⟩, failed, away⟩ := Option.map_eq_some_iff.mp failing
  obtain ⟨point, -, searchFails⟩ := evaluation_point_after_step.2 e t (fault?_eq_some.mp failed)
  obtain ⟨v, u, q, solved, failsAtTrial, at_trial⟩ := searchFails.mp away
  exact ⟨e, t, v, u, q, fault?_eq_some.mp failed, solved, failsAtTrial, at_trial, point⟩

/-- The residual would still be taken at a half, where the trial was made, and not at one. -/
theorem trial_outlives_search :
    (fault? (step arctanOnLine 1 (searchFromOne onlyHere))).map (fun (_, t) =>
      (t.state.own.isSame, t.state.own.frame.evaluationPoint.entries, t.state.own.point.entries)) =
      some (false, [0.5], [1]) := by
  decide +kernel

end Newton

end ManifoldOpt

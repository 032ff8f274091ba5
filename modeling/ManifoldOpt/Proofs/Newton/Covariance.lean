import ManifoldOpt.Proofs.Damping.Coupling
import ManifoldOpt.Proofs.Newton.Transformed
import ManifoldOpt.Proofs.Solver.Guarded

set_option autoImplicit false

namespace ManifoldOpt

open Attempt

theorem requireFinite_real (x : Tensor ℝ) : requireFinite x = .ok x := by
  simp [requireFinite, Tensor.allFinite]

inductive Subsolver.ByFunction {α : Type} [Scalar α] : Subsolver α → Prop
  | allocating {f : DirectionFunction α} (rule : f.allocating = Subsolver.direct) :
    ByFunction (.allocating f)
  | inPlace {f : DirectionFunction α} (rule : f.inPlace = Subsolver.directInto) :
    ByFunction (.inPlace f)

structure NewtonState.SameAt (P : Tensor ℝ → Prop) (x y : NewtonState ℝ) : Prop where
  same : x = y
  function : x.subsolver.ByFunction
  point : P x.point

namespace NewtonState

variable {P : Tensor ℝ → Prop} {x y : NewtonState ℝ}

theorem SameAt.map (both : SameAt P x y) (f : NewtonState ℝ → NewtonState ℝ)
    (subsolver : (f x).subsolver = x.subsolver) (point : (f x).point = x.point) :
    SameAt P (f x) (f y) := by
  obtain ⟨rfl, function, holds⟩ := both
  exact ⟨rfl, subsolver ▸ function, point ▸ holds⟩

theorem notes_sameAt : NewtonState.notes.Respect (Stage.AlikeRuns (SameAt P)) where
  alpha a := Running.modifyOwn_couples fun _ _ both => both.map (notes.setAlpha a) rfl rfl
  theta t := Running.modifyOwn_couples fun _ _ both => both.map (notes.setTheta t) rfl rfl
  same b := Running.modifyOwn_couples fun _ _ both => both.map (notes.setSame b) rfl rfl
  trial p := Running.modifyOwn_couples fun _ _ both => both.map (notes.setTrial p) rfl rfl
  emit event := Stage.couples_emit event event

end NewtonState

namespace Newton

variable {m : ℕ} {A : Matrix (Fin m) (Fin m) ℝ} {problem problem' : RootProblem ℝ}
  {P : Tensor ℝ → Prop}

theorem setUp_sameAt : Couples (Stage.AlikeRuns (NewtonState.SameAt P)) Eq setUp setUp := by
  refine (Running.modifyOwn_couples fun _ _ both => ?_).bind_eq fun _ =>
    Running.setStepsize_couples none
  exact both.map (fun s =>
    { s with trial := s.point, isSame := true, alpha := 1, theta := Default.initialContraction })
    rfl rfl

section Steps

variable (transformed : problem.Transformed A problem') (invertible : IsUnit A)
  (regular : ∀ p, P p → problem.Regular m p)

include transformed invertible regular

theorem computeDirection_sameAt (k : Int) :
    Couples (Stage.AlikeRuns (NewtonState.SameAt P)) Eq (computeDirection problem k)
      (computeDirection problem' k) := by
  refine Running.getOwn_couples.bind ?_
  rintro own _ ⟨rfl, function, holds⟩
  have solved := transformed.newtonVector own.frame.residualPoint own.frame.transport invertible
    (regular own.point holds)
  cases given : own.subsolver with
  | allocating f =>
    rw [given] at function
    cases function with
    | allocating rule =>
      refine Stage.couples_onTrail ?_
      unfold allocatedDirection
      rw [rule]
      simp only [Subsolver.direct, bind_assoc, pure_bind]
      exact solved.bind_eq fun v => couples_pure rfl
  | inPlace f =>
    rw [given] at function
    cases function with
    | inPlace rule =>
      refine Stage.couples_onTrail ?_
      unfold bufferedDirection
      rw [rule]
      simp only [Subsolver.directInto, bind_assoc, pure_bind]
      refine solved.bind_eq fun v => Couples.lift_bind fun b _ => ?_
      exact Couples.lift_bind fun copied _ => couples_pure rfl
  | nested e inner =>
    rw [given] at function
    cases function

theorem stepLength_sameAt (k : Int) :
    Couples (Stage.AlikeRuns (NewtonState.SameAt P)) Eq (stepLength problem k)
      (stepLength problem' k) := by
  refine Running.getOwn_couples.bind ?_
  rintro own _ ⟨rfl, function, holds⟩
  rw [transformed.manifold]
  cases own.stepsize with
  | rule r => exact couples_outcome _
  | damped d =>
    exact DampingSearch.run_couples NewtonState.notes_sameAt
      (computeDirection_sameAt transformed invertible regular k) d
  | inert v => exact couples_throw _

theorem step_sameAt (k : Int) : ∀ s t, Stage.AlikeRuns (NewtonState.SameAt P) s t →
    Agree (Stage.AlikeRuns (NewtonState.SameAt fun _ => True)) Eq (step problem k s)
      (step problem' k t) := by
  have forget (s t : Stage ℝ (Run ℝ (NewtonState ℝ)))
      (both : Stage.AlikeRuns (NewtonState.SameAt P) s t) :
      Stage.AlikeRuns (NewtonState.SameAt fun _ => True) s t :=
    ⟨both.tally, { both.state with own := { both.state.own with point := trivial } }⟩
  refine Couples.bind_pre (Running.modifyOwn_couples fun _ _ both =>
    both.map (fun s => { s with isSame := true }) rfl rfl) forget ?_
  rintro _ _ rfl
  refine (computeDirection_sameAt transformed invertible regular k).bind_pre forget ?_
  rintro v _ rfl
  refine Couples.bind_pre (Running.modifyOwn_couples fun _ _ both =>
    both.map (fun s => { s with direction := v }) rfl rfl) forget ?_
  rintro _ _ rfl
  refine (stepLength_sameAt transformed invertible regular k).bind_pre forget ?_
  rintro length _ rfl
  refine (Running.setStepsize_couples (some length)).bind_pre forget ?_
  rintro _ _ rfl
  refine Running.getOwn_couples.bind_pre forget ?_
  rintro own _ ⟨rfl, -, -⟩
  refine (Stage.couples_emit _ _).bind_pre forget ?_
  rintro _ _ rfl
  rw [transformed.manifold]
  refine (couples_outcome _).bind_pre forget ?_
  rintro p _ rfl s t before
  -- Only here the point is left, and with it what is known of it.
  refine Running.modifyOwn_couples ?_ s t (forget s t before)
  rintro x _ ⟨rfl, function, -⟩
  exact ⟨rfl, function, trivial⟩

end Steps

section Runs

variable (transformed : problem.Transformed A problem') (invertible : IsUnit A)

include transformed invertible

theorem solver_sameAt :
    Solver.AlikeWhile (fun own => problem.Regular m own.point)
      (NewtonState.SameAt fun _ => True) (solver problem none) (solver problem' none) where
  idle :=
    { name := rfl
      level := rfl
      view := by
        rintro x _ ⟨rfl, -, -⟩
        change View.mk (.ok problem.manifold) _ _ _ _ = View.mk (.ok problem'.manifold) _ _ _ _
        rw [transformed.manifold]
      ignores := fun _ cost given => by cases given
      setUp := setUp_sameAt
      step := fun _ => couples_pure rfl }
  step k s t before regular := by
    refine step_sameAt (P := (· = s.state.own.point)) transformed invertible ?_ k s t
      ⟨before.tally, { before.state with own := { before.state.own with point := rfl } }⟩
    rintro _ rfl
    exact regular

/-- The runs for a map and for an invertible matrix times that map are the same: in their states as
long as the derivative has been nonsingular, in how the next iteration from such a point ends, and
as a whole if the derivative stays nonsingular. -/
theorem affine_covariance {r : Run ℝ (NewtonState ℝ)} (function : r.own.subsolver.ByFunction)
    (recorder : Option (Recorder ℝ)) (trail : Trail ℝ) :
    (∀ n stages, Solver.Course (solver problem none) recorder ⟨trail, r⟩ n stages →
      (∀ k < n, problem.Regular m (stages k).state.own.point) →
      ∃ stages', Solver.Course (solver problem' none) recorder ⟨trail, r⟩ n stages' ∧
        (∀ k ≤ n, Stage.AlikeRuns Eq (stages k) (stages' k)) ∧
        ∀ t, (solver problem none).shouldStop n (stages n) = .ok false t →
          problem.Regular m (stages n).state.own.point →
          ∃ t', (solver problem' none).shouldStop n (stages' n) = .ok false t' ∧
            Agree (Stage.AlikeRuns Eq) Eq ((solver problem none).iterate (n + 1) t)
              ((solver problem' none).iterate (n + 1) t')) ∧
    (Solver.Guarded (fun own => problem.Regular m own.point) (solver problem none) recorder
        ⟨trail, r⟩ →
      ∀ allowance, Agree (Stage.AlikeRuns Eq) Eq
        ((solver problem none).solve allowance recorder ⟨trail, r⟩)
        ((solver problem' none).solve allowance recorder ⟨trail, r⟩)) := by
  have alike := solver_sameAt transformed invertible
  have start : Stage.AlikeRuns (NewtonState.SameAt fun _ => True) ⟨trail, r⟩ ⟨trail, r⟩ :=
    ⟨rfl, rfl, ⟨rfl, function, trivial⟩, rfl, rfl, rfl⟩
  have equal (s t : Stage ℝ (Run ℝ (NewtonState ℝ)))
      (both : Stage.AlikeRuns (NewtonState.SameAt fun _ => True) s t) :
      Stage.AlikeRuns Eq s t :=
    ⟨both.tally, { both.state with own := both.state.own.same }⟩
  constructor
  · intro n stages course regular
    obtain ⟨stages', course', before⟩ := alike.course start course regular
    refine ⟨stages', course', fun k inside => equal _ _ (before k inside), ?_⟩
    intro t asked further
    obtain ⟨t', asked', agree⟩ := alike.next n (before n (Nat.le_refl n)) asked further
    exact ⟨t', asked', agree.mono equal fun _ _ same => same⟩
  · intro guarded allowance
    exact (alike.solve guarded allowance start).mono equal fun _ _ same => same

end Runs

noncomputable def twiceFromOne : RootProblem ℝ where
  manifold := euclidean [1]
  bundle := .trivial (euclidean [1]) [1]
  map := .allocating fun p => return some (.vector [(1 + 1) * (p.entries.headD 0 - 1)])
  derivative _ := return .matrix (.fill [1, 1] (1 + 1))

theorem twiceFromOne_derivativeMatrix (p : Tensor ℝ) :
    twiceFromOne.derivativeMatrix p (standardBasis [1]) (standardBasis [1])
      (.matrix (.fill [1, 1] (1 + 1))) = .ok ⟨[1, 1], [0 + 1 * (0 + (1 + 1) * 1)], rfl⟩ := rfl

theorem twiceFromOne_transformed (A : Matrix (Fin 1) (Fin 1) ℝ) :
    twiceFromOne.Transformed A (twiceFromOne.transform A) := by
  refine RootProblem.transform_transformed ⟨fun p => couples_pure rfl, fun p => couples_pure rfl⟩
    rfl (fun _ => rfl) ?_ ?_
  · intro p s value t evaluated
    cases evaluated
    rfl
  · rintro p s _ t v image ⟨⟩ ⟨_, _, ⟨⟩, ⟨⟩, member⟩ applied
    obtain rfl := List.mem_singleton.mp member
    cases applied
    rfl

theorem twiceFromOne_regular (p : Tensor ℝ) : twiceFromOne.Regular 1 p := by
  rintro s _ _ t matrix ⟨⟩ ⟨⟩ assembled -
  obtain rfl := Except.ok.inj ((twiceFromOne_derivativeMatrix p).symm.trans assembled)
  simp [Tensor.toMatrix]

theorem twiceFromOne_newtonVector (a : ℝ) (s : Trail ℝ) :
    twiceFromOne.newtonVector .off (.vector [a]) none .none s = .ok (.vector [1 - a]) s := by
  let system : NewtonSystem ℝ :=
    ⟨⟨[1, 1], [0 + 1 * (0 + (1 + 1) * 1)], rfl⟩, .vector [0 + 1 * (-1 * ((1 + 1) * (a - 1)))],
      standardBasis [1]⟩
  have posed : twiceFromOne.newtonSystem (.vector [a]) none .none s = .ok system s := rfl
  let solution : ℝ := (0 + 1 * (-1 * ((1 + 1) * (a - 1))) - 0) / (0 + 1 * (0 + (1 + 1) * 1))
  have solved : solveDirect system.matrix system.value = .ok (.vector [solution]) :=
    Outcome.bind_eq_ok.mpr ⟨_, rfl, requireFinite_real _⟩
  have value : 0 + solution * 1 = 1 - a := by
    simp only [solution]
    ring
  rw [RootProblem.newtonVector_off, ← value]
  exact bind_eq_ok.mpr ⟨system, s, posed, liftM_eq_ok.mpr
    ⟨Outcome.bind_eq_ok.mpr ⟨_, solved, rfl⟩, rfl⟩⟩

noncomputable def fromZero : Run ℝ (NewtonState ℝ) where
  stop := .after 1
  own := {
    point := .vector [0], direction := .vector [0], trial := .vector [0]
    subsolver := .allocating {
      name := "direct"
      description := .none
      allocating := Subsolver.direct
      inPlace := Subsolver.directInto }
    stepsize := Stepsize.unit, retraction := .none, transport := .none }

theorem fromZero_course :
    ∃ stages, Solver.Course (solver twiceFromOne none) none ⟨{}, fromZero⟩ 1 stages ∧
      (stages 1).state.own.point = .vector [1] := by
  obtain ⟨s, prepared⟩ : ∃ s, (solver twiceFromOne none).prepare none ⟨{}, fromZero⟩ = .ok () s :=
    ⟨_, rfl⟩
  have start : Solver.Course (solver twiceFromOne none) none ⟨{}, fromZero⟩ 0 fun _ => s :=
    ⟨prepared, fun k inside => absurd inside (Nat.not_lt_zero k)⟩
  obtain ⟨t, u, going, iterated, reached⟩ : ∃ t u,
      (solver twiceFromOne none).shouldStop 0 s = .ok false t ∧
      (solver twiceFromOne none).iterate 1 t = .ok () u ∧
      u.state.own.point = .vector [0 + 1 * (1 - 0)] := by
    cases prepared
    have computed (t : Trail ℝ) (r : Run ℝ (NewtonState ℝ)) (own : r.own = fromZero.own) :
        computeDirection twiceFromOne 1 ⟨t, r⟩ = .ok (.vector [1 - 0]) ⟨t, r⟩ := by
      unfold computeDirection
      rw [Running.getOwn_bind, own]
      exact Stage.onTrail_eq_ok.mpr ⟨t, bind_eq_ok.mpr ⟨_, t, bind_eq_ok.mpr
        ⟨_, t, twiceFromOne_newtonVector 0 t, rfl⟩, rfl⟩, rfl⟩
    exact ⟨_, _, rfl, Solver.iterate_unrecorded _
      (bind_eq_ok.mpr ⟨_, _, rfl, bind_eq_ok.mpr ⟨_, _, computed _ _ rfl, rfl⟩⟩) rfl, rfl⟩
  refine ⟨_, start.extend going iterated, ?_⟩
  rw [Function.update_self, reached]
  norm_num

theorem affine_covariance_line :
    ∃ stages stages',
      Solver.Course (solver twiceFromOne none) none ⟨{}, fromZero⟩ 1 stages ∧
      Solver.Course (solver (twiceFromOne.transform !![-3]) none) none ⟨{}, fromZero⟩ 1 stages' ∧
      (stages 1).state.own = (stages' 1).state.own ∧
      (stages 1).state.own.point = .vector [1] := by
  have invertible : IsUnit (!![-3] : Matrix (Fin 1) (Fin 1) ℝ) :=
    (Matrix.isUnit_iff_isUnit_det _).mpr (by simp)
  obtain ⟨stages, course, reached⟩ := fromZero_course
  obtain ⟨stages', course', alike, -⟩ :=
    (affine_covariance (twiceFromOne_transformed !![-3]) invertible (.allocating rfl) none {}).1 1
      stages course fun k _ => twiceFromOne_regular _
  exact ⟨stages, stages', course, course', (alike 1 le_rfl).state.own, reached⟩

end Newton

end ManifoldOpt

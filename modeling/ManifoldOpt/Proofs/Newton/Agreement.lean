import ManifoldOpt.Proofs.Damping.Coupling
import ManifoldOpt.Proofs.Newton.Modes
import ManifoldOpt.Proofs.Problem.Gallery
import ManifoldOpt.Proofs.Solver.Coupling

set_option autoImplicit false

namespace ManifoldOpt

variable {α : Type} [Scalar α]

open Attempt

structure NewtonState.UpToSubsolver (shape : Shape) (x y : NewtonState α) : Prop where
  point : x.point.shape = shape
  direction : x.direction.shape = shape
  direct : x.subsolver.Direct
  other : ∃ subsolver, Subsolver.Direct subsolver ∧ y = { x with subsolver }

namespace NewtonState

variable {shape : Shape} {x y : NewtonState α}

theorem UpToSubsolver.symm (same : UpToSubsolver shape x y) : UpToSubsolver shape y x := by
  obtain ⟨subsolver, direct, rfl⟩ := same.other
  exact ⟨same.point, same.direction, direct, x.subsolver, same.direct, rfl⟩

theorem UpToSubsolver.map (same : UpToSubsolver shape x y) (f : NewtonState α → NewtonState α)
    (apart : ∀ x subsolver, f { x with subsolver } = { f x with subsolver })
    (point : (f x).point.shape = shape) (direction : (f x).direction.shape = shape) :
    UpToSubsolver shape (f x) (f y) := by
  obtain ⟨subsolver, direct, rfl⟩ := same.other
  have kept : (f x).subsolver = x.subsolver :=
    (congrArg NewtonState.subsolver (apart x x.subsolver) :)
  refine ⟨point, direction, ?_, subsolver, direct, apart x subsolver⟩
  rw [kept]
  exact same.direct

theorem notes_respect :
    NewtonState.notes.Respect (Stage.AlikeRuns (UpToSubsolver (α := α) shape)) where
  alpha a := Running.modifyOwn_couples fun _ _ same =>
    same.map (notes.setAlpha a) (fun _ _ => rfl) same.point same.direction
  theta t := Running.modifyOwn_couples fun _ _ same =>
    same.map (notes.setTheta t) (fun _ _ => rfl) same.point same.direction
  same b := Running.modifyOwn_couples fun _ _ same =>
    same.map (notes.setSame b) (fun _ _ => rfl) same.point same.direction
  trial p := Running.modifyOwn_couples fun _ _ same =>
    same.map (notes.setTrial p) (fun _ _ => rfl) same.point same.direction
  emit event := Stage.couples_emit event event

end NewtonState

namespace Newton

variable {problem : RootProblem α} {shape : Shape}

theorem Resolved.alike {s t s' t' : Stage α (Run α (NewtonState α))} {u : Trail α}
    (before : Stage.AlikeRuns (NewtonState.UpToSubsolver shape) s t)
    (left : Resolved s.state s' u) (right : Resolved t.state t' u) :
    Stage.AlikeRuns (NewtonState.UpToSubsolver shape) s' t' := by
  obtain ⟨_, _, other⟩ := before.state.own.other
  obtain ⟨_, direct, state⟩ := left.state
  obtain ⟨subsolver, direct', state'⟩ := right.state
  refine ⟨left.tally.trans right.tally.symm, ?_⟩
  rw [state, state', other]
  exact { before.state with
    own := ⟨before.state.own.point, before.state.own.direction, direct, subsolver, direct', rfl⟩ }

theorem setUp_couples :
    Couples (Stage.AlikeRuns (NewtonState.UpToSubsolver (α := α) shape)) Eq setUp setUp := by
  refine (Running.modifyOwn_couples fun _ _ same => ?_).bind_eq fun _ =>
    Running.setStepsize_couples none
  exact same.map (fun s =>
    { s with trial := s.point, isSame := true, alpha := 1, theta := Default.initialContraction })
    (fun _ _ => rfl) same.point same.direction

section Steps

variable (ignores : problem.IgnoresEvents) (shaped : problem.manifold.Shaped shape)

include ignores shaped

theorem computeDirection_couples (k : Int) :
    Couples (Stage.AlikeRuns (NewtonState.UpToSubsolver shape)) (fun v w => v = w ∧ v.shape = shape)
      (computeDirection problem k) (computeDirection problem k) := by
  intro s t before
  have same := before.state.own
  -- Both sides give the direction that solves the equation at once on the trail of the left one.
  have left := computeDirection_solves shaped k same.direct same.point same.direction
  have right := computeDirection_agrees shaped k same.symm.direct same.symm.point
    same.symm.direction ignores before.tally.symm
  obtain ⟨_, _, other⟩ := same.other
  rw [other] at right
  cases solved : problem.newtonVector .off s.state.own.point s.state.own.frame.residualPoint
      s.state.own.transport s.trail with
  | ok v u =>
    rw [solved] at left
    obtain ⟨s', done, after⟩ := left.ok_right
    obtain ⟨t', done', after'⟩ := (solved ▸ right : Agree _ _ _ (.ok v u)).ok_right
    rw [done, done']
    have inside := RootProblem.shape_of_newtonVector shaped same.point solved
    exact .ok ⟨rfl, inside⟩ (Resolved.alike before after after')
  | error fault u =>
    rw [solved] at left
    obtain ⟨s', failed, after⟩ := left.error_right
    obtain ⟨t', failed', after'⟩ := (solved ▸ right : Agree _ _ _ (.error fault u)).error_right
    rw [failed, failed']
    exact .error (Resolved.alike before after after')

theorem stepLength_couples (k : Int) :
    Couples (Stage.AlikeRuns (NewtonState.UpToSubsolver shape)) Eq (stepLength problem k)
      (stepLength problem k) := by
  refine Running.getOwn_couples.bind ?_
  rintro own _ ⟨point, direction, direct, subsolver, direct', rfl⟩
  cases own.stepsize with
  | rule r => exact couples_outcome _
  | damped d =>
    refine DampingSearch.run_couples NewtonState.notes_respect ?_ d
    exact (computeDirection_couples ignores shaped k).mono fun _ _ both => both.1
  | inert v => exact couples_throw _

theorem step_couples (k : Int) :
    Couples (Stage.AlikeRuns (NewtonState.UpToSubsolver shape)) Eq (step problem k)
      (step problem k) := by
  refine (Running.modifyOwn_couples fun _ _ same => same.map (fun s => { s with isSame := true })
    (fun _ _ => rfl) same.point same.direction).bind_eq fun _ => ?_
  refine (computeDirection_couples ignores shaped k).bind ?_
  rintro v _ ⟨rfl, inside⟩
  refine (Running.modifyOwn_couples fun _ _ same => same.map (fun s => { s with direction := v })
    (fun _ _ => rfl) same.point inside).bind_eq fun _ => ?_
  refine (stepLength_couples ignores shaped k).bind_eq fun length => ?_
  refine (Running.setStepsize_couples _).bind_eq fun _ => Running.getOwn_couples.bind ?_
  rintro own _ ⟨point, direction, direct, subsolver, direct', rfl⟩
  refine (Stage.couples_emit _ _).bind_eq fun _ => Couples.lift_bind fun p moved => ?_
  obtain ⟨m, _, walked⟩ := Outcome.bind_eq_ok.mp moved
  -- The next point has the shape again, so that the next direction has it too.
  have scaled : (own.direction.scale length).shape = shape := direction
  have hp : p.shape = shape := shaped.retract point scaled walked
  exact Running.modifyOwn_couples fun _ _ same =>
    same.map (fun s => { s with point := p, trial := p, isSame := true }) (fun _ _ => rfl) hp
      same.direction

theorem solver_alike :
    Solver.Alike (NewtonState.UpToSubsolver shape) (solver problem none) (solver problem none) where
  name := rfl
  level := rfl
  view x y same := by
    obtain ⟨subsolver, _, rfl⟩ := same.other
    rfl
  ignores _ cost given := by cases given
  setUp := setUp_couples
  step := step_couples ignores shaped

end Steps

/-- The choices by which the equation is solved directly. -/
inductive DirectChoice : GivenSubproblem α → GivenSubstate α → Prop
  | allocating {f : DirectionFunction α} (rule : f.allocating = Subsolver.direct) :
    DirectChoice (.function f) (.value (.evaluation .allocating))
  | inPlace {f : DirectionFunction α} (rule : f.inPlace = Subsolver.directInto) :
    DirectChoice (.function f) (.value (.evaluation .inPlace))
  | nested {description : Literal α} {e : NewtonEquation α} {r : Run α (LinearState α)}
    (unchecked : e.check.wanted = false) (direct : LinearState.Direct r) :
    DirectChoice (.equation description e) (.solver (.linear r))

theorem DirectChoice.subsolver {given : GivenSubproblem α} {substate : GivenSubstate α}
    (choice : DirectChoice given substate) :
    ∃ subsolver, chooseSubsolver given substate = .ok subsolver ∧
      Subsolver.Direct subsolver := by
  cases choice with
  | allocating rule => exact ⟨_, rfl, .allocating rule⟩
  | inPlace rule => exact ⟨_, rfl, .inPlace rule⟩
  | nested unchecked direct => exact ⟨_, rfl, .nested unchecked direct⟩

section Choices

variable {given given' : GivenSubproblem α} {substate substate' : GivenSubstate α}
  {options : Options α} {p : Tensor α}

variable (problem) in
theorem prepare_alike (inside : p.shape = shape) (buffer : ∀ b ∈ options.buffer, b.shape = shape)
    (choice : DirectChoice given substate) (choice' : DirectChoice given' substate') :
    ∃ r r',
      prepare problem.manifold problem.bundle
        { options with subproblem := given, substate := substate } p = .ok r ∧
      prepare problem.manifold problem.bundle
        { options with subproblem := given', substate := substate' } p = .ok r' ∧
      Run.Alike (NewtonState.UpToSubsolver shape) r r' := by
  obtain ⟨subsolver, chosen, direct⟩ := choice.subsolver
  obtain ⟨subsolver', chosen', direct'⟩ := choice'.subsolver
  have direction : (options.buffer.getD p.zerosLike).shape = shape := by
    cases given : options.buffer with
    | none => exact inside
    | some b => exact buffer b given
  refine ⟨_, _, Outcome.bind_eq_ok.mpr ⟨subsolver, chosen, rfl⟩,
    Outcome.bind_eq_ok.mpr ⟨subsolver', chosen', rfl⟩, rfl, ?_, rfl, rfl, rfl⟩
  exact ⟨inside, direction, direct, subsolver', direct', rfl⟩

end Choices

def arctanOnLine : RootProblem Float where
  manifold := euclidean [1]
  bundle := .tangent (euclidean [1])
  map := SampleFunction.procedure (euclidean [1]) (.rule .arctan) .fill "arctan" .allocating
  derivative p := liftM (DerivativeRule.arctan.operator (euclidean [1]) p)

def directFunction : DirectionFunction Float where
  name := "direct"
  description := .string "direct"
  allocating := Subsolver.direct
  inPlace := Subsolver.directInto

def dampedOptions (given : GivenSubproblem Float) (substate : GivenSubstate Float) :
    Options Float where
  subproblem := given
  substate := substate
  stepsize := some (.damped Stepsize.defaultDamping)

def directEquation : NewtonEquation Float := { check := .off }

def directRun : Run Float (LinearState Float) where
  stop := LinearState.defaultStop
  own := { method := .string "direct", tolerance := .real 1e-5 }

end Newton

end ManifoldOpt

import ManifoldOpt.Counting
import ManifoldOpt.Damping
import ManifoldOpt.Newton.Equation
import ManifoldOpt.Subgradient

/-!
Newton's method for maps into vector bundles. Every step solves the Newton equation at the iterate
and goes along the solution by a damping factor. The equation is solved by a function of the caller,
which allocates the direction or fills a buffer, or by an inner solver that runs on the equation
posed at the iterate.
-/

set_option autoImplicit false

namespace ManifoldOpt

variable {α : Type} [Scalar α]

abbrev DirectionRule (α : Type) [Scalar α] :=
  RootProblem α → Frame α → Int → Attempt α (Trail α) (Option (Tensor α))

inductive FrameUse
  | nothing
  | sameness
  | everything
  deriving DecidableEq, Repr

structure DirectionFunction (α : Type) [Scalar α] where
  name : String
  description : Literal α
  allocating : DirectionRule α
  inPlace : Outcome α (Tensor α) → DirectionRule α
  uses : FrameUse := .everything

inductive InnerRun (α : Type)
  | linear (r : Run α (LinearState α))
  | counting (r : Run α (CountingState α))

inductive Subsolver (α : Type) [Scalar α]
  | allocating (f : DirectionFunction α)
  | inPlace (f : DirectionFunction α)
  | nested (equation : NewtonEquation α) (inner : InnerRun α)

namespace Subsolver

def mode : Subsolver α → SubproblemMode
  | allocating _ => .allocating
  | inPlace _ => .inPlace
  | nested _ _ => .solver

def direct : DirectionRule α := fun problem frame _ => do
  let v ← problem.newtonVector .off frame.point frame.residualPoint frame.transport
  return some v

def directInto (buffer : Outcome α (Tensor α)) : DirectionRule α := fun problem frame _ => do
  let v ← problem.newtonVector .off frame.point frame.residualPoint frame.transport
  let copied ← copyTo (← buffer) v
  return some copied

end Subsolver

structure NewtonState (α : Type) [Scalar α] where
  point : Tensor α
  direction : Tensor α
  trial : Tensor α
  /-- Whether the residual is taken at the iterate rather than at the trial point. -/
  isSame : Bool := true
  alpha : α := 1
  theta : α := Default.initialContraction
  subsolver : Subsolver α
  stepsize : Stepsize α
  retraction : Literal α
  transport : Literal α

namespace NewtonState

def chosenTransport (bundle : Bundle α) : Literal α → Literal α
  | .none => .transport bundle.defaultTransport
  | given => given

def start (M : Manifold α) (bundle : Bundle α) (p : Tensor α) (subsolver : Subsolver α)
    (buffer : Option (Tensor α)) (stepsize : Option (Stepsize α))
    (retraction transport : Literal α) : NewtonState α where
  point := p
  trial := p
  direction := buffer.getD p.zerosLike
  subsolver := subsolver
  stepsize := stepsize.getD (.damped Stepsize.defaultDamping)
  retraction := SubgradientState.chosenRetraction M retraction
  transport := chosenTransport bundle transport

def frame (s : NewtonState α) : Frame α := ⟨s.point, some s.trial, s.isSame, s.transport⟩

def notes : DampingNotes α (NewtonState α) where
  setAlpha a s := { s with alpha := a }
  setTheta t s := { s with theta := t }
  setSame b s := { s with isSame := b }
  setTrial p s := { s with trial := p }

def replacePoint (p : Tensor α) (s : NewtonState α) : Outcome α (NewtonState α) := do
  return { s with point := ← copyTo s.point p }

end NewtonState

namespace InnerRun

def solveFrom (e : NewtonEquation α) (p : Tensor α) :
    Attempt α (Stage α (InnerRun α)) (Tensor α) := do
  let _ ← e.manifold
  match ← Stage.getState with
  | .linear r =>
    Stage.within (fun _ => r) (fun r _ => .linear r) do
      Running.modifyOwn (LinearState.replaceVector p)
      (LinearState.solver e).solve Default.solveAllowance none
      match (← Running.getOwn).vector with
      | some v => return v
      | none => throw .missingArray
  | .counting r =>
    Stage.within (fun _ => r) (fun r _ => .counting r) do
      let moved ← (← Running.getOwn).replacePoint p
      Running.modifyOwn fun _ => moved
      (CountingState.solver e.manifold none).solve Default.solveAllowance none
      return (← Running.getOwn).point

end InnerRun

namespace Newton

open Running

abbrev Stepping (α : Type) [Scalar α] := Running α (NewtonState α)

def pose (problem : RootProblem α) (frame : Frame α) (equation : NewtonEquation α)
    (inner : InnerRun α) : Stepping α (NewtonEquation α) := do
  Stage.within (fun _ => equation)
    (fun e (r : Run α (NewtonState α)) =>
      { r with own := { r.own with subsolver := .nested e inner } })
    (NewtonEquation.poseAt problem frame)
  match (← getOwn).subsolver with
  | .nested e _ => return e
  | _ => return equation

def solveNested (problem : RootProblem α) (frame : Frame α) (equation : NewtonEquation α)
    (inner : InnerRun α) : Stepping α (Tensor α) := do
  let e ← pose problem frame equation inner
  Stage.within (fun _ => inner)
    (fun inner (r : Run α (NewtonState α)) =>
      { r with own := { r.own with subsolver := .nested e inner } })
    (InnerRun.solveFrom e frame.point.zerosLike)

def allocatedDirection (f : DirectionFunction α) (problem : RootProblem α) (frame : Frame α)
    (k : Int) : Attempt α (Trail α) (Tensor α) := do
  match ← f.allocating problem frame k with
  | some v => return v
  | none => throw .missingArray

def bufferedDirection (f : DirectionFunction α) (buffer : Outcome α (Tensor α))
    (problem : RootProblem α) (frame : Frame α) (k : Int) : Attempt α (Trail α) (Tensor α) := do
  match ← f.inPlace buffer problem frame k with
  | some v => return v
  | none => throw (.forgottenBuffer f.name)

/-- The direction for the residual at the evaluation point, with the derivative at the iterate. -/
def computeDirection (problem : RootProblem α) (k : Int) : Stepping α (Tensor α) := do
  let s ← getOwn
  match s.subsolver with
  | .nested equation inner => solveNested problem s.frame equation inner
  | .allocating f => Stage.onTrail (allocatedDirection f problem s.frame k)
  | .inPlace f =>
    let buffer := if s.isSame then s.direction else s.point.zerosLike
    Stage.onTrail (bufferedDirection f (.ok buffer) problem s.frame k)

def stepLength (problem : RootProblem α) (k : Int) : Stepping α α := do
  let s ← getOwn
  match s.stepsize with
  | .rule r => r.lengthAt problem.manifold s.point s.direction (.int k)
  | .damped d =>
    DampingSearch.run
      { notes := NewtonState.notes, manifold := problem.manifold, point := s.point
        direction := s.direction, retraction := s.retraction
        simplified := computeDirection problem k, iteration := k } d
  | .inert _ => throw .notNumber

def setUp : Stepping α Unit := do
  modifyOwn fun s =>
    { s with trial := s.point, isSame := true, alpha := 1, theta := Default.initialContraction }
  setStepsize none

def step (problem : RootProblem α) (k : Int) : Stepping α Unit := do
  modifyOwn fun s => { s with isSame := true }
  let v ← computeDirection problem k
  modifyOwn fun s => { s with direction := v }
  let length ← stepLength problem k
  setStepsize (some length)
  let s ← getOwn
  Stage.emit (.damped k length s.theta)
  let p ← problem.manifold.retract s.point (s.direction.scale length) s.retraction
  modifyOwn fun s => { s with point := p, trial := p, isSame := true }

def solver (problem : RootProblem α) (cost : Option (Tensor α → Attempt α (Trail α) α)) :
    Solver α (NewtonState α) where
  name := "Vector bundle Newton method"
  setUp := setUp
  step := step problem
  view s := {
    manifold := .ok problem.manifold
    iterate := .ok (some s.point)
    direction := .ok (some s.direction)
    cost }

def defaultStop : StoppingRule α := .after Default.newtonIterations

inductive GivenSubproblem (α : Type) [Scalar α]
  | value (v : Literal α)
  | function (f : DirectionFunction α)
  | equation (description : Literal α) (e : NewtonEquation α)

inductive GivenSubstate (α : Type)
  | value (v : Literal α)
  | solver (inner : InnerRun α)

namespace GivenSubproblem

def literal : GivenSubproblem α → Literal α
  | value v => v
  | function f => f.description
  | equation description _ => description

end GivenSubproblem

def chooseSubsolver : GivenSubproblem α → GivenSubstate α → Outcome α (Subsolver α)
  | .value .none, _ => .error (.configuration "sub_problem" .none .subproblemRequired)
  | _, .value .none => .error (.configuration "sub_state" .none .substateRequired)
  | .function f, .value (.evaluation .allocating) => .ok (.allocating f)
  | .function f, .value (.evaluation .inPlace) => .ok (.inPlace f)
  | other, .value (.evaluation _) =>
    .error (.configuration "sub_problem" other.literal .callable)
  | .equation _ e, .solver inner => .ok (.nested e inner)
  | other, .solver _ => .error (.configuration "sub_problem" other.literal .linearizable)
  | _, .value other => .error (.configuration "sub_state" other .substateKind)

structure Options (α : Type) [Scalar α] where
  subproblem : GivenSubproblem α
  substate : GivenSubstate α
  stop : Option (StoppingRule α) := none
  stepsize : Option (Stepsize α) := none
  buffer : Option (Tensor α) := none
  retraction : Literal α := .none
  transport : Literal α := .none
  record : Literal α := .none

def prepare (M : Manifold α) (bundle : Bundle α) (options : Options α) (p : Tensor α) :
    Outcome α (Run α (NewtonState α)) := do
  let subsolver ← chooseSubsolver options.subproblem options.substate
  return {
    stop := options.stop.getD defaultStop
    own := .start M bundle p subsolver options.buffer options.stepsize options.retraction
      options.transport }

def findZero (problem : RootProblem α) (options : Options α) (p : Tensor α) :
    Attempt α (Trail α) (Run α (NewtonState α)) := do
  let start ← prepare problem.manifold problem.bundle options p
  let recorder ← Recorder.ofOption options.record
  let (_, r) ← Stage.runFrom start ((solver problem none).solve Default.solveAllowance recorder)
  return r

end Newton

end ManifoldOpt

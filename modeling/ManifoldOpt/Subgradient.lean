import ManifoldOpt.Damping
import ManifoldOpt.Problem.Basic

/-!
The subgradient method. Every step goes from the iterate against one subgradient of the cost there.
Since a step need not lower the cost, the best point met so far is kept along with its cost, and is
the result.
-/

set_option autoImplicit false

namespace ManifoldOpt

variable {α : Type} [Scalar α]

structure DampingTraces (α : Type) where
  alpha : Option α := none
  theta : Option α := none
  isSame : Option Bool := none
  trial : Option (Tensor α) := none

structure SubgradientState (α : Type) where
  point : Tensor α
  best : Tensor α
  bestCost : Option α := none
  direction : Tensor α
  /-- The point whose subgradient the direction is. -/
  directionPoint : Tensor α
  stepsize : Stepsize α
  retraction : Literal α
  traces : DampingTraces α := {}

namespace SubgradientState

def chosenRetraction (M : Manifold α) : Literal α → Literal α
  | .none => .retraction M.defaultRetraction
  | given => given

def start (M : Manifold α) (p : Tensor α) (buffer : Option (Tensor α))
    (stepsize : Option (Stepsize α)) (retraction : Literal α) : SubgradientState α where
  point := p
  best := p
  direction := buffer.getD p.zerosLike
  directionPoint := p
  stepsize := stepsize.getD Stepsize.unit
  retraction := chosenRetraction M retraction

def notes : DampingNotes α (SubgradientState α) where
  setAlpha a s := { s with traces := { s.traces with alpha := some a } }
  setTheta t s := { s with traces := { s.traces with theta := some t } }
  setSame b s := { s with traces := { s.traces with isSame := some b } }
  setTrial p s := { s with traces := { s.traces with trial := some p } }

def replacePoint (p : Tensor α) (s : SubgradientState α) : Outcome α (SubgradientState α) := do
  return { s with point := ← copyTo s.point p }

end SubgradientState

namespace Subgradient

open Running

abbrev Stepping (α : Type) := Running α (SubgradientState α)

def stepLength (M : Manifold α) (k : Int) : Stepping α α := do
  let s ← getOwn
  match s.stepsize with
  | .rule r => r.lengthAt M s.point s.direction (.int k)
  | .damped d =>
    DampingSearch.run
      { notes := SubgradientState.notes, manifold := M, point := s.point
        direction := s.direction, retraction := s.retraction
        simplified := throw .noAttribute, iteration := k } d
  | .inert _ => throw .notNumber

def setUp (problem : CostProblem α) : Stepping α Unit := do
  modifyOwn fun s => { s with best := s.point }
  let s ← getOwn
  let cost ← Stage.onTrail (problem.costAt s.best)
  modifyOwn fun s =>
    { s with bestCost := some cost, directionPoint := s.point, direction := s.point.zerosLike }
  setStepsize none

def keepBest (cost : α) : Stepping α Unit := do
  let s ← getOwn
  match s.bestCost with
  | none => throw .notNumber
  | some best =>
    if cost < best then
      modifyOwn fun s => { s with best := s.point, bestCost := some cost }

def step (problem : CostProblem α) (k : Int) : Stepping α Unit := do
  modifyOwn fun s => { s with directionPoint := s.point }
  let s ← getOwn
  let v ← Stage.onTrail (problem.subgradientInto s.direction s.point)
  modifyOwn fun s => { s with direction := v }
  let length ← stepLength problem.manifold k
  setStepsize (some length)
  let s ← getOwn
  let p ← problem.manifold.retract s.point (s.direction.scale (-length)) s.retraction
  modifyOwn fun s => { s with point := p }
  let cost ← Stage.onTrail (problem.costAt p)
  keepBest cost

def plainView (M : Manifold α) (s : SubgradientState α) : View α where
  manifold := .ok M
  iterate := .ok (some s.point)
  direction := .ok (some s.direction)
  subgradient := .ok (s.directionPoint, s.direction)

def view (problem : CostProblem α) (cost : Option (Tensor α → Attempt α (Trail α) α))
    (s : SubgradientState α) : View α :=
  { plainView problem.manifold s with cost := cost }

def solver (problem : CostProblem α) : Solver α (SubgradientState α) where
  name := "Subgradient Method"
  setUp := setUp problem
  step := step problem
  view := view problem (some problem.costAt)

def solverFor (problem : Problem α) : Solver α (SubgradientState α) :=
  { solver problem.asCost with view := view problem.asCost problem.costAt? }

def defaultStop : StoppingRule α := .after Default.subgradientIterations

end Subgradient

inductive StartPoint (α : Type)
  | array (p : Tensor α)
  | number (x : Number α)
  | random (seed : Int)

namespace Subgradient

def firstEntry (p : Tensor α) : Outcome α (Tensor α) := do
  match ← p.slices with
  | first :: _ => return first
  | [] => throw .missingAxis

def atLeastVector (x : Tensor α) : Tensor α := if x.shape = [] then x.ravel else x

/-- A problem on numbers as a problem on vectors of one. A function that fills a buffer gets a zero
for it. -/
def liftNumbers (problem : CostProblem α) : CostProblem α where
  manifold := problem.manifold
  cost p := do
    let x ← firstEntry p
    problem.cost x
  subgradient := .allocating fun p => do
    let x ← firstEntry p
    match problem.subgradient with
    | .allocating f =>
      match ← f x with
      | some v => return some (atLeastVector v)
      | none => throw .notNumber
    | .inPlace name f =>
      match ← f (.ok (x.scale 0)) x with
      | some v => return some (atLeastVector v)
      | none => throw (.forgottenBuffer name)

structure Options (α : Type) where
  stop : Option (StoppingRule α) := none
  stepsize : Option (Stepsize α) := none
  buffer : Option (Tensor α) := none
  retraction : Literal α := .none
  record : Literal α := .none

def prepare (M : Manifold α) (options : Options α) (p : Tensor α) : Run α (SubgradientState α) where
  stop := options.stop.getD defaultStop
  own := .start M p options.buffer options.stepsize options.retraction

def minimizeFrom (problem : CostProblem α) (options : Options α) (p : Tensor α) :
    Attempt α (Trail α) (Run α (SubgradientState α)) := do
  let recorder ← Recorder.ofOption options.record
  let (_, r) ← Stage.runFrom (prepare problem.manifold options p)
    ((solver problem).solve Default.solveAllowance recorder)
  Trail.emit (.subgradientFinished r.own.bestCost)
  return r

def minimize (problem : CostProblem α) (options : Options α) :
    StartPoint α → Attempt α (Trail α) (Run α (SubgradientState α))
  | .array p => minimizeFrom problem options p
  | .number x => do
    minimizeFrom (liftNumbers problem) options (.vector [← x.toScalar])
  | .random seed => do
    minimizeFrom problem options (← problem.manifold.randomPoint seed none)

def bestNumber (r : Run α (SubgradientState α)) : Outcome α α := do
  let x ← firstEntry r.own.best
  x.number

end Subgradient

end ManifoldOpt

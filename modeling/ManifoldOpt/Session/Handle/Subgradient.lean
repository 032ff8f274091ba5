import ManifoldOpt.Session.Handle
import ManifoldOpt.Session.PlaneProblem

set_option autoImplicit false

namespace ManifoldOpt

namespace SubgradientState

open Handling

abbrev Stepping := Handling (SubgradientState Float)

def places : Places (SubgradientState Float) where
  point := (·.point)
  setPoint p s := { s with point := p }
  direction := (·.direction)
  retraction := (·.retraction)
  stepsize := (·.stepsize)
  notes := notes

def putBest (p : Tensor Float) (s : SubgradientState Float) : SubgradientState Float :=
  { s with best := p }

def putDirectionPoint (p : Tensor Float) (s : SubgradientState Float) : SubgradientState Float :=
  { s with directionPoint := p }

def putDirection (v : Tensor Float) (s : SubgradientState Float) : SubgradientState Float :=
  { s with direction := v }

structure Setting where
  space : Space
  problem : CostProblem Float
  plane : PlaneProblem

variable (setting : Setting)

def costAt (name : String) (point : SubgradientState Float → Tensor Float) : Stepping Float := do
  let s ← state
  match s.held.lookup name with
  | some (.planeArray x) => Stage.onTrail (setting.plane.cost x)
  | _ => Stage.onTrail (setting.problem.costAt (point s.own))

def setUpUnder : Stepping Unit := do
  copyPoint setting.space (·.point) "p_star" putBest
  let cost ← costAt setting "p_star" (·.best)
  write "cost_star" fun s => { s with bestCost := some cost }
  copyPoint setting.space (·.point) "p_subgradient" putDirectionPoint
  zeroAtPoint setting.space (·.point) "X" putDirection
  writeStepsize none

def lengthUnder (k : Int) : Stepping StepLength := do
  -- The state offers no directions at trial points.
  let simplified := calling "compute_direction" (throw .noAttribute)
  places.stepLength setting.space simplified k

def subgradientUnder : Stepping MixedArray := do
  let s ← state
  match s.operand "p" (·.point), setting.problem.subgradient with
  | .aside p, .allocating _ => Stage.onTrail (setting.plane.field p)
  | .aside _, .inPlace _ _ => throw .notNumber
  | _, subgradient => do
    let buffer := (s.operand "X" (·.direction)).read .converted
    return .real (← Stage.onTrail (subgradient.evaluateWith buffer s.own.point))

def bestCostUnder (s : Overlaid (SubgradientState Float)) : Outcome Float (Number Float) :=
  match s.held.lookup "cost_star", s.own.bestCost with
  | some value, _ => value.compared
  | none, some cost => .ok (.real cost)
  | none, none => .error .notNumber

def stepUnder (k : Int) : Stepping Unit := do
  copyPoint setting.space (·.point) "p_subgradient" putDirectionPoint
  let v ← subgradientUnder setting
  placeMixed "X" putDirection v
  let length ← calling "stepsize" (lengthUnder setting k)
  writeLength length
  places.advance setting.space length.neg
  let cost ← costAt setting "p" (·.point)
  if (Number.real cost).lt (← bestCostUnder (← state)) then
    copyPoint setting.space (·.point) "p_star" putBest
    write "cost_star" fun s => { s with bestCost := some cost }

def assign (name : String) (value : Literal Float) (s : SubgradientState Float) :
    SubgradientState Float :=
  let array := value.assignedTensor?
  let number := value.assignedScalar?
  match name with
  | "p" => { s with point := array.getD s.point }
  | "X" => { s with direction := array.getD s.direction }
  | "p_star" => { s with best := array.getD s.best }
  | "p_subgradient" => { s with directionPoint := array.getD s.directionPoint }
  | "cost_star" => { s with bestCost := number }
  | "retraction_method" => { s with retraction := value }
  | "stepsize" => { s with stepsize := .inert value }
  | "alpha" => { s with traces := { s.traces with alpha := number } }
  | "theta" => { s with traces := { s.traces with theta := number } }
  | "is_same" => { s with traces := { s.traces with isSame := some value.isTruthy } }
  | "p_trial" => { s with traces := { s.traces with trial := array } }
  | _ => s

end SubgradientState

open SubgradientState in
def Handle.subgradient (d : Descriptions) (problem : Problem Float) (kind : SpaceKind)
    (plane : PlaneProblem) : Handle (SubgradientState Float) :=
  let solver := Subgradient.solverFor problem
  let setting : Setting :=
    { space := { kind, manifold := problem.manifold }, problem := problem.asCost, plane }
  { name := solver.name
    space := .ok setting.space
    setUp := setUpUnder setting
    step := stepUnder setting
    view := solver.view
    moveTo := Handling.replacePoint (·.point) fun p s => { s with point := p }
    stepLength := lengthUnder setting
    result s := .ok (some s.best)
    attributes s := s.shown ++ [("retraction_method", .ofLiteral s.retraction)]
    answers _ := [("get_iterate", .ok "p"), ("get_direction", .ok "X"),
      ("get_solver_result", .ok "p_star"), ("get_subgradient", .ok "X"),
      ("get_subgradient_point", .ok "p_subgradient")]
    callable := ["stepsize"]
    assign := SubgradientState.assign
    parameters s := s.own.parameters d.stepsize
    shown := SubgradientState.shown }

end ManifoldOpt

import ManifoldOpt.Session.Handle
import ManifoldOpt.Session.PlaneProblem

set_option autoImplicit false

namespace ManifoldOpt

def Subsolver.function? : Subsolver Float → Option (DirectionFunction Float)
  | .allocating f => some f
  | .inPlace f => some f
  | .nested _ _ => none

namespace NewtonState

open Handling

abbrev Stepping := Handling (NewtonState Float)

def places : Places (NewtonState Float) where
  point := (·.point)
  setPoint p s := { s with point := p }
  direction := (·.direction)
  retraction := (·.retraction)
  stepsize := (·.stepsize)
  notes := notes

def putTrial (p : Tensor Float) (s : NewtonState Float) : NewtonState Float :=
  { s with trial := p }

/-- A problem as a session sees it: with the space it lies in, and as it is in the plane. -/
structure Setting where
  space : Space
  problem : RootProblem Float
  plane : PlaneProblem

variable (setting : Setting)

def sameness (s : Overlaid (NewtonState Float)) : Outcome Float Bool :=
  match s.held.lookup "is_same" with
  | some (.given (.array x)) =>
    match x.entries with
    | [n] => .ok (n != 0)
    | _ => .error .ambiguous
  | _ => .ok s.own.isSame

def evaluationName (s : Overlaid (NewtonState Float)) : Outcome Float String := do
  return if ← sameness s then "p" else "p_trial"

def isUsable (operand : Operand) : Bool := operand.array?.isSome

/-- The frame that a function with the given use of it sees, and the problem, whose map fails where
it would come to look at a point that is not usable. -/
def framed (use : FrameUse) (s : Overlaid (NewtonState Float)) :
    Outcome Float (RootProblem Float × Frame Float) := do
  let isSame ← match use, sameness s with
    | .nothing, isSame => pure (isSame.toOption.getD true)
    | _, isSame => isSame
  let trial := s.operand "p_trial" (·.trial)
  let noTrial := trial matches .missing
  let usable := isUsable (s.operand "p" (·.point)) && (isSame || noTrial || isUsable trial)
  let frame : Frame Float :=
    ⟨s.own.point, if noTrial then none else some s.own.trial, isSame, s.own.transport⟩
  let blind := { setting.problem with map := .allocating fun _ => throw .notNumber }
  return (if usable then setting.problem else blind, frame)

/-- The direction that a function computes. Where the residual is taken in the plane, so is the
solution of the equation. -/
def directionBy (f : DirectionFunction Float) (s : Overlaid (NewtonState Float))
    (compute : RootProblem Float → Frame Float → Attempt Float (Trail Float) (Tensor Float)) :
    Stepping MixedArray := do
  let (problem, frame) ← framed setting f.uses s
  match f.uses, frame.isSame, s.operand "p" (·.point) with
  | .everything, true, .aside p => Stage.onTrail (setting.plane.newtonVector problem p)
  | _, _, _ => do
    return .real (← Stage.onTrail (compute problem frame))

def directionInto (f : Option (DirectionFunction Float)) (k : Int) : Stepping MixedArray := do
  let s ← state
  let p := s.operand "p" (·.point)
  let buffer ← if ← sameness s then pure ((s.operand "X" (·.direction)).read .converted)
    else do
      let v ← setting.space.compute { arrays := [("x", p)] } "zero_vector"
      pure (.ok v)
  match f, s.covers "sub_problem" with
  | some f, false =>
    directionBy setting f s fun problem frame => Newton.bufferedDirection f buffer problem frame k
  | _, _ => throw .notNumber

/-- The direction of step `k`. With another mode than the one chosen, a buffer is used. -/
def directionUnder (k : Int) : Stepping MixedArray := do
  let s ← state
  if s.covers "sub_problem_mode" then directionInto setting s.own.subsolver.function? k
  else
    match s.own.subsolver with
    | .inPlace f => directionInto setting (some f) k
    | .allocating f => do
      if s.covers "sub_problem" then throw .notNumber
      directionBy setting f s fun problem frame => Newton.allocatedDirection f problem frame k
    | .nested equation inner => do
      if s.covers "sub_problem" then throw .noAttribute
      let (problem, frame) ← framed setting .everything s
      if s.covers "sub_state" then do
        let _ ← onOwn (Newton.pose problem frame equation inner)
        throw .noAttribute
      return .real (← onOwn (Newton.solveNested problem frame equation inner))

def lengthUnder (k : Int) : Stepping StepLength :=
  let simplified : Stepping (Tensor Float) := do
    match ← calling "compute_direction" (directionUnder setting k) with
    | .real v => return v
    | .plane _ => throw .notNumber
  places.stepLength setting.space simplified k

def setUpUnder : Stepping Unit := do
  copyPoint setting.space (·.point) "p_trial" putTrial
  write "is_same" fun s => { s with isSame := true }
  write "alpha" fun s => { s with alpha := 1 }
  write "theta" fun s => { s with theta := Default.initialContraction }
  writeStepsize none

def noteDamping (k : Int) (length : StepLength) : Stepping Unit := do
  let s ← state
  match s.held.lookup "theta" with
  | some theta => theta.requireDigits
  | none => pure ()
  match length with
  | .real x => Stage.emit (.damped k x s.own.theta)
  | .plane z => Stage.emit (.dampedAside k z.re z.im s.own.theta)

def stepUnder (k : Int) : Stepping Unit := do
  write "is_same" fun s => { s with isSame := true }
  let v ← calling "compute_direction" (directionUnder setting k)
  placeMixed "X" (fun v s => { s with direction := v }) v
  let length ← calling "stepsize" (lengthUnder setting k)
  writeLength length
  noteDamping k length
  places.advance setting.space length
  copyPoint setting.space (·.point) "p_trial" putTrial
  write "is_same" fun s => { s with isSame := true }

def assign (name : String) (value : Literal Float) (s : NewtonState Float) : NewtonState Float :=
  let array := value.assignedTensor?
  let number := value.assignedScalar?.getD (0 / 0)
  match name with
  | "p" => { s with point := array.getD s.point }
  | "X" => { s with direction := array.getD s.direction }
  | "p_trial" => { s with trial := array.getD s.trial }
  | "is_same" => { s with isSame := value.isTruthy }
  | "alpha" => { s with alpha := number }
  | "theta" => { s with theta := number }
  | "retraction_method" => { s with retraction := value }
  | "vector_transport_method" => { s with transport := value }
  | "stepsize" => { s with stepsize := .inert value }
  | _ => s

def shownSubsolver (d : Descriptions) : Subsolver Float → List (String × Shown)
  | .allocating _ => [("sub_state", .text (Evaluation.allocating).name)]
  | .inPlace _ => [("sub_state", .text (Evaluation.inPlace).name)]
  | .nested _ inner =>
    let summary := match inner with
      | .linear r => r.summary "Newton equation solver" r.own.parameters
      | .counting r => r.summary "Counting solver" []
    [("sub_problem", .text d.equation), ("sub_state", .text summary)]

def parametersUnder (unnamed : String) (s : Overlaid (NewtonState Float)) :
    Outcome Float (List String) := do
  let lines ← s.own.parameters unnamed
  if s.covers "sub_problem_mode" then throw .noAttribute
  return lines

end NewtonState

open NewtonState in
def Handle.newton (d : Descriptions) (problem : Problem Float) (kind : SpaceKind)
    (plane : PlaneProblem) : Handle (NewtonState Float) :=
  let solver := Newton.solver problem.asRoot problem.costAt?
  let setting : Setting :=
    { space := { kind, manifold := problem.manifold }, problem := problem.asRoot, plane }
  { name := solver.name
    space := .ok setting.space
    setUp := setUpUnder setting
    step := stepUnder setting
    view := solver.view
    moveTo := Handling.replacePoint (·.point) fun p s => { s with point := p }
    stepLength := lengthUnder setting
    direction := directionUnder setting
    result s := .ok (some s.point)
    attributes s := s.shownOwn ++ shownSubsolver d s.subsolver ++
      [("retraction_method", .ofLiteral s.retraction),
        ("vector_transport_method", .ofLiteral s.transport),
        ("sub_problem_mode", .text s.subsolver.mode.name)]
    answers s := [("get_iterate", .ok "p"), ("get_direction", .ok "X"),
      ("get_solver_result", s.through "get_iterate" "p"),
      ("evaluation_point", evaluationName s)]
    callable := ["stepsize", "sub_problem", "compute_direction"]
    readOnly := ["evaluation_point"]
    assign := NewtonState.assign
    parameters := parametersUnder d.stepsize
    shown := NewtonState.shown }

end ManifoldOpt

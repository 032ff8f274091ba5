import ManifoldOpt.Session.Handle
import ManifoldOpt.Session.Handle.Counting

set_option autoImplicit false

namespace ManifoldOpt

structure EquationDesk where
  equation : NewtonEquation Float
  inner : Option (InnerRun Float)

inductive EquationCommand
  | pose (p : Tensor Float) (trial : Option (Tensor Float)) (transport : Literal Float)
  | manifold
  | coordinates (v : Operand)
  | vector (c : Operand)
  | residual (v : Operand)
  | moveTo (v : Operand) (space : Option (Manifold Float))
  | setMethod (method : Literal Float)
  | call (name : String)
  | inner (command : Command)

namespace EquationDesk

abbrev Working := Attempt Float (Stage Float EquationDesk)

def shown (d : EquationDesk) : Outcome Float Shown := .ok (.ofOption InnerRun.shown d.inner)

def setMethod (method : Literal Float) : Option (InnerRun Float) → Outcome Float (InnerRun Float)
  | none => .error .noAttribute
  | some (.linear r) => .ok (.linear { r with own := { r.own with method } })
  | some (.counting r) => .ok (.counting r)

def counting (e : NewtonEquation Float) : Handle (CountingState Float) :=
  .counting (e.manifold.map fun M => { kind := .euclidean, manifold := M }) none

def performInner (command : Command) : Working Shown := do
  let d ← Stage.getState
  match d.inner with
  | none => throw .noAttribute
  | some (.linear r) =>
    Stage.within (fun _ => r) (fun r d => { d with inner := some (.linear r) })
      (Handling.uncovered ((Handle.linear d.equation).perform command))
  | some (.counting r) =>
    Stage.within (fun _ => r) (fun r d => { d with inner := some (.counting r) })
      (Handling.uncovered ((counting d.equation).perform command))

def call (name : String) (d : EquationDesk) : Outcome Float Shown :=
  match d.inner with
  | none => .error .noAttribute
  | some (.linear r) => (Handle.linear d.equation).call r name
  | some (.counting r) => (counting d.equation).call r name

def taken (d : EquationDesk) (operand : Operand) : Outcome Float (Tensor Float) := do
  let _ ← d.equation.posed
  operand.read .taken

def pose (problem : RootProblem Float) (frame : Frame Float) : Working Shown := do
  Stage.within EquationDesk.equation (fun e d => { d with equation := e })
    (NewtonEquation.poseAt problem frame)
  match (← Stage.getState).equation.system with
  | some system =>
    return .fields (("self", .done) :: system.shown ++ [("at", .array frame.evaluationPoint)])
  | none => return .nothing

def perform (problem : RootProblem Float) (command : EquationCommand) : Working Shown := do
  let d ← Stage.getState
  match command with
  | .pose p trial transport =>
    let chosen := NewtonState.chosenTransport problem.bundle transport
    pose problem ⟨p, trial, trial.isNone, chosen⟩
  | .manifold => return .text (← d.equation.manifold).label
  | .coordinates v => return .array (← d.equation.coordinates (← d.taken v))
  | .vector c => return .array (← d.equation.vector (← d.taken c))
  | .residual v => return .number (← d.equation.residualNorm (← d.taken v))
  | .moveTo v space =>
    let _ ← space.elim d.equation.manifold .ok
    performInner (.moveTo v)
  | .setMethod method =>
    let inner ← setMethod method d.inner
    Stage.modifyState fun d => { d with inner := some inner }
    return .nothing
  | .call name => return ← d.call name
  | .inner command => performInner command

def transcript (problem : RootProblem Float) (commands : List (Outcome Float EquationCommand))
    (start : EquationDesk) : Shown × Trail Float :=
  let attempts := commands.map fun (command : Outcome Float EquationCommand) =>
    (do perform problem (← command) : Working Shown)
  let (values, trail) := Stage.transcript shown attempts ⟨{}, start⟩
  (.ofOutcome .items values, trail)

end EquationDesk

end ManifoldOpt

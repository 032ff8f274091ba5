import ManifoldOpt.Newton.System
import ManifoldOpt.Solver.Run

/-!
The Newton equation as a problem of its own, posed anew at every point of an outer run, and the
solver that works on it in coordinates. The unknown is a tangent vector at the point; the tangent
space counts as the arrays of the point's shape.
-/

set_option autoImplicit false

namespace ManifoldOpt

variable {α : Type} [Scalar α]

/-- What the Newton equation is posed at: the iterate, and the trial point, if there is one, at which
the residual is taken instead unless the two are the same. -/
structure Frame (α : Type) where
  point : Tensor α
  trial : Option (Tensor α)
  isSame : Bool
  transport : Literal α

namespace Frame

def residualPoint (frame : Frame α) : Option (Tensor α) :=
  if frame.isSame then none else frame.trial

def evaluationPoint (frame : Frame α) : Tensor α :=
  if frame.isSame then frame.point else frame.trial.getD frame.point

end Frame

structure NewtonEquation (α : Type) [Scalar α] where
  check : ConditionCheck α
  source : Option (RootProblem α × Tensor α) := none
  system : Option (NewtonSystem α) := none

namespace NewtonEquation

abbrev Posing (α : Type) [Scalar α] := Attempt α (Stage α (NewtonEquation α))

def poseAt (problem : RootProblem α) (frame : Frame α) : Posing α Unit := do
  Stage.modifyState fun e => { e with source := some (problem, frame.point) }
  let system ← Stage.onTrail
    (problem.newtonSystem frame.point frame.residualPoint frame.transport)
  Stage.modifyState fun e => { e with system := some system }
  let e ← Stage.getState
  e.check.run "NewtonEquationSubproblem" system.matrix

def posed (e : NewtonEquation α) : Outcome α (RootProblem α × Tensor α × NewtonSystem α) :=
  match e.source, e.system with
  | some (problem, base), some system => .ok (problem, base, system)
  | _, _ => .error .notLinearized

def manifold (e : NewtonEquation α) : Outcome α (Manifold α) := do
  let (_, base, _) ← e.posed
  if base.shape.isEmpty then throw .noExtent
  if base.shape.contains 0 then
    throw (.euclideanExtent (base.shape.map fun n : Nat => .int n))
  return euclidean base.shape

def coordinates (e : NewtonEquation α) (v : Tensor α) : Outcome α (Tensor α) := do
  let (problem, base, system) ← e.posed
  problem.manifold.coordinates base v (some system.basis)

def vector (e : NewtonEquation α) (c : Tensor α) : Outcome α (Tensor α) := do
  let (problem, base, system) ← e.posed
  problem.manifold.vector base c (some system.basis)

def residualNorm (e : NewtonEquation α) (v : Tensor α) : Outcome α α := do
  let (_, _, system) ← e.posed
  let c ← e.coordinates v
  let image ← system.matrix.apply c
  let rest ← image.sub system.value
  return rest.length

end NewtonEquation

structure LinearState (α : Type) where
  method : Literal α
  tolerance : Literal α
  vector : Option (Tensor α) := none

namespace LinearState

def start (method tolerance : Literal α) : Outcome α (LinearState α) :=
  match method with
  | .string "direct" => .ok { method, tolerance }
  | .string "bicgstab" => .ok { method, tolerance }
  | .string "gmres" => .ok { method, tolerance }
  | other => .error (.configuration "method" other .linearMethod)

def replaceVector (v : Tensor α) (s : LinearState α) : LinearState α := { s with vector := some v }

def step (e : NewtonEquation α) (k : Int) : Running α (LinearState α) Unit := do
  let s ← Running.getOwn
  let first ← match s.vector with
    | none => pure none
    | some v => do
      let c ← e.coordinates v
      pure (some c)
  match e.system with
  | none => do
    let _ ← start s.method s.tolerance
    throw .notNumber
  | some system => do
    let c ← solveBy s.method system.matrix system.value first s.tolerance
    let v ← e.vector c
    Running.modifyOwn fun s => { s with vector := some v }
    let rest ← e.residualNorm v
    Stage.emit (.residual k rest)

def solver (e : NewtonEquation α) : Solver α (LinearState α) where
  name := "Newton equation solver"
  level := .ok .debug
  step := step e
  view s := {
    manifold := e.manifold
    iterate := .ok s.vector
    direction := .ok s.vector }

/-- A direct solution is exact, so one step is enough unless more are asked for. -/
def defaultStop : StoppingRule α := .after 1

end LinearState

end ManifoldOpt

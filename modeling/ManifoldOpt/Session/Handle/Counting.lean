import ManifoldOpt.Session.Handle

set_option autoImplicit false

namespace ManifoldOpt

namespace CountingState

open Handling

abbrev Stepping := Handling (CountingState Float)

/-- Notes a call; what was put in the place of the notes takes no more of them. -/
def noteUnder (call : CountedCall) : Stepping Unit := do
  if (← state).covers "calls" then throw .noAttribute
  onOwn (note call)

def requireStepUnder (k : Int) : Stepping Unit := do
  match (← state).held.lookup "fail_at" with
  | some (.given (.array x)) =>
    match x.entries with
    | [n] => if (Number.real n).same (.int k) then throw (.callback "step failed")
    | _ => throw .ambiguous
  | _ => onOwn (requireStep k)

def stepUnder (k : Int) : Stepping Unit := do
  requireStepUnder k
  noteUnder (.step k)
  let p ← ((← state).operand "p" (·.point)).read .taken
  let v ← firstUnit p
  write "X" fun s => { s with direction := v }
  let moved ← p.add v
  write "p" fun s => { s with point := moved }
  writeStepsize (some 1)

def assign (name : String) (value : Literal Float) (s : CountingState Float) :
    CountingState Float :=
  match name with
  | "p" => { s with point := value.assignedTensor?.getD s.point }
  | "X" => { s with direction := value.assignedTensor?.getD s.direction }
  | "fail_at" => { s with failAt := value.number? }
  | _ => s

end CountingState

namespace Handle

open CountingState in
def counting (space : Outcome Float Space)
    (cost : Option (Tensor Float → Attempt Float (Trail Float) Float)) :
    Handle (CountingState Float) :=
  let solver := CountingState.solver (space.map Space.manifold) cost
  { name := solver.name
    space
    setUp := noteUnder .setUp
    step := stepUnder
    view := solver.view
    moveTo := Handling.replacePoint (·.point) fun p s => { s with point := p }
    result s := .ok (some s.point)
    attributes s := s.shown ++ [("fail_at", .ofOption Shown.ofNumber s.failAt)]
    answers s := [("get_iterate", .ok "p"), ("get_direction", .ok "X"),
      ("get_solver_result", s.through "get_iterate" "p")]
    assign := CountingState.assign
    shown := CountingState.shown }

def abstract (space : Outcome Float Space)
    (cost : Option (Tensor Float → Attempt Float (Trail Float) Float)) : Handle Unit :=
  let solver := abstractSolver (space.map Space.manifold) cost
  let iterate (s : Overlaid Unit) : Outcome Float String :=
    if s.covers "get_iterate" then .error .notNumber
    else .error (.unimplemented .exposeIterate)
  { name := solver.name
    space
    step _ := throw (.unimplemented .solverStep)
    view := solver.view
    moveTo _ := throw (.unimplemented .replaceIterate)
    result _ := .error (.unimplemented .exposeIterate)
    attributes _ := []
    answers s := [("get_iterate", .error (.unimplemented .exposeIterate)),
      ("get_direction", .error (.unimplemented .exposeDirection)),
      ("get_solver_result", iterate s)]
    shown _ := [] }

/-- Replaces the vector. A missing one has no shape to compare with that of the last one. -/
def moveVector (v : Operand) : Handling (LinearState Float) Unit := do
  let v ← match (← Handling.own).vector, v with
    | some _, .missing => throw .notNumber
    | _, v => v.read .converted
  Handling.onOwn (Running.modifyOwn (LinearState.replaceVector v))

def linear (e : NewtonEquation Float) : Handle (LinearState Float) :=
  let solver := LinearState.solver e
  { name := solver.name
    level := .debug
    space := .error .noAttribute
    step k := Handling.onOwn (LinearState.step e k)
    view := solver.view
    moveTo := moveVector
    result s := .ok s.vector
    attributes s := s.shown ++ [("method", .ofLiteral s.method), ("tol", .ofLiteral s.tolerance)]
    answers _ := [("get_iterate", .ok "X"), ("get_direction", .ok "X"),
      ("get_solver_result", .ok "X")]
    parameters s := .ok s.own.parameters
    shown := LinearState.shown }

end Handle

end ManifoldOpt

import ManifoldOpt.Solver.Run

set_option autoImplicit false

namespace ManifoldOpt

variable {α : Type} [Scalar α]

inductive CountedCall
  | setUp
  | step (k : Int)

structure CountingState (α : Type) where
  point : Tensor α
  direction : Tensor α
  calls : List CountedCall := []
  failAt : Option (Number α) := none

namespace CountingState

def start (p : Tensor α) (failAt : Option (Number α)) : CountingState α :=
  { point := p, direction := p.zerosLike, failAt }

def firstUnit (p : Tensor α) : Outcome α (Tensor α) :=
  match p.shape with
  | [] => .error .missingAxis
  | 0 :: _ => .error .missingAxis
  | _ :: rest => .ok (.tabulate p.shape fun i => if i < Shape.size rest then 1 else 0)

def failsAt (s : CountingState α) (k : Int) : Bool :=
  match s.failAt with
  | none => false
  | some n => n.le (.int k) && (Number.int k).le n

def note (call : CountedCall) : Running α (CountingState α) Unit :=
  Running.modifyOwn fun s => { s with calls := s.calls ++ [call] }

def requireStep (k : Int) : Running α (CountingState α) Unit := do
  if (← Running.getOwn).failsAt k then throw (.callback "step failed")

def advance : Running α (CountingState α) Unit := do
  let s ← Running.getOwn
  let v ← firstUnit s.point
  Running.modifyOwn fun s => { s with direction := v }
  let p ← s.point.add v
  Running.modifyOwn fun s => { s with point := p }
  Running.setStepsize (some 1)

def step (k : Int) : Running α (CountingState α) Unit := do
  requireStep k
  note (.step k)
  advance

def replacePoint (p : Tensor α) (s : CountingState α) : Outcome α (CountingState α) := do
  return { s with point := ← copyTo s.point p }

def solver (M : Outcome α (Manifold α)) (cost : Option (Tensor α → Attempt α (Trail α) α)) :
    Solver α (CountingState α) where
  name := "Counting solver"
  setUp := note .setUp
  step := step
  view s := {
    manifold := M
    iterate := .ok (some s.point)
    direction := .ok (some s.direction)
    cost }

end CountingState

def abstractSolver (M : Outcome α (Manifold α))
    (cost : Option (Tensor α → Attempt α (Trail α) α)) : Solver α Unit where
  name := "Solver"
  step _ := throw (.unimplemented .solverStep)
  view _ := {
    manifold := M
    iterate := .error (.unimplemented .exposeIterate)
    direction := .error (.unimplemented .exposeDirection)
    subgradient := .error .noAttribute
    cost }

end ManifoldOpt

import ManifoldOpt.Solver.Trail

/-!
Stopping criteria. A criterion is asked before every iteration, first for iteration zero, which
makes it forget what it remembers. Criteria combine to "any of" and "all of"; every part is asked
each time, so that none misses an iterate. What a criterion remembers lies in a memory of cells, one
per criterion, and a criterion that occurs twice has one cell.
-/

set_option autoImplicit false

namespace ManifoldOpt

variable {α : Type} [Scalar α]

inductive Criterion (α : Type)
  | base (cell : Nat)
  | afterIteration (cell : Nat) (limit : Number α)
  | changeLess (cell : Nat) (tolerance : Number α)
  | subgradientNormLess (cell : Nat) (tolerance : Number α)
  | any (cell : Nat) (parts : List (Criterion α))
  | all (cell : Nat) (parts : List (Criterion α))

/-- What a criterion remembers: why and when it fired, the last change it measured, and the iterate
it measures the next one from. -/
structure Cell (α : Type) where
  reason : List (Cause α) := []
  iteration : Int := -1
  lastChange : Option α := none
  previous : Option (Tensor α) := none

abbrev Memory (α : Type) := List (Cell α)

namespace Memory

def cell (m : Memory α) (index : Nat) : Cell α := m.getD index {}

def update (index : Nat) (f : Cell α → Cell α) (m : Memory α) : Memory α :=
  m.set index (f (m.cell index))

end Memory

namespace Cell

def reset (c : Cell α) : Cell α := { c with reason := [], iteration := -1 }

def fired (c : Cell α) : Bool := decide (0 ≤ c.iteration)

end Cell

namespace Criterion

def kind : Criterion α → CriterionKind
  | base _ => .base
  | afterIteration _ _ => .afterIteration
  | changeLess _ _ => .changeLess
  | subgradientNormLess _ _ => .subgradientNormLess
  | any _ _ => .any
  | all _ _ => .all

def index : Criterion α → Nat
  | base cell => cell
  | afterIteration cell _ => cell
  | changeLess cell _ => cell
  | subgradientNormLess cell _ => cell
  | any cell _ => cell
  | all cell _ => cell

def parts : Criterion α → List (Criterion α)
  | any _ parts => parts
  | all _ parts => parts
  | _ => []

def alternatives : Criterion α → List (Criterion α)
  | any _ parts => parts
  | c => [c]

def conditions : Criterion α → List (Criterion α)
  | all _ parts => parts
  | c => [c]

def anyOf (cell : Nat) (parts : List (Criterion α)) : Criterion α :=
  any cell (parts.flatMap alternatives)

def allOf (cell : Nat) (parts : List (Criterion α)) : Criterion α :=
  all cell (parts.flatMap conditions)

end Criterion

/-- The lines of a reason among others; a reason without lines takes an empty one. -/
def reasonLines (reason : List (Cause α)) : List (Cause α) :=
  if reason.isEmpty then [.blank] else reason

def Cause.isBlank : Cause α → Bool
  | .blank => true
  | _ => false

def joinAlternatives (reasons : List (List (Cause α))) : List (Cause α) :=
  (reasons.flatMap reasonLines).reverse.dropWhile Cause.isBlank |>.reverse

def joinConditions (reasons : List (List (Cause α))) : List (Cause α) :=
  reasons.flatMap reasonLines

namespace Criterion

abbrev Check (α : Type) := Attempt α (Stage α (Memory α))

def cellOf (c : Criterion α) : Check α (Cell α) := do
  return (← Stage.getState).cell c.index

def change (c : Criterion α) (f : Cell α → Cell α) : Check α Unit :=
  Stage.modifyState (Memory.update c.index f)

def fire (c : Criterion α) (k : Int) (reason : List (Cause α)) : Check α Bool := do
  c.change fun cell => { cell with reason := reason, iteration := k }
  Stage.emit (.fired c.kind k)
  return true

def checkBudget (c : Criterion α) (limit : Number α) (k : Int) : Check α Bool := do
  if k = 0 then c.change Cell.reset
  if limit.le (.int k) then c.fire k [.budget limit] else return false

def checkChange (c : Criterion α) (tolerance : Number α) (view : View α) (k : Int) :
    Check α Bool := do
  let M ← view.manifold
  let current ← view.iterate
  if k = 0 then
    c.change fun cell => { cell.reset with lastChange := none }
    let p ← view.point
    c.change fun cell => { cell with previous := some p }
    return false
  else
    let size ← distBetween M (← c.cellOf).previous current
    c.change fun cell => { cell with lastChange := some size, previous := current }
    if (Number.real size).lt tolerance then c.fire k [.change k size tolerance]
    else return false

def checkSubgradient (c : Criterion α) (tolerance : Number α) (view : View α) (k : Int) :
    Check α Bool := do
  if k = 0 then
    c.change Cell.reset
    return false
  else
    let M ← view.manifold
    let (p, v) ← view.subgradient
    let size ← M.normNumber p v
    if (Number.real size).lt tolerance then c.fire k [.subgradientNorm size tolerance]
    else return false

def reasons (parts : List (Criterion α)) (fired : List Bool) : Check α (List (List (Cause α))) := do
  let memory ← Stage.getState
  return (parts.zip fired).filterMap fun entry =>
    if entry.2 then some (memory.cell entry.1.index).reason else none

mutual

def check (view : View α) (k : Int) : Criterion α → Check α Bool
  | base _ => throw (.unimplemented .stoppingCheck)
  | afterIteration cell limit => checkBudget (afterIteration cell limit) limit k
  | changeLess cell tolerance => checkChange (changeLess cell tolerance) tolerance view k
  | subgradientNormLess cell tolerance =>
    checkSubgradient (subgradientNormLess cell tolerance) tolerance view k
  | any cell parts => do
    let whole := any cell parts
    if k = 0 then whole.change Cell.reset
    let fired ← checkEach view k parts
    if fired.any id then whole.fire k (joinAlternatives (← reasons parts fired))
    else return false
  | all cell parts => do
    let whole := all cell parts
    if k = 0 then whole.change Cell.reset
    let fired ← checkEach view k parts
    if fired.all id then whole.fire k (joinConditions (← reasons parts fired))
    else return false

def checkEach (view : View α) (k : Int) : List (Criterion α) → Check α (List Bool)
  | [] => return []
  | c :: rest => do
    let first ← check view k c
    let others ← checkEach view k rest
    return first :: others

end

mutual

/-- Whether the iterates rather than a budget ended the run. -/
def indicatesConvergence (memory : Memory α) : Criterion α → Bool
  | base _ => false
  | afterIteration _ _ => false
  | changeLess _ _ => true
  | subgradientNormLess _ _ => true
  | any _ parts => firedPartConverged memory parts
  | all _ parts => somePartConverged memory parts

def firedPartConverged (memory : Memory α) : List (Criterion α) → Bool
  | [] => false
  | c :: rest =>
    ((memory.cell c.index).fired && indicatesConvergence memory c) ||
      firedPartConverged memory rest

def somePartConverged (memory : Memory α) : List (Criterion α) → Bool
  | [] => false
  | c :: rest => indicatesConvergence memory c || somePartConverged memory rest

end

end Criterion

structure StoppingRule (α : Type) where
  root : Criterion α
  memory : Memory α

namespace StoppingRule

def ask (rule : StoppingRule α) (view : View α) (k : Int) :
    Attempt α (Stage α (Memory α)) Bool :=
  rule.root.check view k

def cell (rule : StoppingRule α) : Cell α := rule.memory.cell rule.root.index

def reason (rule : StoppingRule α) : List (Cause α) := rule.cell.reason

def converged (rule : StoppingRule α) : Bool := rule.root.indicatesConvergence rule.memory

def reset (rule : StoppingRule α) : StoppingRule α :=
  { rule with memory := rule.memory.update rule.root.index Cell.reset }

end StoppingRule

end ManifoldOpt

import ManifoldOpt.Stopping.Criterion

/-!
How stopping criteria are put together. A plan names the criteria and their parameters as given;
building it checks the parameters and gives every criterion a cell of its own, except that a doubled
criterion occurs twice with one cell.
-/

set_option autoImplicit false

namespace ManifoldOpt

variable {α : Type} [Scalar α]

inductive StoppingPlan (α : Type)
  | base
  | afterIteration (limit : Literal α)
  | changeLess (tolerance : Literal α)
  | subgradientNormLess (tolerance : Literal α)
  | any (parts : List (StoppingPlan α))
  | all (parts : List (StoppingPlan α))
  /-- Combined one after the other from the left, stopping when either fires. -/
  | either (parts : List (StoppingPlan α))
  | both (parts : List (StoppingPlan α))
  | doubledAny (part : StoppingPlan α)
  | doubledAll (part : StoppingPlan α)

namespace Criterion

def budget (cell : Nat) (given : Literal α) : Outcome α (Criterion α) := do
  let limit ← given.compared
  if limit.lt (.int 0) then throw (.configuration "max_iterations" given .nonNegative)
  return afterIteration cell limit

def tolerance (given : Literal α) : Outcome α (Number α) := do
  let bound ← given.compared
  if bound.le (.int 0) then throw (.configuration "tolerance" given .positive)
  return bound

/-- Combines with the criteria that follow, each combination taking a new cell. -/
def chain (combine : Nat → List (Criterion α) → Criterion α) (next : Nat) (first : Criterion α) :
    List (Criterion α) → Criterion α × Nat
  | [] => (first, next)
  | c :: rest => chain combine (next + 1) (combine next [first, c]) rest

def chained (combine : Nat → List (Criterion α) → Criterion α) :
    List (Criterion α) × Nat → Outcome α (Criterion α × Nat)
  | ([], _) => .error .argumentCount
  | (first :: rest, next) => .ok (chain combine next first rest)

end Criterion

namespace StoppingPlan

open Criterion

mutual

def build (next : Nat) : StoppingPlan α → Outcome α (Criterion α × Nat)
  | base => .ok (.base next, next + 1)
  | afterIteration limit => do
    return (← budget next limit, next + 1)
  | changeLess given => do
    return (.changeLess next (← tolerance given), next + 1)
  | subgradientNormLess given => do
    return (.subgradientNormLess next (← tolerance given), next + 1)
  | any parts => do
    let (criteria, cell) ← buildEach next parts
    return (anyOf cell criteria, cell + 1)
  | all parts => do
    let (criteria, cell) ← buildEach next parts
    return (allOf cell criteria, cell + 1)
  | either parts => do
    chained anyOf (← buildEach next parts)
  | both parts => do
    chained allOf (← buildEach next parts)
  | doubledAny part => do
    let (c, cell) ← build next part
    return (anyOf cell [c, c], cell + 1)
  | doubledAll part => do
    let (c, cell) ← build next part
    return (allOf cell [c, c], cell + 1)

def buildEach (next : Nat) : List (StoppingPlan α) → Outcome α (List (Criterion α) × Nat)
  | [] => .ok ([], next)
  | part :: rest => do
    let (c, afterFirst) ← build next part
    let (others, last) ← buildEach afterFirst rest
    return (c :: others, last)

end

def rule (plan : StoppingPlan α) : Outcome α (StoppingRule α) := do
  let (root, cells) ← plan.build 0
  return ⟨root, List.replicate cells {}⟩

end StoppingPlan

namespace StoppingRule

def after (n : Nat) : StoppingRule α := ⟨.afterIteration 0 (.int n), [{}]⟩

end StoppingRule

end ManifoldOpt

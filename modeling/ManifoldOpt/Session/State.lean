import ManifoldOpt.Session.Shown
import ManifoldOpt.Text.Status

set_option autoImplicit false

namespace ManifoldOpt

namespace Criterion

def shownCell (memory : Memory Float) (c : Criterion Float) : List (String × Shown) :=
  let cell := memory.cell c.index
  [("reason", .text (reasonText cell.reason)), ("at", .count cell.iteration),
    ("converged", .flag (c.indicatesConvergence memory))]

mutual

def shown (memory : Memory Float) : Criterion Float → Shown
  | base cell => .fields (shownCell memory (base cell))
  | afterIteration cell limit => .fields (shownCell memory (afterIteration cell limit))
  | changeLess cell tolerance =>
    .fields (shownCell memory (changeLess cell tolerance) ++
      [("last_change", .ofOption .number (memory.cell cell).lastChange)])
  | subgradientNormLess cell tolerance =>
    .fields (shownCell memory (subgradientNormLess cell tolerance))
  | any cell parts =>
    .fields (shownCell memory (any cell parts) ++ [("parts", .items (shownEach memory parts))])
  | all cell parts =>
    .fields (shownCell memory (all cell parts) ++ [("parts", .items (shownEach memory parts))])

def shownEach (memory : Memory Float) : List (Criterion Float) → List Shown
  | [] => []
  | c :: rest => shown memory c :: shownEach memory rest

end

end Criterion

def StoppingRule.shown (rule : StoppingRule Float) : Shown := rule.root.shown rule.memory

def Entry.shown : Entry Float → Shown
  | .count n => .count n
  | .number x => .number x
  | .point p => .array p
  | .nothing => .nothing

namespace Recorder

def shownColumn (entries : List (Entry Float)) : Shown := .items (entries.map Entry.shown)

def shownField (r : Recorder Float) (field : Literal Float) : Outcome Float Shown := do
  if !isName field then throw .notNumber
  return shownColumn (← r.get field.display)

def shown (r : Recorder Float) : Shown :=
  .fields (r.columns.map fun c => (c.1.name, shownColumn c.2))

end Recorder

def Run.shown {S : Type} (own : S → List (String × Shown)) (r : Run Float S) :
    List (String × Shown) :=
  [("iteration", .count r.iteration), ("last_stepsize", .ofOption .number r.lastStepsize),
    ("stop", r.stop.shown)] ++ own r.own ++
  r.recorder.elim [] fun recorder => [("records", recorder.shown)]

def Shown.whenSome {β : Type} (name : String) (f : β → Shown) (x : Option β) :
    List (String × Shown) :=
  x.elim [] fun v => [(name, f v)]

def DampingTraces.shown (t : DampingTraces Float) : List (String × Shown) :=
  Shown.whenSome "alpha" .number t.alpha ++ Shown.whenSome "theta" .number t.theta ++
  Shown.whenSome "is_same" .flag t.isSame ++ Shown.whenSome "p_trial" .array t.trial

def SubgradientState.shown (s : SubgradientState Float) : List (String × Shown) :=
  [("p", .array s.point), ("X", .array s.direction), ("p_star", .array s.best),
    ("cost_star", .ofOption .number s.bestCost), ("p_subgradient", .array s.directionPoint)] ++
  s.traces.shown

def CountedCall.shown : CountedCall → Shown
  | .setUp => .text "initialize"
  | .step k => .count k

def CountingState.shown (s : CountingState Float) : List (String × Shown) :=
  [("p", .array s.point), ("X", .array s.direction), ("calls", .items (s.calls.map (·.shown)))]

def LinearState.shown (s : LinearState Float) : List (String × Shown) :=
  [("X", .ofOption .array s.vector)]

def InnerRun.shown : InnerRun Float → Shown
  | .linear r => .fields (r.shown (·.shown))
  | .counting r => .fields (r.shown (·.shown))

namespace NewtonState

def shownOwn (s : NewtonState Float) : List (String × Shown) :=
  [("p", .array s.point), ("X", .array s.direction), ("p_trial", .array s.trial),
    ("is_same", .flag s.isSame), ("alpha", .number s.alpha), ("theta", .number s.theta)]

def shown (s : NewtonState Float) : List (String × Shown) :=
  s.shownOwn ++
  match s.subsolver with
  | .nested _ inner => [("sub", inner.shown)]
  | _ => []

end NewtonState

def NewtonSystem.shown (system : NewtonSystem Float) : List (String × Shown) :=
  [("matrix", .array system.matrix), ("rhs", .array system.value), ("basis", .array system.basis)]

end ManifoldOpt

import ManifoldOpt.Newton.Method
import ManifoldOpt.Report
import ManifoldOpt.Text.Event

set_option autoImplicit false

namespace ManifoldOpt

namespace Stepsize

def text? : Stepsize Float → Option String
  | rule .base => none
  | rule (.constant length kind) =>
    some ("ConstantStepsize(" ++ Float.text length ++ ", type=" ++ Quoted.text kind.name ++ ")")
  | rule (.decreasing length factor subtrahend exponent shift kind) =>
    some ("DecreasingStepsize(length=" ++ Float.text length ++ ", factor=" ++ Float.text factor ++
      ", subtrahend=" ++ Float.text subtrahend ++ ", exponent=" ++ Float.text exponent ++
      ", shift=" ++ shift.text ++ ", type=" ++ Quoted.text kind.name ++ ")")
  | damped d =>
    some ("AffineCovariantStepsize(theta_des=" ++ Float.text d.desired ++ ", theta_acc=" ++
      Float.text d.accepted ++ ")")
  | inert v => some v.text

def text (unnamed : String) (s : Stepsize Float) : String := s.text?.getD unnamed

end Stepsize

namespace Criterion

def mark (memory : Memory Float) (c : Criterion Float) : String :=
  if (memory.cell c.index).fired then "reached" else "not reached"

mutual

def summary (memory : Memory Float) : Criterion Float → String
  | base cell => "StoppingCriterion: " ++ mark memory (base cell)
  | afterIteration cell limit =>
    "Max Iteration " ++ limit.text ++ ": " ++ mark memory (afterIteration cell limit)
  | changeLess cell tolerance =>
    "|Δp| < " ++ tolerance.text ++ ": " ++ mark memory (changeLess cell tolerance)
  | subgradientNormLess cell tolerance =>
    "|∂f| < " ++ tolerance.text ++ ": " ++ mark memory (subgradientNormLess cell tolerance)
  | any cell parts =>
    "\n".intercalate
      (("Stop When _one_ of the following are fulfilled: " ++ mark memory (any cell parts)) ::
        summaries memory parts)
  | all cell parts =>
    "\n".intercalate
      (("Stop When _all_ of the following are fulfilled: " ++ mark memory (all cell parts)) ::
        summaries memory parts)

def summaries (memory : Memory Float) : List (Criterion Float) → List String
  | [] => []
  | c :: rest => ("    " ++ summary memory c) :: summaries memory rest

end

end Criterion

def StoppingRule.summary (rule : StoppingRule Float) : String := rule.root.summary rule.memory

def Recorder.text (r : Recorder Float) : String :=
  "Recorder(" ++ (fieldNames r.fields).text ++ ")"

def methodName : Literal Float → Outcome Float String
  | .retraction m => .ok m.name
  | .transport m => .ok m.name
  | .evaluation e => .ok e.name
  | _ => .error .noAttribute

def countText (count : Number Float) : Option String :=
  if Number.lt (.int 0) count then some ("After " ++ count.text ++ " iterations") else none

def Run.summaryAt {S : Type} (name : String) (progress : Option String)
    (parameters : List String) (r : Run Float S) : String :=
  "\n".intercalate
    (["# Solver state for the " ++ name] ++ progress.toList ++
      ["", "## Parameters"] ++ parameters.map ("* " ++ ·) ++
      ["", "## Stopping criterion", "", r.stop.summary,
        "This indicates convergence: " ++ (if r.stop.converged then "Yes" else "No")])

def Run.summary {S : Type} (name : String) (parameters : List String) (r : Run Float S) : String :=
  r.summaryAt name (countText (.int r.iteration)) parameters

namespace SubgradientState

def parameters (unnamed : String) (s : SubgradientState Float) : Outcome Float (List String) := do
  let retraction ← methodName s.retraction
  return ["stepsize: " ++ s.stepsize.text unnamed, "retraction method: " ++ retraction]

end SubgradientState

namespace NewtonState

def parameters (unnamed : String) (s : NewtonState Float) : Outcome Float (List String) := do
  let retraction ← methodName s.retraction
  let transport ← methodName s.transport
  return ["retraction method: " ++ retraction, "vector transport: " ++ transport,
    "step size: " ++ s.stepsize.text unnamed, "sub-problem: " ++ s.subsolver.mode.value]

end NewtonState

namespace LinearState

def parameters (s : LinearState Float) : List String :=
  ["method: " ++ s.method.display, "tolerance: " ++ s.tolerance.display]

end LinearState

end ManifoldOpt

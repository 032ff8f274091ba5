import ManifoldOpt.Solver.Trail
import ManifoldOpt.Text.Literal

set_option autoImplicit false

namespace ManifoldOpt

namespace CriterionKind

def name : CriterionKind → String
  | base => "StoppingCriterion"
  | afterIteration => "StopAfterIteration"
  | changeLess => "StopWhenChangeLess"
  | subgradientNormLess => "StopWhenSubgradientNormLess"
  | any => "StopWhenAny"
  | all => "StopWhenAll"

end CriterionKind

def optionText (x : Option Float) : String := x.elim "None" Float.text

namespace Cause

def text : Cause Float → String
  | budget limit =>
    "The algorithm reached its maximal number of iterations (" ++ limit.text ++ ")."
  | change iteration size tolerance =>
    "At iteration " ++ toString iteration ++ " the algorithm performed a step with a change (" ++
      Float.text size ++ ") less than " ++ tolerance.text ++ "."
  | subgradientNorm size tolerance =>
    "The subgradient norm (" ++ Float.text size ++ ") is less than " ++ tolerance.text ++ "."
  | blank => ""

end Cause

def reasonText (reason : List (Cause Float)) : String := "\n".intercalate (reason.map Cause.text)

inductive Topic
  | driver | stopping | stepsize | subgradient | newton | newtonEquation
  deriving DecidableEq, Repr

namespace Event

def topic {α : Type} : Event α → Topic
  | fired _ _ => .stopping
  | completed _ _ _ => .driver
  | stopped _ _ _ _ => .driver
  | subgradientFinished _ => .subgradient
  | directionVanishes _ => .stepsize
  | dampingGivenUp _ _ _ => .stepsize
  | dampingAccepted _ _ _ _ => .stepsize
  | damped _ _ _ => .newton
  | dampedAside _ _ _ _ => .newton
  | residual _ _ => .newtonEquation

def level {α : Type} : Event α → Level
  | stopped _ level _ _ => level
  | dampingGivenUp _ _ _ => .warning
  | _ => .debug

def message : Event Float → String
  | fired criterion k => criterion.name ++ " fired at iteration " ++ toString k
  | completed solver k stepsize =>
    solver ++ " iteration " ++ toString k ++ ": stepsize=" ++ optionText stepsize
  | stopped solver _ k reason =>
    solver ++ " stopped after " ++ toString k ++ " iterations: " ++ reasonText reason
  | subgradientFinished cost => "Subgradient method finished with cost " ++ optionText cost
  | directionVanishes k =>
    "Iteration " ++ toString k ++ ": Newton direction vanishes, taking a full step"
  | dampingGivenUp k trials theta =>
    "Iteration " ++ toString k ++ ": damping search stopped after " ++ toString trials ++
      " trials, theta=" ++ Float.brief theta
  | dampingAccepted k alpha theta trials =>
    "Iteration " ++ toString k ++ ": accepted damping alpha=" ++ Float.brief alpha ++
      " (theta=" ++ Float.brief theta ++ ", " ++ toString trials ++ " trials)"
  | damped k stepsize theta =>
    "Iteration " ++ toString k ++ ": damping " ++ Float.brief stepsize ++ ", theta " ++
      Float.brief theta
  | dampedAside k real aside theta =>
    let imaginary := Float.brief aside
    let mark := if imaginary.startsWith "-" then "" else "+"
    "Iteration " ++ toString k ++ ": damping " ++ Float.brief real ++ mark ++ imaginary ++
      "j, theta " ++ Float.brief theta
  | residual k norm =>
    "Newton equation residual after step " ++ toString k ++ ": " ++ Float.brief norm

end Event

end ManifoldOpt

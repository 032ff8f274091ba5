set_option autoImplicit false

namespace ManifoldOpt

inductive Retraction
  | exponential
  | projection
  deriving DecidableEq, Repr

inductive Transport
  | parallel
  | projection
  deriving DecidableEq, Repr

inductive Evaluation
  | allocating
  | inPlace
  deriving DecidableEq, Repr

inductive SubproblemMode
  | solver
  | allocating
  | inPlace
  deriving DecidableEq, Repr

namespace Retraction

def all : List Retraction := [exponential, projection]

def name : Retraction → String
  | exponential => "EXPONENTIAL"
  | projection => "PROJECTION"

def value : Retraction → String
  | exponential => "exponential"
  | projection => "projection"

end Retraction

namespace Transport

def all : List Transport := [parallel, projection]

def name : Transport → String
  | parallel => "PARALLEL"
  | projection => "PROJECTION"

def value : Transport → String
  | parallel => "parallel"
  | projection => "projection"

end Transport

namespace Evaluation

def all : List Evaluation := [allocating, inPlace]

def name : Evaluation → String
  | allocating => "ALLOCATING"
  | inPlace => "INPLACE"

def value : Evaluation → String
  | allocating => "allocating"
  | inPlace => "inplace"

end Evaluation

namespace SubproblemMode

def all : List SubproblemMode := [solver, allocating, inPlace]

def name : SubproblemMode → String
  | solver => "SOLVER"
  | allocating => "ALLOCATING"
  | inPlace => "INPLACE"

def value : SubproblemMode → String
  | solver => "solver"
  | allocating => "allocating"
  | inPlace => "inplace"

end SubproblemMode

end ManifoldOpt

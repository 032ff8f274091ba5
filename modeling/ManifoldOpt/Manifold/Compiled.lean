import ManifoldOpt.Cache
import ManifoldOpt.Tensor.Basic

/-!
Which geometric operations are compiled, and in which order the cache of compiled operations sees
them. Compiling the transport of a sphere asks for its distance and its projection, as both of its
branches are prepared; other operations ask for nothing.
-/

set_option autoImplicit false

namespace ManifoldOpt

inductive Operation
  | project | exp | log | retr | transp | inner | basis | dist
  deriving DecidableEq, Repr

namespace Operation

def all : List Operation := [project, exp, log, retr, transp, inner, basis, dist]

def name : Operation → String
  | project => "proj"
  | exp => "exp"
  | log => "log"
  | retr => "retr"
  | transp => "transp"
  | inner => "inner"
  | basis => "get_basis"
  | dist => "dist"

end Operation

inductive SpaceKind
  | euclidean
  | sphere
  | weighted
  | plain
  | abstract
  deriving DecidableEq, Repr

namespace SpaceKind

def compiledName? : SpaceKind → Operation → Option String
  | euclidean, .basis => none
  | euclidean, op => some ("Euclidean." ++ op.name)
  | sphere, op => some ("Sphere." ++ op.name)
  | weighted, .basis => none
  | weighted, .inner => none
  | weighted, op => some ("Euclidean." ++ op.name)
  | plain, _ => none
  | abstract, _ => none

/-- The operations asked for while one is compiled, the last of them only if the others succeed. -/
def preparation : SpaceKind → Operation → List Operation
  | sphere, .transp => [.dist, .project]
  | _, _ => []

end SpaceKind

abbrev CompileKey := String × List Int

namespace SpaceKind

def key? (kind : SpaceKind) (op : Operation) : Option CompileKey :=
  (kind.compiledName? op).map fun name => (name, [0])

def use (kind : SpaceKind) (op : Operation) (cache : Cache CompileKey Unit) :
    Cache CompileKey Unit :=
  match kind.key? op with
  | none => cache
  | some key => (cache.fetch key ()).2

end SpaceKind

/-- One use of an operation: the shapes of its operands, which it is prepared for once, the
operations it asks for if it is not prepared yet, and whether it succeeds. -/
structure OperationUse where
  operation : Operation
  shapes : List Shape := []
  asks : List Operation := []
  succeeds : Bool := true

structure Compilation where
  cache : Cache CompileKey Unit
  prepared : List (Operation × List Shape) := []

namespace Compilation

/-- Clearing the cache leaves prepared operations prepared. -/
def clear (c : Compilation) : Compilation := { c with cache := c.cache.clear }

/-- The operation comes first in the cache, then those it asks for while it is prepared. -/
def call (kind : SpaceKind) (c : Compilation) (use : OperationUse) : Compilation :=
  let entry := (use.operation, use.shapes)
  let used := kind.use use.operation c.cache
  if c.prepared.contains entry then { c with cache := used }
  else
    { cache := use.asks.foldl (fun cache needed => kind.use needed cache) used
      prepared := if use.succeeds then entry :: c.prepared else c.prepared }

end Compilation

end ManifoldOpt

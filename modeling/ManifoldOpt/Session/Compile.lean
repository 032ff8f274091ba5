import ManifoldOpt.Cache
import ManifoldOpt.Session.Space

set_option autoImplicit false

namespace ManifoldOpt

def CompileKey.shown (key : CompileKey) : Shown :=
  .items [.text key.1, .items (key.2.map .count)]

def Cache.shownKeys {ν : Type} (c : Cache CompileKey ν) : Shown :=
  .items (c.keys.map CompileKey.shown)

inductive CompiledValue
  | plain (v : Literal Float)
  | traced (n : Number Float)
  | items (values : List CompiledValue)

namespace CompiledValue

def word (n : Number Float) : Outcome Float (Number Float) :=
  match n with
  | .int m => if Number.fitsWord m then .ok n else .error .overflow
  | .real x => .ok (.real (Scalar.flush x))
  | other => .ok other

def wrapped : Number Float → Number Float
  | .int m => .int (Int.bmod m (Nat.pow 2 64))
  | .real x => .real (Scalar.flush x)
  | other => other

mutual

def ofLiteral : Literal Float → CompiledValue
  | .list values => items (ofLiterals values)
  | other => plain other

def ofLiterals : List (Literal Float) → List CompiledValue
  | [] => []
  | value :: rest => ofLiteral value :: ofLiterals rest

end

mutual

def trace : Literal Float → Outcome Float CompiledValue
  | .list values => do
    return items (← traceEach values)
  | .none => .ok (plain .none)
  | other => do
    return traced (← word (← other.compared))

def traceEach : List (Literal Float) → Outcome Float (List CompiledValue)
  | [] => .ok []
  | value :: rest => do
    let first ← trace value
    return first :: (← traceEach rest)

end

/-- An argument of a call. A fixed one is kept as it is, unless it can change. -/
def ofArgument (fixed : Bool) (given : Literal Float) : Outcome Float CompiledValue :=
  match fixed, given with
  | true, .list _ => .error .missingArray
  | true, other => .ok (plain other)
  | false, other => trace other

def number? : CompiledValue → Option (Number Float × Bool)
  | plain v => v.number?.map fun n => (n, false)
  | traced n => some (n, true)
  | items _ => none

def count? : CompiledValue → Option Int
  | plain v => v.number?.bind Number.int?
  | _ => none

def repeated {β : Type} (count : Int) (row : List β) : Outcome Float (List β) :=
  if Number.fitsWord count && count * Int.ofNat row.length < Int.ofNat (Nat.pow 2 31) then
    .ok (List.replicate count.toNat row).flatten
  else .error .overflow

/-- Combines two numbers. If the code computes with one of them, both are machine words, and two
truth values give a truth value. -/
def combine (onNumbers : Number Float → Number Float → Outcome Float (Number Float))
    (onTruths : Bool → Bool → Bool) (x y : CompiledValue) : Outcome Float CompiledValue := do
  match x.number?, y.number? with
  | some (m, xTraced), some (n, yTraced) =>
    if xTraced || yTraced then
      match m, n with
      | .bool a, .bool b => return traced (.bool (onTruths a b))
      | m, n => return traced (wrapped (← onNumbers (← word m) (← word n)))
    else return plain (← onNumbers m n).literal
  | _, _ => throw .notNumber

def mul (x y : CompiledValue) : Outcome Float CompiledValue := do
  match x, y, x.count?, y.count? with
  | items values, _, _, some n => return items (← repeated n values)
  | _, items values, some n, _ => return items (← repeated n values)
  | plain (.string s), _, _, some n => return plain (.string (String.ofList (← repeated n s.toList)))
  | _, plain (.string s), some n, _ => return plain (.string (String.ofList (← repeated n s.toList)))
  | _, _, _, _ => combine Number.mul and x y

def add (x y : CompiledValue) : Outcome Float CompiledValue :=
  match x, y with
  | items values, items others => .ok (items (values ++ others))
  | plain (.string s), plain (.string t) => .ok (plain (.string (s ++ t)))
  | _, _ => combine Number.add or x y

mutual

def shown : CompiledValue → Outcome Float Shown
  | items values => do
    return .items (← shownEach values)
  | plain .none => .ok .nothing
  | plain v => do
    return .ofNumber (← word (← v.compared))
  | traced n => .ok (.ofNumber n)

def shownEach : List CompiledValue → Outcome Float (List Shown)
  | [] => .ok []
  | value :: rest => do
    let first ← shown value
    return first :: (← shownEach rest)

end

end CompiledValue

/-- The function `factor * x + y` is compiled under a name, some of its two positions being fixed,
and called. -/
structure CompileRequest where
  name : String
  fixed : List Int
  factor : Literal Float
  x : Literal Float
  y : Literal Float

namespace CompileRequest

def positionsExist (r : CompileRequest) : Bool := r.fixed.all fun p => -2 ≤ p && p < 2

def fixes (r : CompileRequest) (position : Int) : Bool :=
  r.fixed.contains position || r.fixed.contains (position - 2)

def value (r : CompileRequest) (factor : Literal Float) : Outcome Float Shown := do
  let x ← CompiledValue.ofArgument (r.fixes 0) r.x
  let y ← CompiledValue.ofArgument (r.fixes 1) r.y
  let product ← (CompiledValue.ofLiteral factor).mul x
  let sum ← product.add y
  sum.shown

end CompileRequest

inductive CompileCommand
  | clear
  | compile (r : CompileRequest)

/-- A function comes with the number of its request, by which what it is compiled to is told apart;
all else that is kept of it is its factor. -/
def linearFunctions : Compiler CompileKey (Nat × CompileRequest) (Nat × Literal Float)
    CompileRequest Shown (Fault Float) where
  key f := (f.2.name, f.2.fixed)
  compile f := if f.2.positionsExist then .ok (f.1, f.2.factor) else .error .missingArray
  run compiled r := r.value compiled.2

def compileSteps : List CompileCommand → List Nat → Cache CompileKey (Nat × Literal Float) →
    Outcome Float (List Shown)
  | [], _, _ => .ok []
  | .clear :: rest, found, cache => do
    let others ← compileSteps rest found cache.clear
    return .fields [("cache", cache.clear.shownKeys)] :: others
  | .compile r :: rest, found, cache => do
    let f := (found.length, r)
    let ((mark, _), next) ← linearFunctions.request cache f
    let same := (List.range found.length).filter fun i => found[i]? = some mark
    let others ← compileSteps rest (found ++ [mark]) next
    return .fields [("same_as", .ofShape same),
      ("value", .ofOutcome id (linearFunctions.wrapped cache f r)),
      ("cache", next.shownKeys)] :: others

def compileTranscript (capacity : Int) (commands : List CompileCommand) : Outcome Float Shown := do
  return .fields [("capacity", .count capacity),
    ("steps", .items (← compileSteps commands [] { capacity }))]

inductive GlobalCommand
  | clear
  | call (name : String) (operands : Operands)

namespace Space

variable (S : Space)

def succeeds {β : Type} (x : Outcome Float β) : Bool := x.toOption.isSome

def useOf (o : Operands) (op : Operation) (names : List String) (succeeds : Bool) :
    OperationUse where
  operation := op
  shapes := names.filterMap fun name =>
    match o.operand name with
    | .array x => some x.shape
    | _ => none
  asks :=
    match S.kind.preparation op with
    | first :: rest => if Space.succeeds (S.compute o first.name) then first :: rest else [first]
    | [] => []
  succeeds := succeeds

def retractUses (o : Operands) (ok : Bool) : List OperationUse :=
  match S.manifold.retraction (o.literal "method"), o.scaledVector with
  | .ok .exponential, .ok _ => [S.useOf o .exp ["x", "v"] ok]
  | .ok .projection, .ok _ => [S.useOf o .retr ["x", "v"] ok]
  | _, _ => []

def transportUses (o : Operands) (ok : Bool) : List OperationUse :=
  match S.manifold.transportMethod (o.literal "method") with
  | .ok .parallel => [S.useOf o .transp ["x", "y", "v"] ok]
  | .ok .projection => [S.useOf o .project ["y", "v"] ok]
  | .error _ => []

def basisUses (o : Operands) (ok : Bool) : List OperationUse :=
  match o.operand "basis" with
  | .missing => [S.useOf o .basis ["x"] ok]
  | _ => []

def reflectUses (o : Operands) (ok : Bool) : List OperationUse :=
  let along : Outcome Float (Tensor Float) := do
    let x ← S.read o .log .target "x"
    S.manifold.log (← S.read o .log .point "p") x
  let logarithm := S.useOf o .log ["p", "x"] (succeeds along)
  match along, S.manifold.retraction (o.literal "method") with
  | .ok _, .ok .exponential => [logarithm, S.useOf o .exp ["p", "x"] ok]
  | .ok _, .ok .projection => [logarithm, S.useOf o .retr ["p", "x"] ok]
  | _, _ => [logarithm]

def uses (o : Operands) (name : String) : List OperationUse :=
  let ok := succeeds (S.operate o name)
  match name with
  | "norm" => [S.useOf o .inner ["x", "v"] ok]
  | "retract" => S.retractUses o ok
  | "vector_transport" => S.transportUses o ok
  | "get_coordinates" => S.basisUses o ok
  | "get_vector" => S.basisUses o ok
  | "random_tangent" => if S.kind = .sphere then [S.useOf o .project ["x"] ok] else []
  | "reflect" => S.reflectUses o ok
  | own =>
    (Operation.all.filter fun op => op.name = own).map fun op =>
      S.useOf o op ["x", "y", "u", "v"] ok

def usesOver (B : BundleSpace) (o : Operands) (name : String) : List OperationUse :=
  match B.kind with
  | .tangent => if BundleSpace.names.contains name then B.base.uses o name else []
  | _ => []

end Space

def Compilation.shown (c : Compilation) : Shown :=
  .items [.count c.cache.size, .count c.cache.capacity, c.cache.shownKeys]

def globalSteps (kind : SpaceKind) (uses : Operands → String → List OperationUse) :
    List GlobalCommand → Compilation → List Shown
  | [], _ => []
  | .clear :: rest, c => c.clear.shown :: globalSteps kind uses rest c.clear
  | .call name o :: rest, c =>
    let next := (uses o name).foldl (Compilation.call kind) c
    next.shown :: globalSteps kind uses rest next

def globalTranscript (kind : SpaceKind) (uses : Operands → String → List OperationUse)
    (commands : List GlobalCommand) : Shown :=
  .items (globalSteps kind uses commands { cache := { capacity := 128 } })

def compiledMethod (kind : SpaceKind) (name : String) : Outcome Float Shown :=
  match (Operation.all.find? fun op => op.name = name).bind kind.key? with
  | some key => .ok (.items [.text name, .text key.1, .items (key.2.map .count), .text name])
  | none => .error .noAttribute

end ManifoldOpt

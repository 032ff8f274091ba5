/-!
A cache of bounded size that drops the entry used longest ago. Entries stand in the order of their
last use, the oldest first; finding a key counts as a use.
-/

set_option autoImplicit false

namespace ManifoldOpt

structure Cache (κ ν : Type) where
  capacity : Int
  entries : List (κ × ν) := []

namespace Cache

variable {κ ν : Type} [DecidableEq κ]

def size (c : Cache κ ν) : Nat := c.entries.length

def keys (c : Cache κ ν) : List κ := c.entries.map Prod.fst

def find? (c : Cache κ ν) (key : κ) : Option ν := c.entries.lookup key

def touch (key : κ) (value : ν) (entries : List (κ × ν)) : List (κ × ν) :=
  entries.filter (fun e => e.1 ≠ key) ++ [(key, value)]

def trim (capacity : Int) (entries : List (κ × ν)) : List (κ × ν) :=
  if capacity < entries.length then entries.tail else entries

def fetch (c : Cache κ ν) (key : κ) (new : ν) : ν × Cache κ ν :=
  match c.find? key with
  | some value => (value, { c with entries := touch key value c.entries })
  | none => (new, { c with entries := trim c.capacity (c.entries ++ [(key, new)]) })

/-- The value held for a key, or else one that is made now, unless that fails. -/
def obtain {ε : Type} (c : Cache κ ν) (key : κ) (make : Except ε ν) :
    Except ε (ν × Cache κ ν) := do
  let value ← (c.find? key).elim make .ok
  return c.fetch key value

def clear (c : Cache κ ν) : Cache κ ν := { c with entries := [] }

end Cache

/-- How functions `φ` are compiled to `γ`, and how those are called with arguments `ι`. -/
structure Compiler (κ φ γ ι ρ ε : Type) where
  key : φ → κ
  compile : φ → Except ε γ
  run : γ → ι → Except ε ρ

namespace Compiler

variable {κ φ γ ι ρ ε : Type} [DecidableEq κ] (C : Compiler κ φ γ ι ρ ε)

def request (cache : Cache κ γ) (f : φ) : Except ε (γ × Cache κ γ) :=
  cache.obtain (C.key f) (C.compile f)

def wrapped (cache : Cache κ γ) (f : φ) (x : ι) : Except ε ρ := do
  let (compiled, _) ← C.request cache f
  C.run compiled x

end Compiler

end ManifoldOpt

/-!
The numbers the library computes with. `Scalar` lists the operations of a real closed arithmetic
with partial values: binary floating point is one instance, the exact reals another. Whether a
value is undefined or infinite is read off the order and the arithmetic, so every algorithm is
written once.
-/

set_option autoImplicit false

namespace ManifoldOpt

structure Binary where
  mantissa : Nat
  exponent : Int

namespace Binary

def ofFloat (x : Float) : Binary :=
  let bits := x.toBits.toNat
  let fraction := bits % Nat.pow 2 52
  let biased := bits / Nat.pow 2 52 % Nat.pow 2 11
  { mantissa := if biased = 0 then fraction else fraction + Nat.pow 2 52
    exponent := Int.ofNat (max biased 1) - 1075 }

def leastNormal : Float := 2.2250738585072014e-308

def floor (negative : Bool) (x : Binary) : Int :=
  let numerator := Int.ofNat (x.mantissa * Nat.pow 2 x.exponent.toNat)
  let denominator := Int.ofNat (Nat.pow 2 (-x.exponent).toNat)
  Int.fdiv (if negative then -numerator else numerator) denominator

end Binary

class Scalar (α : Type) extends Add α, Sub α, Mul α, Div α, Neg α, Zero α, One α, LT α, LE α,
    OfScientific α where
  decidableLT : DecidableLT α
  decidableLE : DecidableLE α
  ofInt : Int → α
  sqrt : α → α
  sin : α → α
  cos : α → α
  arctan : α → α
  atan2 : α → α → α
  pow : α → α → α
  floor : α → Int
  /-- What arrays take a value for: those that are too small for full precision count as zero. -/
  flush : α → α

variable {α : Type} [Scalar α]

instance Scalar.instDecidableLT : DecidableLT α := Scalar.decidableLT
instance Scalar.instDecidableLE : DecidableLE α := Scalar.decidableLE

namespace Scalar

def isNaN (x : α) : Bool := !decide (x ≤ x)

def isFinite (x : α) : Bool := decide (0 ≤ x - x)

def isInfinite (x : α) : Bool := !isNaN x && !isFinite x

def same (x y : α) : Bool := decide (x ≤ y) && decide (y ≤ x)

def isZero (x : α) : Bool := same x 0

def abs (x : α) : α := if x ≤ 0 then 0 - x else x

def sign (x : α) : α := if 0 < x then 1 else if x < 0 then -1 else if isNaN x then x else 0

/-- The larger value; an undefined value exceeds everything. -/
def maximum (x y : α) : α := if isNaN x then x else if y ≤ x then x else y

def exceeds (y x : α) : Bool := !isNaN x && (isNaN y || decide (x < y))

/-! Arrays compute with flushed values and flush what they compute. -/

def sum (x y : α) : α := flush (flush x + flush y)

def difference (x y : α) : α := flush (flush x - flush y)

def product (x y : α) : α := flush (flush x * flush y)

def quotient (x y : α) : α := flush (flush x / flush y)

def square (x : α) : α := product x x

def ofNat (n : Nat) : α := ofInt n

end Scalar

instance Scalar.instFloat : Scalar Float where
  zero := 0.0
  one := 1.0
  decidableLT := inferInstance
  decidableLE := inferInstance
  ofInt := Float.ofInt
  sqrt := Float.sqrt
  sin := Float.sin
  cos := Float.cos
  arctan := Float.atan
  atan2 := Float.atan2
  pow := Float.pow
  floor x := (Binary.ofFloat x).floor (decide (x < 0))
  flush x := if x.abs < Binary.leastNormal then x * 0 else x

end ManifoldOpt

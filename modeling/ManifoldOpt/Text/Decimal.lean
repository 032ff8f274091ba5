import ManifoldOpt.Scalar

/-!
Decimal text of floating point numbers. A finite number is a ratio of naturals, so every digit is
chosen by exact integer arithmetic: the fewest digits that read back as the number, or the digits
of the number rounded to a given place.
-/

set_option autoImplicit false

namespace ManifoldOpt

namespace Binary

def scaled (x : Binary) (place : Int) : Nat × Nat :=
  (x.mantissa * Nat.pow 2 x.exponent.toNat * Nat.pow 10 (-place).toNat,
    Nat.pow 2 (-x.exponent).toNat * Nat.pow 10 place.toNat)

def below (x : Binary) (place : Int) : Bool :=
  (x.scaled place).1 < (x.scaled place).2

/-- The least power of ten above the magnitude; the guess by the binary length is at most one low. -/
def magnitude (x : Binary) : Int :=
  let guess := (Int.ofNat x.mantissa.log2 + x.exponent) * 30103 / 100000
  if x.below guess then guess else if x.below (guess + 1) then guess + 1 else guess + 2

def narrowBelow (x : Binary) : Bool :=
  x.mantissa = Nat.pow 2 52 && x.exponent > -1074

/-- Whether `count * 10 ^ place` rounds to the magnitude: it lies within half a gap, and the ends
of that interval belong to even mantissas. -/
def accepts (x : Binary) (place : Int) (count : Nat) : Bool :=
  let (numerator, denominator) := x.scaled place
  let target := count * denominator
  let within (distance : Nat) : Bool :=
    distance < numerator || (x.mantissa % 2 = 0 && distance = numerator)
  if numerator ≤ target then within ((target - numerator) * (2 * x.mantissa))
  else within ((numerator - target) * ((if x.narrowBelow then 4 else 2) * x.mantissa))

end Binary

def roundRatio (numerator denominator : Nat) : Nat :=
  let low := numerator / denominator
  let rest := 2 * (numerator % denominator)
  if rest < denominator || (rest = denominator && low % 2 = 0) then low else low + 1

structure Decimal where
  digits : Nat
  place : Int

namespace Decimal

def atPlace (x : Binary) (place : Int) : Decimal :=
  ⟨roundRatio (x.scaled place).1 (x.scaled place).2, place⟩

def significant (count : Nat) (x : Binary) : Decimal :=
  atPlace x (x.magnitude - count)

def onGrid? (x : Binary) (place : Int) : Option Decimal :=
  let nearest := (atPlace x place).digits
  let floor := (x.scaled place).1 / (x.scaled place).2
  let other := if nearest = floor then floor + 1 else floor
  if x.accepts place nearest then some ⟨nearest, place⟩
  else if x.accepts place other then some ⟨other, place⟩
  else none

/-- The coarsest grid that holds a decimal reading back as the number decides; seventeen digits
always do. -/
def shortestFrom (x : Binary) (count : Nat) : Nat → Decimal
  | 0 => significant 17 x
  | fuel + 1 =>
    match onGrid? x (x.magnitude - count) with
    | some found => found
    | none => shortestFrom x (count + 1) fuel

def shortest (x : Binary) : Decimal := shortestFrom x 1 17

def stripped (d : Decimal) : List Char × Int :=
  let all := Nat.toDigits 10 d.digits
  ((all.reverse.dropWhile (· == '0')).reverse, Int.ofNat all.length + d.place)

def parts (d : Decimal) : List Char × List Char :=
  let (digits, point) := d.stripped
  let padded := List.replicate (1 - point).toNat '0' ++ digits
  let whole := max point 1 |>.toNat
  let integral := padded.take whole
  (integral ++ List.replicate (whole - integral.length) '0', padded.drop whole)

def positional (d : Decimal) : String :=
  let (integral, fraction) := d.parts
  String.ofList (integral ++ ['.'] ++ (if fraction.isEmpty then ['0'] else fraction))

def signed (e : Int) : String :=
  let size := toString e.natAbs
  (if e < 0 then "-" else "+") ++ (if size.length < 2 then "0" else "") ++ size

def exponential (digits : List Char) (power : Int) : String :=
  let head := digits.take 1
  let tail := digits.drop 1
  String.ofList (if tail.isEmpty then head else head ++ ['.'] ++ tail) ++ "e" ++ signed power

end Decimal

def Float.special? (x : Float) : Option String :=
  if x.isNaN then some "nan" else if x.isInf then some (if x < 0 then "-inf" else "inf") else none

def Float.signMark (x : Float) : String :=
  if x.toBits.toNat / Nat.pow 2 63 = 1 then "-" else ""

/-- The shortest text that reads back: positional from `1e-4` up to `1e16`, with an exponent
elsewhere. -/
def Float.text (x : Float) : String :=
  match Float.special? x with
  | some special => special
  | none =>
    if x == 0 then Float.signMark x ++ "0.0"
    else
      let d := Decimal.shortest (Binary.ofFloat x)
      let (digits, point) := d.stripped
      Float.signMark x ++
        (if -4 < point ∧ point ≤ 16 then d.positional else Decimal.exponential digits (point - 1))

def Float.brief (x : Float) : String :=
  match Float.special? x with
  | some special => special
  | none =>
    if x == 0 then Float.signMark x ++ "0.000e+00"
    else
      let d := Decimal.significant 4 (Binary.ofFloat x)
      let digits := Nat.toDigits 10 d.digits
      Float.signMark x ++
        Decimal.exponential (digits.take 4) (Int.ofNat digits.length + d.place - 1)

def Decimal.toFloat (d : Decimal) (x : Float) : Float :=
  let size := Float.ofScientific (d.digits * Nat.pow 10 d.place.toNat) true (-d.place).toNat
  if x < 0 then -size else size

/-- Rounded to `digits` significant digits, small numbers to `digits + 2` places; a zero result
has no sign. -/
def Float.rounded (digits : Nat) (x : Float) : Float :=
  if x.isNaN || x.isInf || x == 0 then x + 0
  else
    let b := Binary.ofFloat x
    let d := if x.abs < 0.01 then Decimal.atPlace b (-(Int.ofNat digits + 2))
      else Decimal.significant digits b
    if d.digits = 0 then 0 else d.toFloat x

end ManifoldOpt

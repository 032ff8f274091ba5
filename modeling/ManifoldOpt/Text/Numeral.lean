import ManifoldOpt.Scalar
import ManifoldOpt.Text.Decimal

set_option autoImplicit false

namespace ManifoldOpt

namespace Plain

/-- The code points of the zeros; the other nine digits follow each of them. -/
def zeros : List Nat :=
  [0x30, 0x660, 0x6f0, 0x7c0, 0x966, 0x9e6, 0xa66, 0xae6, 0xb66, 0xbe6, 0xc66, 0xce6, 0xd66, 0xde6,
   0xe50, 0xed0, 0xf20, 0x1040, 0x1090, 0x17e0, 0x1810, 0x1946, 0x19d0, 0x1a80, 0x1a90, 0x1b50,
   0x1bb0, 0x1c40, 0x1c50, 0xa620, 0xa8d0, 0xa900, 0xa9d0, 0xa9f0, 0xaa50, 0xabf0, 0xff10, 0x104a0,
   0x10d30, 0x11066, 0x110f0, 0x11136, 0x111d0, 0x112f0, 0x11450, 0x114d0, 0x11650, 0x116c0,
   0x11730, 0x118e0, 0x11950, 0x11c50, 0x11d50, 0x11da0, 0x16a60, 0x16ac0, 0x16b50, 0x1d7ce,
   0x1d7d8, 0x1d7e2, 0x1d7ec, 0x1d7f6, 0x1e140, 0x1e2f0, 0x1e950, 0x1fbf0]

def blanks : List (Nat × Nat) :=
  [(0x9, 0xd), (0x20, 0x20), (0x85, 0x85), (0xa0, 0xa0), (0x1680, 0x1680), (0x2000, 0x200a),
   (0x2028, 0x2029), (0x202f, 0x202f), (0x205f, 0x205f), (0x3000, 0x3000)]

def isBlank (c : Char) : Bool :=
  blanks.any fun range => range.1 ≤ c.toNat && c.toNat ≤ range.2

def digit? (c : Char) : Option Nat :=
  (zeros.find? fun first => first ≤ c.toNat && c.toNat < first + 10).map (c.toNat - ·)

def ofChar (c : Char) : Char := ((digit? c).map Nat.digitChar).getD c

def ofText (s : String) : List Char :=
  ((s.toList.dropWhile isBlank).reverse.dropWhile isBlank).reverse.map ofChar

end Plain

def digitsValue (ds : List Char) : Nat := ds.foldl (fun n c => n * 10 + (c.toNat - 48)) 0

structure Numeral where
  negative : Bool
  whole : List Char
  fraction : Option (List Char) := none
  exponent : Option Int := none

namespace Numeral

/-- The digits after the point, and the rest; a point without digits belongs to the rest. -/
def scanFraction : List Char → Option (List Char) × List Char
  | '.' :: r =>
    if (r.takeWhile Char.isDigit).isEmpty then (none, '.' :: r)
    else (some (r.takeWhile Char.isDigit), r.dropWhile Char.isDigit)
  | r => (none, r)

def scanPower (negative : Bool) (r : List Char) : Option (Int × List Char) :=
  let ds := r.takeWhile Char.isDigit
  let size := Int.ofNat (digitsValue ds)
  if ds.isEmpty then none else some (if negative then -size else size, r.dropWhile Char.isDigit)

def scanExponent (marks cs : List Char) : Option Int × List Char :=
  let found := match cs with
    | c :: '-' :: r => if marks.contains c then scanPower true r else none
    | c :: '+' :: r => if marks.contains c then scanPower false r else none
    | c :: r => if marks.contains c then scanPower false r else none
    | [] => none
  match found with
  | some (power, r) => (some power, r)
  | none => (none, cs)

def scan (negative : Bool) (marks cs : List Char) : Numeral × List Char :=
  let (fraction, afterFraction) := scanFraction (cs.dropWhile Char.isDigit)
  let (exponent, rest) := scanExponent marks afterFraction
  ({ negative, whole := cs.takeWhile Char.isDigit, fraction, exponent }, rest)

def isWhole (n : Numeral) : Bool := n.fraction.isNone && n.exponent.isNone

def toInt (n : Numeral) : Int :=
  if n.negative then -Int.ofNat (digitsValue n.whole) else Int.ofNat (digitsValue n.whole)

/-- The nearest scalar. Beyond a magnitude that no scalar reaches, infinity and zero take over. -/
def value {α : Type} [Scalar α] (n : Numeral) : α :=
  let fraction := n.fraction.getD []
  let digits := (n.whole ++ fraction).dropWhile (· = '0')
  let power := n.exponent.getD 0 - Int.ofNat fraction.length
  let magnitude := Int.ofNat digits.length + power
  let size : α :=
    if digits.isEmpty then 0
    else if 400 < magnitude then 1 / 0
    else if magnitude < -400 then 0
    else
      OfScientific.ofScientific (digitsValue digits * Nat.pow 10 power.toNat) true (-power).toNat
  if n.negative then -size else size

def dropSeparators : List Char → Option (List Char)
  | '_' :: _ => none
  | c :: '_' :: d :: r =>
    if c.isDigit && d.isDigit then (dropSeparators (d :: r)).map (c :: ·) else none
  | c :: r => (dropSeparators r).map (c :: ·)
  | [] => some []

def ofUnsigned? (negative : Bool) (cs : List Char) : Option Numeral :=
  let whole := cs.takeWhile Char.isDigit
  let (fraction, afterFraction) := match cs.dropWhile Char.isDigit with
    | '.' :: r => (some (r.takeWhile Char.isDigit), r.dropWhile Char.isDigit)
    | r => (none, r)
  let (exponent, rest) := scanExponent ['e', 'E'] afterFraction
  if rest.isEmpty && !(whole ++ fraction.getD []).isEmpty then
    some { negative, whole, fraction, exponent }
  else none

def named? {α : Type} [Scalar α] (negative : Bool) (cs : List Char) : Option α :=
  let name := String.ofList (cs.map Char.toLower)
  let size : Option α :=
    if name = "inf" || name = "infinity" then some (1 / 0)
    else if name = "nan" then some (0 / 0) else none
  if negative then size.map (- ·) else size

def scalar? {α : Type} [Scalar α] (s : String) : Option α :=
  let (negative, cs) := match Plain.ofText s with
    | '-' :: r => (true, r)
    | '+' :: r => (false, r)
    | r => (false, r)
  match named? negative cs with
  | some x => some x
  | none => (dropSeparators cs).bind fun cs => (ofUnsigned? negative cs).map value

end Numeral

end ManifoldOpt

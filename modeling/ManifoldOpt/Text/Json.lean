import ManifoldOpt.Text.Numeral
import ManifoldOpt.Text.Quoted

set_option autoImplicit false

namespace ManifoldOpt

inductive Json
  | null
  | bool (b : Bool)
  | int (n : Int)
  | num (x : Float)
  | str (s : String)
  | arr (items : List Json)
  | obj (fields : List (String × Json))
  deriving Inhabited

namespace Json

def isBlank (c : Char) : Bool := c = ' ' || c = '\t' || c = '\n' || c = '\r'

def skipBlank (cs : List Char) : List Char := cs.dropWhile isBlank

def hexValue (c : Char) : Nat :=
  if c.isDigit then c.toNat - 48
  else if 'a' ≤ c && c ≤ 'f' then c.toNat - 87 else c.toNat - 55

def hex4 (a b c d : Char) : Nat :=
  ((hexValue a * 16 + hexValue b) * 16 + hexValue c) * 16 + hexValue d

def unescape (c : Char) : Char :=
  if c = 'n' then '\n' else if c = 't' then '\t' else if c = 'r' then '\r'
  else if c = 'b' then '\x08' else if c = 'f' then '\x0c' else c

def arePair (high low : Nat) : Bool :=
  0xd800 ≤ high && high < 0xdc00 && 0xdc00 ≤ low && low < 0xe000

def joined (high low : Nat) : Char :=
  Char.ofNat (0x10000 + (high - 0xd800) * 0x400 + (low - 0xdc00))

def readString : List Char → Option (List Char × List Char)
  | '"' :: r => some ([], r)
  | '\\' :: 'u' :: a :: b :: c :: d :: '\\' :: 'u' :: e :: f :: g :: h :: r =>
    if arePair (hex4 a b c d) (hex4 e f g h) then
      (readString r).map fun (s, r) => (joined (hex4 a b c d) (hex4 e f g h) :: s, r)
    else
      (readString ('\\' :: 'u' :: e :: f :: g :: h :: r)).map fun (s, r) =>
        (Char.ofNat (hex4 a b c d) :: s, r)
  | '\\' :: 'u' :: a :: b :: c :: d :: r =>
    (readString r).map fun (s, r) => (Char.ofNat (hex4 a b c d) :: s, r)
  | '\\' :: c :: r => (readString r).map fun (s, r) => (unescape c :: s, r)
  | c :: r => (readString r).map fun (s, r) => (c :: s, r)
  | [] => none

/-- Fields by name: a later value takes the place of an earlier one. -/
def ofFields (fields : List (String × Json)) : Json :=
  .obj (fields.foldl (fun known f =>
    if known.any (·.1 = f.1) then known.map fun g => if g.1 = f.1 then f else g
    else known ++ [f]) [])

def readNumber (negative : Bool) (cs : List Char) : Option (Json × List Char) :=
  let (n, r) := Numeral.scan negative ['e', 'E'] cs
  if n.whole.isEmpty then none
  else some (if n.isWhole then .int n.toInt else .num n.value, r)

mutual

def readValue : Nat → List Char → Option (Json × List Char)
  | 0, _ => none
  | fuel + 1, cs =>
    match skipBlank cs with
    | 'n' :: 'u' :: 'l' :: 'l' :: r => some (.null, r)
    | 't' :: 'r' :: 'u' :: 'e' :: r => some (.bool true, r)
    | 'f' :: 'a' :: 'l' :: 's' :: 'e' :: r => some (.bool false, r)
    | '"' :: r => (readString r).map fun (s, r) => (.str (String.ofList s), r)
    | '[' :: r =>
      match skipBlank r with
      | ']' :: r => some (.arr [], r)
      | r => (readItems fuel r).map fun (items, r) => (.arr items, r)
    | '\x7b' :: r =>
      match skipBlank r with
      | '\x7d' :: r => some (.obj [], r)
      | r => (readFields fuel r).map fun (fields, r) => (ofFields fields, r)
    | 'N' :: 'a' :: 'N' :: r => some (.num (0.0 / 0.0), r)
    | 'I' :: 'n' :: 'f' :: 'i' :: 'n' :: 'i' :: 't' :: 'y' :: r => some (.num (1.0 / 0.0), r)
    | '-' :: 'I' :: 'n' :: 'f' :: 'i' :: 'n' :: 'i' :: 't' :: 'y' :: r =>
      some (.num (-1.0 / 0.0), r)
    | '-' :: r => readNumber true r
    | r => readNumber false r

def readItems : Nat → List Char → Option (List Json × List Char)
  | 0, _ => none
  | fuel + 1, cs => do
    let (item, r) ← readValue fuel cs
    match skipBlank r with
    | ',' :: r => (readItems fuel r).map fun (items, r) => (item :: items, r)
    | ']' :: r => some ([item], r)
    | _ => none

def readField : Nat → List Char → Option ((String × Json) × List Char)
  | 0, _ => none
  | fuel + 1, cs => do
    match skipBlank cs with
    | '"' :: r =>
      let (name, r) ← readString r
      match skipBlank r with
      | ':' :: r => (readValue fuel r).map fun (value, r) => ((String.ofList name, value), r)
      | _ => none
    | _ => none

def readFields : Nat → List Char → Option (List (String × Json) × List Char)
  | 0, _ => none
  | fuel + 1, cs => do
    let (field, r) ← readField fuel cs
    match skipBlank r with
    | ',' :: r => (readFields fuel r).map fun (fields, r) => (field :: fields, r)
    | '\x7d' :: r => some ([field], r)
    | _ => none

end

/-- The document at the start of a text; no two steps of reading stand at the same character
more than three deep. -/
def read? (s : String) : Option Json :=
  (readValue (3 * s.length + 3) s.toList).map Prod.fst

def escapeChar (c : Char) : List Char :=
  if c = '"' || c = '\\' then ['\\', c]
  else if c = '\n' then ['\\', 'n'] else if c = '\r' then ['\\', 'r']
  else if c = '\t' then ['\\', 't']
  else if c.toNat < 0x20 then '\\' :: 'u' :: Quoted.hex 4 c.toNat
  else [c]

def stringText (s : String) : String :=
  String.ofList ('"' :: s.toList.flatMap escapeChar ++ ['"'])

def numberText (x : Float) : String :=
  match Float.special? x with
  | some special => stringText special
  | none => Float.text x

def listText (items : List String) : String := "[" ++ ", ".intercalate items ++ "]"

def fieldsText (fields : List (String × String)) : String :=
  "\x7b" ++ ", ".intercalate (fields.map fun f => stringText f.1 ++ ": " ++ f.2) ++ "\x7d"

def fields : Json → List (String × Json)
  | obj fields => fields
  | _ => []

def items : Json → List Json
  | arr items => items
  | _ => []

def get (j : Json) (name : String) : Json := (j.fields.lookup name).getD null

def has (j : Json) (name : String) : Bool := (j.fields.lookup name).isSome

def str? : Json → Option String
  | str s => some s
  | _ => none

def text (j : Json) (name : String) : String := ((j.get name).str?).getD ""

def int? : Json → Option Int
  | int n => some n
  | bool b => some (if b then 1 else 0)
  | num x => some (if x < 0 then -Int.ofNat (-x).toUInt64.toNat else Int.ofNat x.toUInt64.toNat)
  | _ => none

def isNull : Json → Bool
  | null => true
  | _ => false

def isTruthy : Json → Bool
  | null => false
  | bool b => b
  | int n => n ≠ 0
  | num x => x != 0
  | str s => !s.isEmpty
  | arr items => !items.isEmpty
  | obj fields => !fields.isEmpty

end Json

end ManifoldOpt

import ManifoldOpt.Tensor.Basic
import ManifoldOpt.Text.Decimal

set_option autoImplicit false

namespace ManifoldOpt

namespace Aligned

def precision : Nat := 8

structure Pieces where
  integral : String
  fraction : String
  power : Option Int := none

def positionalPieces (x : Float) : Pieces :=
  let b := Binary.ofFloat x
  let shortest := if x == 0 then ⟨0, 0⟩ else Decimal.shortest b
  let d := if precision < shortest.parts.2.length then Decimal.atPlace b (-Int.ofNat precision)
    else shortest
  { integral := Float.signMark x ++ String.ofList d.parts.1
    fraction := String.ofList d.parts.2 }

/-- The pieces with a power of ten. Where more digits are wanted after the point than the shortest
text has, they are those of the exact value. -/
def exponentialPieces (wanted : Nat) (x : Float) : Pieces :=
  if x == 0 then { integral := Float.signMark x ++ "0", fraction := "", power := some 0 }
  else
    let b := Binary.ofFloat x
    let shortest := Decimal.shortest b
    let count := shortest.stripped.1.length
    let d := if precision + 1 < count then Decimal.significant (precision + 1) b
      else if count < wanted + 1 then Decimal.significant (wanted + 1) b
      else shortest
    let (digits, point) := d.stripped
    { integral := Float.signMark x ++ String.ofList (digits.take 1)
      fraction := String.ofList (digits.drop 1), power := some (point - 1) }

structure Format where
  exponential : Bool
  left : Nat
  fraction : Nat
  power : Nat

namespace Format

def powerWidth (power : Int) : Nat := max 2 (toString power.natAbs).length

def pieces (f : Format) (x : Float) : Pieces :=
  if f.exponential then exponentialPieces f.fraction x else positionalPieces x

def right (f : Format) : Nat := if f.exponential then f.fraction + f.power + 2 else f.fraction

def widest (lengths : List Nat) : Nat := lengths.foldl max 0

def needsPowers (sizes : List Float) : Bool :=
  let largest := sizes.foldl max 0
  let smallest := sizes.foldl min (1.0 / 0.0)
  !sizes.isEmpty && (largest ≥ 1e8 || smallest < 1e-4 || largest / smallest > 1000)

def ofEntries (entries : List Float) : Format :=
  let finite := entries.filter Scalar.isFinite
  let exponential := needsPowers ((finite.filter (· != 0)).map Float.abs)
  let all := finite.map fun x => if exponential then exponentialPieces 0 x else positionalPieces x
  let format : Format :=
    { exponential
      left := widest (all.map (·.integral.length))
      fraction := widest (all.map (·.fraction.length))
      power := widest (all.map fun p => powerWidth (p.power.getD 0)) }
  if finite.length = entries.length then format
  else
    let special := if entries.any fun x => x.isInf && x < 0 then 4 else 3
    { format with left := max format.left (special - (format.right + 1)) }

def blanks (count : Nat) : String := String.ofList (List.replicate count ' ')

def zeros (count : Nat) : String := String.ofList (List.replicate count '0')

def entry (f : Format) (x : Float) : String :=
  match Float.special? x with
  | some special => blanks (f.left + 1 + f.right - special.length) ++ special
  | none =>
    let p := f.pieces x
    let before := blanks (f.left - p.integral.length) ++ p.integral ++ "." ++ p.fraction
    let missing := f.fraction - p.fraction.length
    match p.power with
    | none => before ++ blanks missing
    | some power =>
      let size := toString power.natAbs
      before ++ zeros missing ++ "e" ++ (if power < 0 then "-" else "+") ++
        zeros (f.power - size.length) ++ size

end Format

structure Paragraph where
  complete : String := ""
  line : String

namespace Paragraph

def trimmed (s : String) : String :=
  String.ofList (s.toList.reverse.dropWhile (· = ' ')).reverse

def add (width : Nat) (indent word : String) (p : Paragraph) : Paragraph :=
  if width < p.line.length + word.length && indent.length < p.line.length then
    ⟨p.complete ++ trimmed p.line ++ "\n", indent ++ word⟩
  else { p with line := p.line ++ word }

def addAll (separator : String) (width : Nat) (indent : String) :
    List String → Paragraph → Paragraph
  | [], p => p
  | [word], p => p.add width indent word
  | word :: rest, p =>
    let q := p.add width indent word
    addAll separator width indent rest { q with line := q.line ++ separator }

end Paragraph

structure Layout where
  format : Format
  separator : String
  cornersOnly : Bool

def edge : Nat := 3

def ends {β : Type} (items : List β) : List (Option β) :=
  if 2 * edge < items.length then
    (items.take edge).map some ++ [none] ++ (items.drop (items.length - edge)).map some
  else items.map some

namespace Layout

def select {β : Type} (l : Layout) (items : List β) : List (Option β) :=
  if l.cornersOnly then ends items else items.map some

def row (l : Layout) (width : Nat) (indent : String) (words : List String) : String :=
  let p := Paragraph.addAll l.separator (width - 1) indent words { line := indent }
  "[" ++ String.ofList ((p.complete ++ p.line).toList.drop indent.length) ++ "]"

def nested (l : Layout) (width : Nat) (indent : String) : Shape → List Float → String
  | [], entries => l.format.entry (entries.headD 0)
  | [_], entries =>
    l.row width indent ((l.select entries).map fun x => (x.map l.format.entry).getD "...")
  | n :: rest, entries =>
    let size := Shape.size rest
    let blocks := (List.range n).map fun i => (entries.drop (i * size)).take size
    let lines := (l.select blocks).map fun block =>
      (block.map (nested l (width - 1) (indent ++ " ") rest)).getD "..."
    let breaks := String.ofList (List.replicate rest.length '\n')
    "[" ++ (Paragraph.trimmed l.separator ++ breaks ++ indent).intercalate lines ++ "]"

end Layout

def corners : Shape → List Float → List Float
  | [], entries => entries
  | n :: rest, entries =>
    let size := Shape.size rest
    let blocks := (List.range n).map fun i => (entries.drop (i * size)).take size
    (ends blocks).flatMap fun block => (block.map (corners rest)).getD []

def threshold : Nat := 1000

def text (separator : String) (width before : Nat) (x : Tensor Float) : String :=
  let cornersOnly := decide (threshold < x.entries.length)
  let written := if cornersOnly then corners x.shape x.entries else x.entries
  let layout : Layout := ⟨Format.ofEntries written, separator, cornersOnly⟩
  layout.nested width (Format.blanks (before + 1)) x.shape x.entries

def lineWidth : Nat := 75

end Aligned

namespace Tensor

def text (x : Tensor Float) : String :=
  let opening := "Array("
  let closing := "dtype=float64)"
  let body :=
    if x.entries.isEmpty then
      "[], shape=" ++ Shape.text x.shape
    else Aligned.text ", " (Aligned.lineWidth - 1) opening.length x
  let lastLine := (body.toList.reverse.takeWhile (· ≠ '\n')).length + 2
  let gap := if Aligned.lineWidth < lastLine + closing.length + 1 then opening.length else 1
  opening ++ body ++ "," ++ Aligned.Format.blanks gap ++ closing

def display (x : Tensor Float) : String :=
  match x.shape with
  | [] => Float.text (x.entries.headD 0)
  | _ => if x.entries.isEmpty then "[]" else Aligned.text " " Aligned.lineWidth 0 x

end Tensor

end ManifoldOpt

import ManifoldOpt.Text.Numeral

set_option autoImplicit false

namespace ManifoldOpt

namespace Address

def isHexDigit (c : Char) : Bool :=
  c.isDigit || ('a' ≤ c && c ≤ 'f') || ('A' ≤ c && c ≤ 'F')

/-- The text without the places it names, each of which has at least one digit. -/
def drop : List Char → List Char
  | ' ' :: 'a' :: 't' :: ' ' :: '0' :: 'x' :: d :: r =>
    if isHexDigit d then drop (r.dropWhile isHexDigit)
    else ' ' :: drop ('a' :: 't' :: ' ' :: '0' :: 'x' :: d :: r)
  | c :: r => c :: drop r
  | [] => []
termination_by cs => cs.length
decreasing_by
  all_goals simp_wf
  all_goals
    have := (List.dropWhile_suffix isHexDigit (l := r)).length_le
    omega

end Address

namespace Numeral

def shownDigits (n : Numeral) : Nat :=
  ((n.whole ++ n.fraction.getD []).dropWhile (· = '0')).length

def rounded? (digits : Nat) (n : Numeral) : Option (List Char) :=
  if !n.isWhole && digits < n.shownDigits then
    some (Float.text (Float.rounded digits n.value)).toList
  else none

def scan? : List Char → Option (Numeral × List Char)
  | '-' :: c :: r => if c.isDigit then some (scan true ['e'] (c :: r)) else none
  | c :: r => if c.isDigit then some (scan false ['e'] (c :: r)) else none
  | [] => none

def joinsNext (c : Char) : Bool := c.isAlphanum || c = '_' || c = '.'

def goesOn : List Char → Bool
  | c :: _ => c.isDigit || c = '_' || c = 'e' || c = 'E'
  | [] => false

def standing? (before : Char) (cs : List Char) : Option (Numeral × List Char) :=
  match scan? cs with
  | some (n, rest) => if joinsNext before || goesOn rest then none else some (n, rest)
  | none => none

/-- Rounds the numbers of a text after the given character; every piece takes at least one
character. -/
def roundAll (digits : Nat) : Nat → Char → List Char → List Char
  | 0, _, cs => cs
  | _, _, [] => []
  | pieces + 1, before, c :: cs =>
    match standing? before (c :: cs) with
    | none => c :: roundAll digits pieces c cs
    | some (n, rest) =>
      let taken := (c :: cs).take (cs.length + 1 - rest.length)
      (n.rounded? digits).getD taken ++ roundAll digits pieces (taken.getLastD c) rest

end Numeral

def roundText (digits : Nat) (s : String) : String :=
  String.ofList (Numeral.roundAll digits s.length ' ' s.toList)

def shownText (digits : Nat) (s : String) : String :=
  roundText digits (String.ofList (Address.drop s.toList))

end ManifoldOpt

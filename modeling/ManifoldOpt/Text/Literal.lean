import ManifoldOpt.Literal
import ManifoldOpt.Text.Aligned
import ManifoldOpt.Text.Quoted

set_option autoImplicit false

namespace ManifoldOpt

def boolText (b : Bool) : String := if b then "True" else "False"

def commaList (items : List String) : String := ", ".intercalate items

namespace Literal

def memberText (enumeration name value : String) : String :=
  "<" ++ enumeration ++ "." ++ name ++ ": " ++ Quoted.text value ++ ">"

mutual

def text : Literal Float → String
  | none => "None"
  | bool b => boolText b
  | int n => toString n
  | real x => Float.text x
  | string s => Quoted.text s
  | retraction m => memberText "RetractionMethod" m.name m.value
  | transport m => memberText "VectorTransportMethod" m.name m.value
  | evaluation e => memberText "EvaluationType" e.name e.value
  | tuple items =>
    match items with
    | [one] => "(" ++ text one ++ ",)"
    | items => "(" ++ commaList (texts items) ++ ")"
  | list items => "[" ++ commaList (texts items) ++ "]"
  | array x => x.text
  | kind name => "<class " ++ Quoted.text name ++ ">"
  | object description => description

def texts : List (Literal Float) → List String
  | [] => []
  | item :: rest => text item :: texts rest

end

def display : Literal Float → String
  | string s => s
  | retraction m => "RetractionMethod." ++ m.name
  | transport m => "VectorTransportMethod." ++ m.name
  | evaluation e => "EvaluationType." ++ e.name
  | array x => x.display
  | other => other.text

end Literal

def Number.text (n : Number Float) : String := n.literal.text

end ManifoldOpt

import ScopedCss.Json.Basic
import ScopedCss.Number.Shortest
import ScopedCss.Text.Quoted

/-! How data is shown inside messages and stylesheets. -/
namespace ScopedCss

def boolText (b : Bool) : String := if b then "True" else "False"

/-- Items with commas between them, in brackets. -/
def enclosed (left right : String) (items : List String) : String :=
  left ++ ", ".intercalate items ++ right

namespace Json

mutual

/-- The text that shows a value and its type: texts are quoted. -/
def display : Json → String
  | .null => "None"
  | .bool b => boolText b
  | .int n => toString n
  | .float f => Shortest.text f
  | .text t => t.display
  | .list items => enclosed "[" "]" (displayItems items)
  | .object members => enclosed "\x7b" "\x7d" (displayMembers members)

def displayItems : List Json → List String
  | [] => []
  | j :: js => display j :: displayItems js

def displayMembers : List (Text × Json) → List String
  | [] => []
  | (name, value) :: ms => (name.display ++ ": " ++ display value) :: displayMembers ms

end

/-- The text of data in a stylesheet: texts stand for themselves. -/
def toText : Json → Text
  | .text t => t
  | j => j.display

end Json
end ScopedCss

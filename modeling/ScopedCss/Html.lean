import ScopedCss.Value.Basic
import ScopedCss.Value.Error

/-!
Stylesheets as part of a page. The attributes of the element are escaped, and no stylesheet can end
the element.
-/
namespace ScopedCss.Html

def escapeChar (c : Char) : List Char :=
  if c = '&' then "&amp;".toList
  else if c = '<' then "&lt;".toList
  else if c = '>' then "&gt;".toList
  else if c = '\x22' then "&quot;".toList
  else if c = '\x27' then "&#x27;".toList
  else [c]

/-- Text inside quotes of an attribute. -/
def escape (cs : List Char) : List Char := cs.flatMap escapeChar

/-- An attribute; underscores in its name stand for hyphens. -/
def attributeText (name : String) (value : Text) : Text :=
  let hyphened := name.toList.map fun c => if c = '_' then '-' else c
  Text.ofString (" " ++ String.ofList hyphened ++ "=\"") ++ value.mapRuns escape ++ Text.ofString "\""

/-- All attributes; the first value that is no text is the failure. -/
def attributeRow : List (String × Value) → Except EvalError Text
  | [] => .ok (Text.ofString "")
  | (name, .text value) :: others => (attributeRow others).map (attributeText name value ++ ·)
  | (_, v) :: _ => .error (.noAttribute v.typeName "replace")

/-- Every end mark of a stylesheet is broken up by a backslash. -/
def guard : List Char → List Char
  | '<' :: '/' :: r => '<' :: '\x5c' :: '/' :: guard r
  | c :: r => c :: guard r
  | [] => []

/-- The element that holds a stylesheet. Attributes stand in order of their names, and one name is
taken by the stylesheet itself. -/
def styleElement (css : Text) (attributes : List (String × Value)) : Except EvalError Text := do
  if attributes.any (·.1 == "self") then
    throw (.call (.repeated "StringBackend.to_html" "self"))
  let sorted := attributes.mergeSort fun a b => decide (a.1 ≤ b.1)
  return Text.ofString "<style" ++ (← attributeRow sorted) ++ Text.ofString ">\n" ++
    css.mapRuns guard ++ Text.ofString "</style>"

end ScopedCss.Html

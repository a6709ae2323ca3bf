import ScopedCss.Text.Basic

/-!
JSON data. Whole numbers and numbers with a fraction or exponent are told apart, and an object
keeps its members in order.
-/
namespace ScopedCss

inductive Json where
  | null
  | bool (b : Bool)
  | int (n : Int)
  | float (f : Float)
  | text (t : Text)
  | list (items : List Json)
  | object (members : List (Text × Json))
deriving Inhabited

/-- The members of an object: names with values. -/
abbrev Members := List (Text × Json)

namespace Json

/-- Sets a member, in place if its name is there. -/
def put (members : Members) (name : Text) (value : Json) : Members :=
  if members.any (·.1 == name) then
    members.map fun m => if m.1 == name then (name, value) else m
  else members ++ [(name, value)]

def get? : Json → Text → Option Json
  | .object members, name => members.lookup name
  | _, _ => none

/-- The name of the type of a value, as error texts give it. -/
def typeName : Json → String
  | .null => "NoneType"
  | .bool _ => "bool"
  | .int _ => "int"
  | .float _ => "float"
  | .text _ => "str"
  | .list _ => "list"
  | .object _ => "dict"

end Json
end ScopedCss

import ScopedCss.Theme
import ScopedCss.Value.Error

/-!
Values of expressions. Data of a theme comes out as it is, except that an object read from a
mapping is wrapped as a view, so that its members can be read in the same two ways. Classes,
functions and methods are values too.
-/
namespace ScopedCss

/-- The classes that expressions can name. -/
inductive ClassRef where
  /-- The texts. -/
  | text
  /-- The base of all generated classes. -/
  | base
  | counter
  | sink
  | emptyTheme
  | mappingTheme
  /-- A generated class and its fields. -/
  | generated (name : String) (fields : List String)
  /-- Another class that needs no import. -/
  | builtin (name : String)
deriving DecidableEq, Repr

namespace ClassRef

def name : ClassRef → String
  | .text => "str"
  | .base => "Classes"
  | .counter => "Counter"
  | .sink => "TextSink"
  | .emptyTheme => "EmptyTheme"
  | .mappingTheme => "MappingTheme"
  | .generated name _ => name
  | .builtin name => name

/-- The module of a class, with a dot behind it. -/
def home : ClassRef → String
  | .text | .builtin _ => ""
  | .base | .counter | .sink => "stylekit.runtime.classes."
  | .emptyTheme | .mappingTheme => "stylekit.runtime.theme."
  | .generated _ _ => "stylekit.generated_0."

def shown (c : ClassRef) : String := "<class " ++ Text.quote (c.home ++ c.name) ++ ">"

end ClassRef

inductive Function where
  /-- A value in pixels: a function that users give to their modules. The library has none. -/
  | pixels
  /-- What makes generated classes of their fields. -/
  | dataclass
  | builtin (name : String)
  /-- A function that a generated class defines. -/
  | defined (owner name : String)
  /-- A method of a built-in type without a value that it was read from. -/
  | unbound (type name : String)
deriving DecidableEq, Repr

inductive Value where
  | none
  | bool (b : Bool)
  | int (n : Int)
  | float (f : Float)
  /-- The double of data that is no number. There is only one, so a list that holds it equals
  itself; those that arithmetic gives are new ones each time. -/
  | nan
  | text (t : Text)
  | list (items : List Value)
  | tuple (items : List Value)
  | dict (members : Members)
  /-- An object read from a mapping. Every reading makes a new view, and a view equals no other. -/
  | view (members : Members)
  | theme (t : Theme)
  /-- A method together with what it was read from. -/
  | method (receiver : Value) (name : String)
  | function (f : Function)
  | classRef (c : ClassRef)
  /-- An instance of a generated class. -/
  | record (className : String) (fields : List (String × Value))
  | counter (n : Int)
  | sink
  /-- What the first import of every module brings. -/
  | feature
deriving Inhabited

namespace Value

mutual

/-- Data as a value. Objects inside lists stay plain. -/
def ofJson : Json → Value
  | .null => .none
  | .bool b => .bool b
  | .int n => .int n
  | .float f => if f.isNaN then .nan else .float f
  | .text s => .text s
  | .list items => .list (ofItems items)
  | .object members => .dict members

def ofItems : List Json → List Value
  | [] => []
  | j :: js => ofJson j :: ofItems js

end

def ofTheme : Theme → Value
  | .plain v => ofJson v
  | t => .theme t

/-- Data read from a mapping. -/
def wrap : Json → Value
  | .object members => .view members
  | j => ofJson j

/-- Whether a value has methods that are built in. -/
def isPrimitive : Value → Bool
  | .none | .bool _ | .int _ | .float _ | .nan | .text _ | .list _ | .tuple _ | .dict _ => true
  | _ => false

def typeName : Value → String
  | .none => "NoneType"
  | .bool _ => "bool"
  | .int _ => "int"
  | .float _ | .nan => "float"
  | .text _ => "str"
  | .list _ => "list"
  | .tuple _ => "tuple"
  | .dict _ => "dict"
  | .view _ => "MappingTheme"
  | .theme t => t.typeName
  | .method receiver _ => if receiver.isPrimitive then "builtin_function_or_method" else "method"
  | .function (.builtin _) => "builtin_function_or_method"
  | .function (.unbound _ _) => "method_descriptor"
  | .function _ => "function"
  | .classRef .sink => "_ProtocolMeta"
  | .classRef _ => "type"
  | .record className _ => className
  | .counter _ => "Counter"
  | .sink => "_io.StringIO"
  | .feature => "_Feature"

/-- The class that defines a method of a value. -/
def methodOwner (receiver : Value) (name : String) : String :=
  match receiver with
  | .view _ | .theme (.mapping _) | .theme (.derived _ _) => "MappingTheme"
  | .classRef (.generated owner _) => if name = "new" then owner else "Classes"
  | .classRef c => c.name
  | v => v.typeName

/-! ### Texts -/

/-- A whole number, unless it has too many digits. -/
def intText (n : Int) : Except EvalError String :=
  if (toString n.natAbs).length > Text.maxDigits then .error .hugeNumber else .ok (toString n)

def functionText : Function → String
  | .pixels => "<function px>"
  | .dataclass => "<function dataclass>"
  | .builtin name => "<built-in function " ++ name ++ ">"
  | .defined owner name => "<function " ++ owner ++ "." ++ name ++ ">"
  | .unbound type name => "<method " ++ Text.quote name ++ " of " ++ Text.quote type ++ " objects>"

mutual

/-- The text that shows a value and its type: texts are quoted. -/
def display : Value → Except EvalError String
  | .none => .ok "None"
  | .bool b => .ok (boolText b)
  | .int n => intText n
  | .float f => .ok (Shortest.text f)
  | .nan => .ok "nan"
  | .text t => .ok t.display
  | .list items => do return enclosed "[" "]" (← displayItems items)
  | .tuple items => do
    match ← displayItems items with
    | [item] => return "(" ++ item ++ ",)"
    | items => return enclosed "(" ")" items
  | .dict members => .ok (Json.object members).display
  | .view members => .ok (Theme.mapping members).display
  | .theme t => .ok t.display
  | .method receiver name =>
    if receiver.isPrimitive then
      .ok ("<built-in method " ++ name ++ " of " ++ receiver.typeName ++ " object>")
    else do
      return "<bound method " ++ receiver.methodOwner name ++ "." ++ name ++ " of " ++
        (← display receiver) ++ ">"
  | .function f => .ok (functionText f)
  | .classRef c => .ok c.shown
  | .record className fields => do
    return className ++ enclosed "(" ")" (← displayFields fields)
  | .counter n => .ok ("Counter(" ++ toString n ++ ")")
  | .sink => .ok "<_io.StringIO object>"
  | .feature => .ok "_Feature((3, 7, 0, 'beta', 1), None, 16777216)"

def displayItems : List Value → Except EvalError (List String)
  | [] => .ok []
  | v :: vs => do return (← display v) :: (← displayItems vs)

def displayFields : List (String × Value) → Except EvalError (List String)
  | [] => .ok []
  | (name, v) :: fs => do return (name ++ "=" ++ (← display v)) :: (← displayFields fs)

end

/-- The text of a value in a stylesheet: texts stand for themselves. -/
def toText : Value → Except EvalError Text
  | .text t => .ok t
  | v => do return (← v.display)

/-! ### Numbers and truth -/

def numeric? : Value → Option Numeric
  | .bool b => some (.int (if b then 1 else 0))
  | .int n => some (.int n)
  | .float f => some (.float f)
  | .nan => some (.float (0.0 / 0.0))
  | _ => Option.none

/-- The whole number that a value counts as. -/
def integer? : Value → Option Int
  | .bool b => some (if b then 1 else 0)
  | .int n => some n
  | _ => Option.none

/-- Whether a value counts as true. What is neither a number nor a container always does. -/
def isTrue : Value → Bool
  | .none => false
  | .bool b => b
  | .int n => n != 0
  | .float f => f != 0.0
  | .text t => !t.isEmpty
  | .list items => !items.isEmpty
  | .tuple items => !items.isEmpty
  | .dict members => !members.isEmpty
  | _ => true

end Value
end ScopedCss

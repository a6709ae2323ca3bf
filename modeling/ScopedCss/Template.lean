import ScopedCss.Config
import ScopedCss.SlotTable
import ScopedCss.Text.Basic

/-!
Templates. A rule tree becomes one text with holes, written as a pair of braces, and a parameter for
each hole: the slot of a class name or the expression of a value. Braces of the text itself are
doubled, so filling the holes gives the stylesheet back verbatim.
-/
namespace ScopedCss

/-- What goes into a hole. -/
inductive Param where
  | slot (index : Nat)
  | value (expression : String)
deriving DecidableEq, Repr

structure Template where
  text : String
  params : List Param
deriving DecidableEq, Repr

namespace Template

/-! ### Building -/

def doubleBraces (cs : List Char) : List Char :=
  cs.flatMap fun c => if c = '{' ∨ c = '}' then [c, c] else [c]

def hole : List Char := ['{', '}']

def empty : Template := ⟨"", []⟩

instance : Append Template := ⟨fun a b => ⟨a.text ++ b.text, a.params ++ b.params⟩⟩

@[simp] theorem text_append (a b : Template) : (a ++ b).text = a.text ++ b.text := rfl

@[simp] theorem params_append (a b : Template) : (a ++ b).params = a.params ++ b.params := rfl

/-- Text that is printed as it is. -/
def literal (s : String) : Template := ⟨String.ofList (doubleBraces s.toList), []⟩

/-- A generated class name behind its dot: the configured start and a number. -/
def classname (classPrefix : String) (slot : Nat) : Template :=
  ⟨String.ofList ('.' :: (doubleBraces classPrefix.toList ++ hole)), [.slot slot]⟩

def value (expression : String) : Template := ⟨String.ofList hole, [.value expression]⟩

/-- The indentation at a depth; compact stylesheets have none. -/
def pad (config : Config) (depth : Nat) : String :=
  if config.pretty then String.join (List.replicate depth config.indent) else ""

/-- A header, or the first of its class names that has no slot. -/
def ofParts (table : SlotTable) (config : Config) : List Part → Except String Template
  | [] => .ok empty
  | .raw t :: ps => (ofParts table config ps).map (literal t ++ ·)
  | .classname n :: ps =>
    match table.slot? n with
    | none => .error n
    | some i => (ofParts table config ps).map (classname config.classPrefix i ++ ·)

/-- A declaration with the text around it. -/
def ofEntry (config : Config) (depth : Nat) (e : Entry) : Template :=
  if config.pretty then
    literal (pad config depth ++ config.indent ++ e.property ++ ": ") ++ value e.value ++
      literal ";\n"
  else literal (" " ++ e.property ++ ": ") ++ value e.value ++ literal ";"

def ofEntries (config : Config) (depth : Nat) : List Entry → Template
  | [] => empty
  | e :: es => ofEntry config depth e ++ ofEntries config depth es

mutual

def ofRule (table : SlotTable) (config : Config) (depth : Nat) :
    Rule → Except String Template
  | .plain h es => do
    let header ← ofParts table config h.parts
    let head := literal (pad config depth) ++ header
    let body := ofEntries config depth es
    if config.pretty then
      return head ++ literal " \x7b\n" ++ body ++ literal (pad config depth ++ "\x7d\n")
    else return head ++ literal " \x7b" ++ body ++ literal " \x7d\n"
  | .nested h rs => do
    let header ← ofParts table config h.parts
    let body ← ofRules table config (depth + 1) rs
    return literal (pad config depth) ++ header ++ literal " \x7b\n" ++ body ++
      literal (pad config depth ++ "\x7d\n")

def ofRules (table : SlotTable) (config : Config) (depth : Nat) :
    List Rule → Except String Template
  | [] => .ok empty
  | r :: rs => do
    let first ← ofRule table config depth r
    let others ← ofRules table config depth rs
    return first ++ others

end

/-- The template of a rule tree over a table, or a class name that the table lacks. -/
def assemble (table : SlotTable) (config : Config) (rules : List Rule) : Except String Template :=
  ofRules table config 0 rules

/-! ### Filling -/

/-- The expressions of the values, in order. -/
def expressions (t : Template) : List String :=
  t.params.filterMap fun
    | .slot _ => none
    | .value e => some e

/-- Puts the arguments into the holes and makes doubled braces single. -/
def fill : List Char → List Text → List Letter
  | [], _ => []
  | '{' :: '{' :: r, args => .char '{' :: fill r args
  | '}' :: '}' :: r, args => .char '}' :: fill r args
  | '{' :: '}' :: r, a :: args => a.letters ++ fill r args
  | '{' :: '}' :: r, [] => fill r []
  | c :: r, args => .char c :: fill r args

/-- The texts for the holes: slots count from a start and values are taken in order. The first
expression that no value is left for is the error. Slots have no limit on their digits here, as the
numbers among the values have (`Text.maxDigits`). -/
def arguments (start : Int) : List Param → List Text → Except String (List Text)
  | [], _ => .ok []
  | .slot i :: ps, vs => (arguments start ps vs).map (.ofString (toString (start + i)) :: ·)
  | .value _ :: ps, v :: vs => (arguments start ps vs).map (v :: ·)
  | .value e :: _, [] => .error e

/-- The stylesheet text for slots that count from a start and the texts of the values. -/
def render (t : Template) (start : Int) (values : List Text) : Except String Text :=
  (arguments start t.params values).map fun args => .ofLetters (fill t.text.toList args)

end Template
end ScopedCss

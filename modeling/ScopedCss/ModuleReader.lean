import ScopedCss.ClassDef
import ScopedCss.Expr.Token

/-!
Reading generated modules. What a class does is what the text of its module says, so the text is
read back before its classes are defined. Only texts that are laid out as generated ones are read.
The values in them are any code: a value stands in parentheses, and where these close depends on the
brackets, the literals and the comments in it. A comment ends at a carriage return here, other than
in a source.
-/
namespace ScopedCss

/-! ### Code in parentheses -/

/-- What a place in code is a part of. -/
inductive CodeMode where
  | code
  | comment
  | quoted (quote : Char)
  /-- Behind a backslash in a literal. -/
  | escaped (quote : Char)
deriving DecidableEq, Repr

/-- A place in code. -/
structure CodePlace where
  /-- What closes the brackets that are open, the innermost first. -/
  awaited : List Char := []
  mode : CodeMode := .code
deriving DecidableEq, Repr

namespace CodePlace

/-- What closes a bracket. -/
def closer? (c : Char) : Option Char :=
  if c = '(' then some ')' else if c = '[' then some ']' else if c = '{' then some '}' else none

/-- A character that stands for itself; none if it is a bracket that closes nothing. -/
def stepCode (p : CodePlace) (c : Char) : Option CodePlace :=
  if c = '#' then some { p with mode := .comment }
  else if Source.isQuote c then some { p with mode := .quoted c }
  else match closer? c with
    | some closer => some { p with awaited := closer :: p.awaited }
    | none =>
      if c = ')' ∨ c = ']' ∨ c = '}' then
        if p.awaited.head? = some c then some { p with awaited := p.awaited.tail } else none
      else some p

/-- The place behind a character. -/
def step (p : CodePlace) (c : Char) : Option CodePlace :=
  match p.mode with
  | .code => p.stepCode c
  | .comment => some { p with mode := if c = '\n' ∨ c = '\r' then .code else .comment }
  | .quoted q =>
    some { p with mode := if c = '\x5c' then .escaped q else if c = q then .code else .quoted q }
  | .escaped q => some { p with mode := .quoted q }

/-- The code up to the parenthesis that closes it, and what follows that. -/
def enclosed? (p : CodePlace) : List Char → Option (List Char × List Char)
  | [] => none
  | c :: cs =>
    if p = {} ∧ c = ')' then some ([], cs)
    else do
      let (inside, rest) ← (← p.step c).enclosed? cs
      return (c :: inside, rest)

end CodePlace

/-- Whether parentheses around a value close behind it and not inside of it. -/
def Argument.isEnclosed : Argument → Bool
  | .slot _ => true
  | .value source => source.toList.foldlM CodePlace.step {} = some {}

/-- No text with a null character is read as a module. -/
def Argument.hasNull : Argument → Bool
  | .slot _ => false
  | .value source => source.toList.contains (Char.ofNat 0)

/-! ### Readers -/

/-- Reads something off the front of a text. -/
abbrev Reading := StateT (List Char) Option

namespace Reading

def phrase (s : String) : Reading Unit := fun cs => (s.toList.isPrefixOf? cs).map ((), ·)

/-- All characters of a kind that come first. -/
def charsOf (kind : Char → Bool) : Reading (List Char) := fun cs =>
  some (cs.takeWhile kind, cs.dropWhile kind)

def word : Reading String := return String.ofList (← charsOf Text.isIdentifierContinue)

/-- Words with dots between them. -/
def path : Reading String :=
  return String.ofList (← charsOf fun c => Text.isIdentifierContinue c || c == '.')

def number : Reading Nat := return Text.decimalNumber (← charsOf Char.isDigit)

/-- The text of a literal. -/
def literal : Reading String := fun cs => do
  let cut ← Source.string? cs
  match Expr.textToken? cut.text with
  | some (.text t) => return (← t.toString?, cut.rest)
  | _ => none

/-- As many items as there are, up to a number. -/
def upTo (item : Reading α) : Nat → Reading (List α)
  | 0 => pure []
  | n + 1 => fun cs =>
    match item cs with
    | none => some ([], cs)
    | some (a, rest) => (upTo item n rest).map fun p => (a :: p.1, p.2)

def many (item : Reading α) : Reading (List α) := fun cs => upTo item cs.length cs

end Reading

/-! ### Modules -/

namespace ModuleReader

open ClassDef (indent)
open Reading

/-- What stands between a value of several lines and its closing parenthesis. -/
def padding : List Char := ("\n" ++ indent 4).toList

/-- A value without what was put between it and its parenthesis. -/
def unpadded? (inside : List Char) : Option (List Char) :=
  if inside.contains '\n' then
    if padding.isSuffixOf inside then some (inside.take (inside.length - padding.length)) else none
  else some inside

/-- A value behind its opening parenthesis. -/
def value : Reading String := fun cs => do
  let (inside, rest) ← CodePlace.enclosed? {} cs
  return (String.ofList (← unpadded? inside), rest)

def argument : Reading Argument := do
  phrase (indent 4)
  let a ← (do phrase "_start + "; return .slot (← number)) <|>
    (do phrase "("; return .value (← value))
  phrase ("," ++ "\n")
  return a

def literalLine : Reading String := do
  phrase (indent 4)
  let l ← literal
  phrase "\n"
  return l

/-- The name of a field. -/
def field : Reading String := do
  phrase (indent 1)
  let name ← word
  phrase (": str" ++ "\n")
  return name

/-- What a field is given: a prefix and a slot. -/
structure FieldValue where
  name : String
  classPrefix : String
  slot : Nat

def fieldValue : Reading FieldValue := do
  phrase (indent 3)
  let name ← word
  phrase "="
  let classPrefix ← literal
  phrase " + str(start + "
  let slot ← number
  phrase (")," ++ "\n")
  return { name, classPrefix, slot }

/-- A line of its own. -/
def line (depth : Nat) (s : String) : String := indent depth ++ s ++ "\n"

/-- The values of the fields of an instance, behind an opening parenthesis. -/
def fieldValues (hasFields : Bool) : Reading (List FieldValue) :=
  if hasFields then do
    phrase "\n"
    let values ← many fieldValue
    phrase (line 2 ")")
    return values
  else do
    phrase (")" ++ "\n")
    return []

/-- A class. All of its fields are given one prefix. -/
def classDef : Reading ClassDef := do
  phrase (line 0 "@dataclass(frozen=True)" ++ "class ")
  let name ← word
  phrase ("(Classes):" ++ "\n")
  let declared ← many field
  phrase (if declared.isEmpty then "" else "\n")
  phrase (line 1 "@staticmethod" ++ indent 1 ++ "def generate(")
  let themeVar ← word
  phrase ": "
  let themeType ← path
  phrase (", _css: TextSink, _counter: Counter) -> None:" ++ "\n" ++
    line 2 "_start = _counter.value" ++ line 2 "_css.write(" ++ line 3 "(")
  let literals ← many literalLine
  phrase (line 3 ").format(")
  let arguments ← many argument
  phrase (line 3 ")" ++ line 2 ")" ++ indent 2 ++ "_counter.value = _start + ")
  let slotCount ← number
  phrase ("\n" ++ "\n" ++ line 1 "@classmethod" ++ indent 1 ++ "def new(cls, start: int) -> " ++
    name ++ ":" ++ "\n" ++ indent 2 ++ "return cls(")
  let values ← fieldValues !declared.isEmpty
  let classPrefix := (values.head?.map (·.classPrefix)).getD ""
  guard (values.map (·.name) = declared ∧ values.all (·.classPrefix = classPrefix))
  return {
    name, themeVar, themeType, classPrefix, literals, arguments, slotCount
    fields := values.map fun v => (v.name, v.slot) }

/-- The classes of a whole module. -/
def classDefs : Reading (List ClassDef) := do
  phrase (ClassDef.moduleText [] [] "")
  many do
    phrase "\n\n"
    classDef

def read? (text : String) : Option (List ClassDef) :=
  match classDefs text.toList with
  | some (defs, []) => some defs
  | _ => none

end ModuleReader
end ScopedCss

import ScopedCss.Expr.Eval
import ScopedCss.Expr.Parser

/-!
What value expressions do. A value is evaluated inside the method that writes the stylesheet of its
class, and it may do more there than give a value: it may write to the sink, move the counter, or
make the method one whose body a call does not run. What the text of a value does is up to a
language, and all that loads classes takes one. `Language.basic` is the language in use. It
evaluates the expressions of `Expr` and knows one call that writes, one that moves the counter, and
the word that suspends; of all else it says that it is not described, by `EvalError.undescribed`: of
texts with format specifications, conversions or other fields that are no such expression, of
escapes by the names of characters, and of that word elsewhere. What values do to anything but the
sink and the counter, such as printing or ending the program, is left out.
-/
namespace ScopedCss

/-- What a call of a generated class has done so far. -/
@[ext] structure Deeds where
  written : Text
  counter : Int
deriving DecidableEq

/-- A value as a template takes it: its text, if it has one. -/
abbrev Shown := Except EvalError Text

/-- Something done during a call of a generated class. -/
abbrev Doing := ExceptT EvalError (StateM Deeds)

def Doing.ofExcept : Except EvalError α → Doing α
  | .ok a => pure a
  | .error e => throw e

/-! ### Codes -/

/-- What is made of the text of a value. -/
inductive Code where
  | expr (e : Expr)
  /-- Any other computation that does nothing but give a value or fail. -/
  | plain (value : Scope → Except EvalError Shown)
  /-- A computation that may also write and move the counter. -/
  | acting (run : Scope → Doing Shown)
  /-- Makes a call of the method that it stands in do nothing. -/
  | suspending

namespace Code

/-- Whether the code does nothing but give a value or fail. -/
def isPlain : Code → Bool
  | .expr _ | .plain _ => true
  | .acting _ | .suspending => false

def isActing : Code → Bool
  | .acting _ => true
  | _ => false

def isSuspending : Code → Bool
  | .suspending => true
  | _ => false

/-- The value of a code that is plain. -/
def value (s : Scope) : Code → Except EvalError Shown
  | .expr e => (e.eval s).map Value.toText
  | .plain value => value s
  | .acting _ | .suspending => .error .undescribed

/-- Runs a code where the counter may have been moved since the call began. -/
def run (s : Scope) (c : Code) : Doing Shown := do
  let s := { s with counter := (← get).counter }
  match c with
  | .acting run => run s
  | c => Doing.ofExcept (c.value s)

/-- Writes a text; what is given is its length. -/
def write (text : Expr) : Code :=
  .acting fun s => do
    match ← Doing.ofExcept (text.eval s) with
    | .text t =>
      modify fun d => { d with written := d.written ++ t }
      return .ok (toString t.length : String)
    | _ => throw .undescribed

/-- Moves the counter; nothing is given. -/
def moveCounter (place : Expr) : Code :=
  .acting fun s => do
    match ← Doing.ofExcept (place.eval s) with
    | .int n =>
      modify fun d => { d with counter := n }
      return .ok "None"
    | _ => throw .undescribed

def ofExpr : Expr → Code
  | .call (.attribute (.name "_css") "write") [text] [] => write text
  | .call (.attribute (.name "_counter") "__init__") [place] [] => moveCounter place
  | e => .expr e

end Code

/-! ### Languages -/

/-- What texts of values do inside a class of a name; none if a module with such a text cannot be
read. -/
structure Language where
  read? : (owner source : String) → Option Code

def Language.basic : Language where
  read? owner source :=
    match Expr.parse? owner source with
    | some e => some (.ofExpr e)
    | none =>
      if Expr.isSuspension owner source then some .suspending
      else if Expr.isBeyond source.length source.toList then
        some (.acting fun _ => throw .undescribed)
      else none

end ScopedCss

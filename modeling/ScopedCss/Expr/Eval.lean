import ScopedCss.Expr.Basic
import ScopedCss.Value.Access
import ScopedCss.Value.Builtin

/-!
Evaluation of value expressions. Operands are evaluated from left to right, and the first one that
fails is the failure of the whole. Evaluation does nothing but give a value or fail. What it does
not describe ends it with `EvalError.undescribed`: calls of built-in functions, classes and methods
other than texts, pixels, generated classes and the methods of themes; attributes with two
underscores on both sides; built-in names for failures and the like; and percent signs in texts that
are filled.
-/
namespace ScopedCss

/-- Names with what they stand for; of two entries for a name the first one counts. -/
abbrev Namespace := List (String × Value)

/-- What the names of an expression stand for. -/
structure Scope where
  /-- The class that the expression belongs to. -/
  owner : ClassRef
  themeVar : String
  theme : Theme
  /-- The first slot of the class that is written. -/
  start : Int
  /-- Where the counter stands. -/
  counter : Int
  globals : Namespace

/-- The theme variable, the other local names, the global names and the built-in ones, in this
order. -/
def Scope.lookup (s : Scope) (name : String) : Except EvalError Value :=
  if name = s.themeVar then .ok (.ofTheme s.theme)
  else if name = "_start" then .ok (.int s.start)
  else if name = "_counter" then .ok (.counter s.counter)
  else if name = "_css" then .ok .sink
  else if name = "__class__" then .ok (.classRef s.owner)
  else match s.globals.lookup name, Builtin.find? name with
    | some v, _ => .ok v
    | none, some v => .ok v
    | none, none =>
      if Builtin.others.contains name then .error .undescribed else .error (.unbound name)

namespace Expr

mutual

def eval (s : Scope) : Expr → Except EvalError Value
  | .none => .ok .none
  | .bool b => .ok (.bool b)
  | .int n => .ok (.int n)
  | .float f => .ok (.float f)
  | .text t => .ok (.text t)
  | .name n => s.lookup n
  | .list items => do return .list (← evalItems s items)
  | .tuple items => do return .tuple (← evalItems s items)
  | .joined pieces => do return .text (Text.join (← evalPieces s pieces))
  | .attribute e n => do (← eval s e).attributeOf n
  | .subscript e index => do
    let v ← eval s e
    v.subscript (← eval s index)
  | .call f args keywords => do
    let v ← eval s f
    let vs ← evalItems s args
    let count := vs.length - keywords.length
    v.call (vs.take count) (keywords.zip (vs.drop count))
  | .sign negative e => do (← eval s e).signed negative
  | .not e => do return .bool (!(← eval s e).isTrue)
  | .arith op a b => do
    let v ← eval s a
    Value.arith op v (← eval s b)
  | .compare first ops others => do
    let v ← eval s first
    evalChain s v ops others
  | .and a b => do
    let v ← eval s a
    if v.isTrue then eval s b else return v
  | .or a b => do
    let v ← eval s a
    if v.isTrue then return v else eval s b
  | .choice condition yes no => do
    let v ← eval s condition
    if v.isTrue then eval s yes else eval s no

def evalItems (s : Scope) : List Expr → Except EvalError (List Value)
  | [] => .ok []
  | e :: es => do
    let v ← eval s e
    return v :: (← evalItems s es)

/-- The texts of pieces, each one made before the next piece is evaluated. -/
def evalPieces (s : Scope) : List Expr → Except EvalError (List Text)
  | [] => .ok []
  | e :: es => do
    let t ← (← eval s e).toText
    return t :: (← evalPieces s es)

/-- Compares a value with the next one, and that one with the next, up to the first comparison that
does not hold. -/
def evalChain (s : Scope) (v : Value) :
    List Value.CompareOp → List Expr → Except EvalError Value
  | op :: ops, e :: es => do
    let w ← eval s e
    if ← Value.compare op v w then
      if es.isEmpty then return .bool true else evalChain s w ops es
    else return .bool false
  | _, _ => .ok (.bool true)

end

end Expr
end ScopedCss

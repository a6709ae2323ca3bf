import ScopedCss.Value.Basic
import ScopedCss.Value.Error

/-!
Equality and order of values. Any two values can be asked for equality; only numbers, texts, lists
and tuples have an order, each among themselves, and lists are ordered by their first difference.
-/
namespace ScopedCss.Value

/-- Whether two themes are one. During an evaluation there is only one that is not empty. -/
def isSameTheme : Theme → Theme → Bool
  | .empty, .empty => true
  | .mapping _, .mapping _ => true
  | .derived _ _, .derived _ _ => true
  | .custom _ c, .custom _ d => Json.sameItem c d
  | _, _ => false

def isNan : Value → Bool
  | .nan => true
  | _ => false

mutual

/-- The theme of an evaluation equals itself, a view nothing. -/
def same : Value → Value → Bool
  | .none, .none => true
  | .text s, .text t => s == t
  | .list as, .list bs => sameItems as bs
  | .tuple as, .tuple bs => sameItems as bs
  | .dict ms, .dict ns => (Json.object ms).same (.object ns)
  | .theme t, .theme u => isSameTheme t u
  | .method r m, .method s n => m == n && same r s
  | .function f, .function g => f == g
  | .classRef c, .classRef d => c == d
  | .record c fs, .record d gs => c == d && sameFields fs gs
  | .counter _, .counter _ => true
  | .sink, .sink => true
  | .feature, .feature => true
  | a, b =>
    match a.numeric?, b.numeric? with
    | some m, some n => m.same n
    | _, _ => false

/-- Items are taken for equal also if they are one and the same. -/
def sameItems : List Value → List Value → Bool
  | [], [] => true
  | a :: as, b :: bs => (isNan a && isNan b || same a b) && sameItems as bs
  | _, _ => false

/-- The fields of two instances of one class. -/
def sameFields : List (String × Value) → List (String × Value) → Bool
  | [], [] => true
  | (_, a) :: fs, (_, b) :: gs => (isNan a && isNan b || same a b) && sameFields fs gs
  | _, _ => false

end

/-- Whether two items of lists are equal or the same. -/
def sameItem (a b : Value) : Bool := isNan a && isNan b || same a b

inductive CompareOp where
  | eq | ne | lt | le | gt | ge
deriving DecidableEq, Repr

def CompareOp.text : CompareOp → String
  | .eq => "=="
  | .ne => "!="
  | .lt => "<"
  | .le => "<="
  | .gt => ">"
  | .ge => ">="

/-- Whether an operator holds of an order; what has no order satisfies inequality only. -/
def CompareOp.holds (op : CompareOp) (o : Option Ordering) : Bool :=
  match op, o with
  | .eq, o => o == some .eq
  | .ne, o => o != some .eq
  | .lt, o => o == some .lt
  | .le, o => o == some .lt || o == some .eq
  | .gt, o => o == some .gt
  | .ge, o => o == some .gt || o == some .eq

mutual

/-- The outcome of an ordering operator. -/
def order (op : CompareOp) : Value → Value → Except EvalError Bool
  | .text s, .text t => .ok (op.holds (some (s.compare t)))
  | .list as, .list bs => orderItems op as bs
  | .tuple as, .tuple bs => orderItems op as bs
  | a, b =>
    match a.numeric?, b.numeric? with
    | some m, some n => .ok (op.holds (m.compare? n))
    | _, _ => .error (.notOrdered op.text a.typeName b.typeName)

def orderItems (op : CompareOp) : List Value → List Value → Except EvalError Bool
  | [], [] => .ok (op.holds (some .eq))
  | [], _ :: _ => .ok (op.holds (some .lt))
  | _ :: _, [] => .ok (op.holds (some .gt))
  | a :: as, b :: bs => if sameItem a b then orderItems op as bs else order op a b

end

/-- The outcome of any comparing operator. -/
def compare (op : CompareOp) (a b : Value) : Except EvalError Bool :=
  match op with
  | .eq => .ok (same a b)
  | .ne => .ok (!same a b)
  | op => order op a b

end ScopedCss.Value

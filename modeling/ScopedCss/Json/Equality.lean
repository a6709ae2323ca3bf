import ScopedCss.Json.Basic
import ScopedCss.Number.Binary64

/-!
Equality of data. Numbers are equal if they have one value, whatever their type, and a truth value
counts as one or zero; objects are equal if they have the same members in any order. What is no
number equals nothing, but a list or an object that holds it equals itself.
-/
namespace ScopedCss

/-- A number of either kind. -/
inductive Numeric where
  | int (n : Int)
  | float (f : Float)

namespace Numeric

/-- The order of two numbers by their exact values; none if one is no number. -/
def compare? : Numeric → Numeric → Option Ordering
  | .int a, .int b => some (compare a b)
  | .int a, .float b => Binary64.compareInt a b
  | .float a, .int b => (Binary64.compareInt b a).map Ordering.swap
  | .float a, .float b =>
    if a < b then some .lt else if b < a then some .gt else if a == b then some .eq else none

def same (a b : Numeric) : Bool := a.compare? b == some .eq

end Numeric

namespace Json

def numeric? : Json → Option Numeric
  | .bool b => some (.int (if b then 1 else 0))
  | .int n => some (.int n)
  | .float f => some (.float f)
  | _ => none

/-- Equality of values that are neither lists nor objects. -/
def sameScalar (a b : Json) : Bool :=
  match a, b with
  | .null, .null => true
  | .text s, .text t => s == t
  | a, b =>
    match a.numeric?, b.numeric? with
    | some m, some n => m.same n
    | _, _ => false

/-- The double that is no number; data has it only once. -/
def isNan : Json → Bool
  | .float f => f.isNaN
  | _ => false

mutual

def same : Json → Json → Bool
  | .list as, .list bs => sameItems as bs
  | .object ms, .object ns => ms.length == ns.length && sameMembers ms ns
  | .list _, _ => false
  | .object _, _ => false
  | a, b => sameScalar a b

/-- Items are taken for equal also if they are one and the same. -/
def sameItems : List Json → List Json → Bool
  | [], [] => true
  | a :: as, b :: bs => (isNan a && isNan b || same a b) && sameItems as bs
  | _, _ => false

/-- Every member of the first list is in the second one. -/
def sameMembers : List (Text × Json) → List (Text × Json) → Bool
  | [], _ => true
  | (name, a) :: ms, ns =>
    (match ns.lookup name with
      | some b => isNan a && isNan b || same a b
      | none => false) && sameMembers ms ns

end

/-- Whether two items of lists are equal or the same. -/
def sameItem (a b : Json) : Bool := isNan a && isNan b || same a b

end Json
end ScopedCss

import ScopedCss.Value.Arithmetic
import ScopedCss.Value.Compare

/-! The syntax of value expressions. -/
namespace ScopedCss

open Value (ArithOp CompareOp)

inductive Expr where
  | none
  | bool (b : Bool)
  | int (n : Int)
  | float (f : Float)
  | text (t : Text)
  | name (n : String)
  | list (items : List Expr)
  | tuple (items : List Expr)
  /-- The texts of several values in a row. -/
  | joined (pieces : List Expr)
  | attribute (e : Expr) (name : String)
  | subscript (e index : Expr)
  /-- A call. The last arguments are the ones that have keywords. -/
  | call (f : Expr) (args : List Expr) (keywords : List String)
  | sign (negative : Bool) (e : Expr)
  | not (e : Expr)
  | arith (op : ArithOp) (a b : Expr)
  /-- A chain of comparisons of neighbours. -/
  | compare (first : Expr) (ops : List CompareOp) (others : List Expr)
  | and (a b : Expr)
  | or (a b : Expr)
  | choice (condition yes no : Expr)
deriving Inhabited

end ScopedCss

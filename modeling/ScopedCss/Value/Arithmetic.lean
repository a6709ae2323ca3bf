import ScopedCss.Value.Basic
import ScopedCss.Value.Error

/-!
Arithmetic on values. Whole numbers are unbounded, their division by a single stroke gives the
nearest double, and floor division and remainder go with the sign of the divisor. Texts, lists and
tuples can be joined and repeated.
-/
namespace ScopedCss.Value

inductive ArithOp where
  | add | sub | mul | div | floorDiv | rem
deriving DecidableEq, Repr

def ArithOp.text : ArithOp → String
  | .add => "+"
  | .sub => "-"
  | .mul => "*"
  | .div => "/"
  | .floorDiv => "//"
  | .rem => "%"

/-! ### Doubles -/

/-- The remainder with the sign of the dividend, exactly. -/
def truncatedRem (a b : Float) : Float :=
  match Binary64.ofFloat a, Binary64.ofFloat b with
  | .finite na ma ea, .finite nb mb eb =>
    let (p, q) := Binary64.ratio na ma ea
    let (r, s) := Binary64.ratio nb mb eb
    let rest := Int.tmod (p * s) (r * q)
    Binary64.nearest na rest.natAbs (q * s)
  | .finite _ _ _, .infinite _ => a
  | _, _ => 0.0 / 0.0

def isNegative (f : Float) : Bool :=
  match Binary64.ofFloat f with
  | .finite negative _ _ => negative
  | .infinite negative => negative
  | .nan => false

def signedZero (negative : Bool) : Float := if negative then -0.0 else 0.0

/-- Floor quotient and remainder of doubles, for a divisor that is not zero. -/
def floatDivRem (a b : Float) : Float × Float :=
  let rem := truncatedRem a b
  let quotient := (a - rem) / b
  let (rem, quotient) :=
    if rem != 0.0 then
      if (b < 0.0) != (rem < 0.0) then (rem + b, quotient - 1.0) else (rem, quotient)
    else (signedZero (isNegative b), quotient)
  if quotient != 0.0 then
    let floor := quotient.floor
    (if quotient - floor > 0.5 then floor + 1.0 else floor, rem)
  else (signedZero (isNegative (a / b)), rem)

def floatArith (op : ArithOp) (a b : Float) : Except EvalError Float :=
  match op with
  | .add => .ok (a + b)
  | .sub => .ok (a - b)
  | .mul => .ok (a * b)
  | .div => if b == 0.0 then .error (.zeroDivision .float) else .ok (a / b)
  | .floorDiv =>
    if b == 0.0 then .error (.zeroDivision .floatFloor) else .ok (floatDivRem a b).1
  | .rem => if b == 0.0 then .error (.zeroDivision .floatRemainder) else .ok (floatDivRem a b).2

/-! ### Numbers -/

def intArith (op : ArithOp) (a b : Int) : Except EvalError Value :=
  match op with
  | .add => .ok (.int (a + b))
  | .sub => .ok (.int (a - b))
  | .mul => .ok (.int (a * b))
  | .div =>
    if b = 0 then .error (.zeroDivision .int)
    else
      let f := Binary64.nearest ((a < 0) != (b < 0)) a.natAbs b.natAbs
      match Binary64.ofFloat f with
      | .finite _ _ _ => .ok (.float f)
      | _ => .error (.overflow .division)
  | .floorDiv => if b = 0 then .error (.zeroDivision .intFloor) else .ok (.int (Int.fdiv a b))
  | .rem => if b = 0 then .error (.zeroDivision .intRemainder) else .ok (.int (Int.fmod a b))

def toFloat : Numeric → Except EvalError Float
  | .float f => .ok f
  | .int n =>
    match Binary64.ofInt? n with
    | some f => .ok f
    | Option.none => .error (.overflow .conversion)

def numericArith (op : ArithOp) : Numeric → Numeric → Except EvalError Value
  | .int a, .int b => intArith op a b
  | m, n => do
    let a ← toFloat m
    let b ← toFloat n
    return .float (← floatArith op a b)

/-! ### Sequences -/

def repeatText (t : Text) (n : Int) : Text := Text.join (List.replicate n.toNat t)

def repeatItems (items : List Value) (n : Int) : List Value :=
  (List.replicate n.toNat items).flatten

/-- The greatest count and the greatest length of a text. -/
def maxCount : Int := Int.pow 2 63 - 1

/-- How many items there is room for. -/
def maxItems : Int := Int.pow 2 32

/-- Repetition of a sequence of that length. Nothing can be repeated any number of times. -/
def repeatTimes (isText : Bool) (length : Nat) (n : Int) (make : Int → Value) :
    Except EvalError Value :=
  if length = 0 ∨ n ≤ 0 then .ok (make 0)
  else if isText ∧ length * n > maxCount then .error (.overflow .length)
  else if length * n > maxItems then .error .outOfMemory
  else .ok (make n)

/-- Repetition of a sequence; none if the first value is no sequence. The count is a word of 64
bits. -/
def repeat? (v count : Value) : Option (Except EvalError Value) :=
  let times (isText : Bool) (length : Nat) (make : Int → Value) : Except EvalError Value :=
    match count.integer? with
    | some n =>
      if n > maxCount ∨ n < -maxCount - 1 then .error (.overflow .count)
      else repeatTimes isText length n make
    | Option.none => .error (.cannotRepeat count.typeName)
  match v with
  | .text t => some (times true t.length fun n => .text (repeatText t n))
  | .list items => some (times false items.length fun n => .list (repeatItems items n))
  | .tuple items => some (times false items.length fun n => .tuple (repeatItems items n))
  | _ => Option.none

def unsupported (op : ArithOp) (a b : Value) : Except EvalError Value :=
  .error (.unsupported op.text a.typeName b.typeName)

/-- Operators on values that are not both numbers. -/
def sequenceArith (op : ArithOp) (a b : Value) : Except EvalError Value :=
  match op, a, b with
  | .add, .text s, .text t => .ok (.text (s ++ t))
  | .add, .text _, b => .error (.cannotConcatenate .text b.typeName)
  | .add, .list as, .list bs => .ok (.list (as ++ bs))
  | .add, .list _, b => .error (.cannotConcatenate .list b.typeName)
  | .add, .tuple as, .tuple bs => .ok (.tuple (as ++ bs))
  | .add, .tuple _, b => .error (.cannotConcatenate .tuple b.typeName)
  | .mul, a, b =>
    match repeat? a b, repeat? b a with
    | some r, _ => r
    | Option.none, some r => r
    | Option.none, Option.none => unsupported .mul a b
  | .rem, .text s, b =>
    -- what a percent sign in the text asks for is not described
    if s.contains '%' then .error .undescribed
    else match b with
    | .tuple [] | .list _ | .dict _ | .view _ | .theme (.mapping _) | .theme (.derived _ _) =>
      .ok (.text s)
    | _ => .error .unusedArguments
  | op, a, b => unsupported op a b

def arith (op : ArithOp) (a b : Value) : Except EvalError Value :=
  match a.numeric?, b.numeric? with
  | some m, some n => numericArith op m n
  | _, _ => sequenceArith op a b

/-- A number with its sign kept or changed. -/
def signed (negative : Bool) (v : Value) : Except EvalError Value :=
  match v, v.numeric? with
  | .nan, _ => .ok (if negative then .float (0.0 / 0.0) else .nan)
  | _, some (.int n) => .ok (.int (if negative then -n else n))
  | _, some (.float f) => .ok (.float (if negative then -f else f))
  | _, Option.none => .error (.noSign (if negative then "-" else "+") v.typeName)

end ScopedCss.Value

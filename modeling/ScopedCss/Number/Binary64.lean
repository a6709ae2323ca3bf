/-!
Double-precision numbers as exact binary fractions. A finite double is a signed whole number below
2^53 times a power of two; every ratio of whole numbers has a nearest double, and of two equally
near ones the one with the even mantissa is taken.
-/
namespace ScopedCss

/-- The exact value of a double: `mantissa * 2 ^ exponent` with a sign, or no finite number. -/
inductive Binary64 where
  | nan
  | infinite (negative : Bool)
  | finite (negative : Bool) (mantissa : Nat) (exponent : Int)
deriving DecidableEq, Repr

namespace Binary64

def ofFloat (f : Float) : Binary64 :=
  let bits : Nat := f.toBits.toNat
  let negative := bits / Nat.pow 2 63 == 1
  let field : Nat := bits / Nat.pow 2 52 % Nat.pow 2 11
  let fraction : Nat := bits % Nat.pow 2 52
  if field = 2047 then (if fraction = 0 then .infinite negative else .nan)
  else if field = 0 then .finite negative fraction (-1074)
  else .finite negative (fraction + Nat.pow 2 52) ((field : Int) - 1075)

/-- The double with a given sign, mantissa below 2^53 and exponent; beyond the range it is
infinite. -/
def pack (negative : Bool) (mantissa : Nat) (exponent : Int) : Float :=
  let sign : Nat := if negative then Nat.pow 2 63 else 0
  let bits : Nat :=
    if exponent > 971 then 2047 * Nat.pow 2 52
    else if mantissa < Nat.pow 2 52 then mantissa
    else (exponent + 1075).toNat * Nat.pow 2 52 + (mantissa - Nat.pow 2 52)
  Float.ofBits (sign + bits).toUInt64

/-- A whole number over a positive one, scaled down by a power of two: quotient, remainder and
divisor. -/
def scaled (num den : Nat) (exponent : Int) : Nat × Nat × Nat :=
  let n := num * Nat.pow 2 (-exponent).toNat
  let d := den * Nat.pow 2 exponent.toNat
  (n / d, n % d, d)

/-- The nearest whole number to a quotient with remainder, a half going to the even neighbour. -/
def roundHalfEven (quotient remainder divisor : Nat) : Nat :=
  if 2 * remainder < divisor then quotient
  else if divisor < 2 * remainder then quotient + 1
  else quotient + quotient % 2

/-- The nearest double to a ratio of whole numbers with a sign. -/
def nearest (negative : Bool) (num den : Nat) : Float :=
  if num = 0 then pack negative 0 (-1074)
  else
    let guess : Int := max ((num.log2 : Int) - den.log2 - 53) (-1074)
    let exponent := if (scaled num den guess).1 < Nat.pow 2 53 then guess else guess + 1
    let (q, r, d) := scaled num den exponent
    let mantissa := roundHalfEven q r d
    if mantissa < Nat.pow 2 53 then pack negative mantissa exponent
    else pack negative (mantissa / 2) (exponent + 1)

/-- The nearest double to `digits * 10 ^ exponent`. What is far out of range, by the number of
digits before the point, is cut short. -/
def ofDecimal (negative : Bool) (digits : Nat) (exponent : Int) : Float :=
  let magnitude := exponent + (digits.log2 * 30103 / 100000 : Nat)
  if digits = 0 then pack negative 0 (-1074)
  else if magnitude > 800 then pack negative 0 1000
  else if magnitude < -800 then pack negative 0 (-1074)
  else nearest negative (digits * Nat.pow 10 exponent.toNat) (Nat.pow 10 (-exponent).toNat)

/-- The nearest double to a whole number; none if it is out of range. -/
def ofInt? (n : Int) : Option Float :=
  let f := nearest (n < 0) n.natAbs 1
  match ofFloat f with
  | .finite _ _ _ => some f
  | _ => none

/-- The whole numbers whose ratio is a finite double, the second one positive. -/
def ratio (negative : Bool) (mantissa : Nat) (exponent : Int) : Int × Nat :=
  let m := mantissa * Nat.pow 2 exponent.toNat
  (if negative then -(m : Int) else m, Nat.pow 2 (-exponent).toNat)

/-- Exact comparison of a whole number with a double; none if the double is no number. -/
def compareInt (n : Int) (f : Float) : Option Ordering :=
  match ofFloat f with
  | .nan => none
  | .infinite negative => some (if negative then .gt else .lt)
  | .finite negative m e =>
    let (num, den) := ratio negative m e
    some (compare (n * den) num)

end Binary64
end ScopedCss

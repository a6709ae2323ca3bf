import ScopedCss.Number.Binary64

/-!
Shortest decimals. The text of a double has the fewest digits that read back as it, and among those
the ones nearest to it. It is positional for decimal points from three zeros behind the point up to
sixteen digits before it, and always shows a point or an exponent.
-/
namespace ScopedCss.Shortest

/-- The reals that round to a double, in quarters of its last place: the value, the lower and the
upper end, and whether the ends belong to it. -/
structure Span where
  value : Nat
  low : Nat
  high : Nat
  closed : Bool

def spanOf (mantissa : Nat) (exponent : Int) : Span where
  value := 4 * mantissa
  low := if mantissa = Nat.pow 2 52 ∧ exponent ≠ -1074 then 4 * mantissa - 1 else 4 * mantissa - 2
  high := 4 * mantissa + 2
  closed := mantissa % 2 == 0

def Span.contains (s : Span) (n : Nat) : Bool :=
  if s.closed then s.low ≤ n && n ≤ s.high else s.low < n && n < s.high

def Span.scale (s : Span) (k : Nat) : Span := { s with
  value := s.value * k, low := s.low * k, high := s.high * k }

/-- The point of the grid of spacing `10 ^ grid` that lies in the span and is nearest to the value,
as a multiple of the spacing. -/
def onGrid? (s : Span) (exponent grid : Int) : Option Nat :=
  let power := exponent - 2
  let s := s.scale (Nat.pow 2 power.toNat * Nat.pow 10 (-grid).toNat)
  let unit := Nat.pow 2 (-power).toNat * Nat.pow 10 grid.toNat
  let below := s.value / unit
  let above := below + 1
  match s.contains (below * unit), s.contains (above * unit) with
  | true, true =>
    let down := s.value - below * unit
    let up := above * unit - s.value
    some (if down < up || (down == up && below % 2 == 0) then below else above)
  | true, false => some below
  | false, true => some above
  | false, false => none

/-- The number of decimal places before the point: the least `p` with the value below `10 ^ p`. -/
def pointPosition (mantissa : Nat) (exponent : Int) : Int :=
  let num := mantissa * Nat.pow 2 exponent.toNat
  let den := Nat.pow 2 (-exponent).toNat
  if den ≤ num then (toString (num / den)).length
  else
    let zeros := ((List.range 400).find? fun k => den ≤ num * Nat.pow 10 (k + 1)).getD 400
    Int.negOfNat zeros

/-- Digits and position of the point: the value is `0.digits * 10 ^ point`. -/
def digits (mantissa : Nat) (exponent : Int) : List Char × Int :=
  let point := pointPosition mantissa exponent
  let s := spanOf mantissa exponent
  let found := (List.range 17).findSome? fun (k : Nat) =>
    (onGrid? s exponent (point - (k + 1))).map fun n => (n, k + 1)
  match found with
  | none => (['0'], 1)
  | some (n, count) =>
    let ds := (toString n).toList
    let significant := (ds.reverse.dropWhile (· == '0')).reverse
    (significant, point + (ds.length - count : Int))

def zeros (n : Nat) : List Char := List.replicate n '0'

/-- Digits written around a decimal point. -/
def positional (ds : List Char) (point : Int) : List Char :=
  if point ≤ 0 then '0' :: '.' :: (zeros (-point).toNat ++ ds)
  else if ds.length ≤ point.toNat then ds ++ zeros (point.toNat - ds.length) ++ ['.', '0']
  else ds.take point.toNat ++ '.' :: ds.drop point.toNat

/-- Digits with an exponent of at least two places. -/
def scientific (ds : List Char) (point : Int) : List Char :=
  let power := point - 1
  let places := (toString power.natAbs).toList
  let head := match ds with
    | [] => []
    | [d] => [d]
    | d :: r => d :: '.' :: r
  head ++ 'e' :: (if power < 0 then '-' else '+') :: (zeros (2 - places.length) ++ places)

def text (f : Float) : String :=
  match Binary64.ofFloat f with
  | .nan => "nan"
  | .infinite negative => if negative then "-inf" else "inf"
  | .finite negative mantissa exponent =>
    let body :=
      if mantissa = 0 then ['0', '.', '0']
      else
        let (ds, point) := digits mantissa exponent
        if -4 < point ∧ point ≤ 16 then positional ds point else scientific ds point
    String.ofList (if negative then '-' :: body else body)

end ScopedCss.Shortest

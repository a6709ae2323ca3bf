import ScopedCss.Json.Basic
import ScopedCss.Number.Binary64
import ScopedCss.Text.Digits

/-!
Reading JSON. Of members with one name the last value stands at the place of the first. Besides
the standard the reader takes the words `NaN` and `Infinity` as numbers, and whole numbers have a
limit to their digits.
-/
namespace ScopedCss

/-- Why a text is not read as JSON. -/
inductive JsonFault where
  | malformed
  /-- A whole number with that many digits. -/
  | hugeNumber (digits : Nat)
deriving DecidableEq, Repr

namespace Json

def isJsonSpace (c : Char) : Bool := c == ' ' || c == '\t' || c == '\n' || c == '\r'

def skipSpace (cs : List Char) : List Char := cs.dropWhile isJsonSpace

/-- The value of a number of hexadecimal digits at the front of a text, and the rest. -/
def hex? (width : Nat) (cs : List Char) : Option (Nat × List Char) :=
  if cs.length < width then none
  else (Text.hexNumber? (cs.take width)).map fun n => (n, cs.drop width)

def isHighSurrogate (n : Nat) : Bool := 0xD800 ≤ n && n < 0xDC00

def isLowSurrogate (n : Nat) : Bool := 0xDC00 ≤ n && n < 0xE000

/-- A code unit as a letter; half of a pair may stand alone. -/
def unitLetter (n : Nat) : Letter :=
  match Half.ofCode? n with
  | some h => .half h
  | none => .char (Char.ofNat n)

/-- The letters of a string up to its closing quote, and the rest. A pending high surrogate joins
the low one that follows it. -/
def stringBody (fuel : Nat) (cs : List Char) : Option (List Letter × List Char) :=
  match fuel, cs with
  | 0, _ => none
  | _, [] => none
  | _ + 1, '\x22' :: r => some ([], r)
  | n + 1, '\x5c' :: 'u' :: r => do
    let (unit, r) ← hex? 4 r
    if isHighSurrogate unit then
      match r with
      | '\x5c' :: 'u' :: r' =>
        let (low, r'') ← hex? 4 r'
        if isLowSurrogate low then
          let c := Char.ofNat (0x10000 + (unit - 0xD800) * 0x400 + (low - 0xDC00))
          push (.char c) (stringBody n r'')
        else push (unitLetter unit) (stringBody n r)
      | _ => push (unitLetter unit) (stringBody n r)
    else push (unitLetter unit) (stringBody n r)
  | n + 1, '\x5c' :: c :: r => do
    let e ← escape? c
    push (.char e) (stringBody n r)
  | n + 1, c :: r => if c.toNat < 0x20 || c == '\x5c' then none else push (.char c) (stringBody n r)
where
  push (l : Letter) (p : Option (List Letter × List Char)) : Option (List Letter × List Char) :=
    p.map fun p => (l :: p.1, p.2)
  escape? (c : Char) : Option Char :=
    match c with
    | '\x22' => some '\x22'
    | '\x5c' => some '\x5c'
    | '/' => some '/'
    | 'b' => some '\x08'
    | 'f' => some '\x0c'
    | 'n' => some '\n'
    | 'r' => some '\r'
    | 't' => some '\t'
    | _ => none

/-- An exponent with its value, if one stands at the front. -/
def exponent? : List Char → Option (Int × List Char)
  | e :: r =>
    if e == 'e' || e == 'E' then
      let (negative, r) := match r with
        | '+' :: r => (false, r)
        | '-' :: r => (true, r)
        | r => (false, r)
      let ds := r.takeWhile Char.isDigit
      if ds.isEmpty then none
      else
        let v : Int := Text.decimalNumber ds
        some (if negative then -v else v, r.dropWhile Char.isDigit)
    else none
  | [] => none

/-- A whole number, unless it has too many digits. -/
def wholeNumber (negative : Bool) (digits : List Char) : Except JsonFault Json :=
  if digits.length > Text.maxDigits then .error (.hugeNumber digits.length)
  else
    let n : Int := Text.decimalNumber digits
    .ok (.int (if negative then -n else n))

/-- A number without its sign. -/
def number (negative : Bool) (cs : List Char) : Except JsonFault (Json × List Char) :=
  let ds := cs.takeWhile Char.isDigit
  let (whole, rest) := match ds with
    | '0' :: more => (['0'], more ++ cs.dropWhile Char.isDigit)
    | ds => (ds, cs.dropWhile Char.isDigit)
  if whole.isEmpty then .error .malformed
  else
    let (fraction, rest) := match rest with
      | '.' :: r =>
        let fs := r.takeWhile Char.isDigit
        if fs.isEmpty then ([], rest) else (fs, r.dropWhile Char.isDigit)
      | r => ([], r)
    let float (e : Int) : Json :=
      .float (Binary64.ofDecimal negative (Text.decimalNumber (whole ++ fraction))
        (e - fraction.length))
    match exponent? rest with
    | some (e, rest) => .ok (float e, rest)
    | none =>
      if fraction.isEmpty then (wholeNumber negative whole).map (·, rest)
      else .ok (float 0, rest)

/-- What follows a word at the front of a text. -/
def afterWord? (word : String) (cs : List Char) : Option (List Char) :=
  if word.toList.isPrefixOf cs then some (cs.drop word.length) else none

/-- The words that stand for values. -/
def literals : List (String × Json) := [
  ("null", .null), ("true", .bool true), ("false", .bool false),
  ("NaN", .float (0.0 / 0.0)), ("Infinity", .float (1.0 / 0.0)), ("-Infinity", .float (-1.0 / 0.0))]

def literal? (cs : List Char) : Option (Json × List Char) :=
  literals.findSome? fun l => (afterWord? l.1 cs).map fun r => (l.2, r)

/-- What a text starts with, or the fault that it does not. -/
def orMalformed : Option α → Except JsonFault α
  | some a => .ok a
  | none => .error .malformed

mutual

/-- A value at the front of a text, and the rest. -/
def value : Nat → List Char → Except JsonFault (Json × List Char)
  | 0, _ => .error .malformed
  | n + 1, cs =>
    match cs with
    | '\x22' :: r =>
      (orMalformed (stringBody (r.length + 1) r)).map fun p => (.text (.ofLetters p.1), p.2)
    | '{' :: r =>
      match skipSpace r with
      | '}' :: r => .ok (.object [], r)
      | r => members n [] r
    | '[' :: r =>
      match skipSpace r with
      | ']' :: r => .ok (.list [], r)
      | r => items n [] r
    | _ =>
      match literal? cs, cs with
      | some p, _ => .ok p
      | none, '-' :: r => number true r
      | none, _ => number false cs

/-- The items of a list up to its end; those read before come latest first. -/
def items : Nat → List Json → List Char → Except JsonFault (Json × List Char)
  | 0, _, _ => .error .malformed
  | n + 1, before, cs => do
    let (v, r) ← value n cs
    match skipSpace r with
    | ',' :: r => items n (v :: before) (skipSpace r)
    | ']' :: r => return (.list (v :: before).reverse, r)
    | _ => throw .malformed

/-- The members of an object up to its end. -/
def members : Nat → Members → List Char → Except JsonFault (Json × List Char)
  | 0, _, _ => .error .malformed
  | n + 1, before, cs =>
    match cs with
    | '\x22' :: r => do
      let (name, r) ← orMalformed (stringBody (r.length + 1) r)
      match skipSpace r with
      | ':' :: r =>
        let (v, r) ← value n (skipSpace r)
        let here := put before (.ofLetters name) v
        match skipSpace r with
        | ',' :: r => members n here (skipSpace r)
        | '}' :: r => return (.object here, r)
        | _ => throw .malformed
      | _ => throw .malformed
    | _ => .error .malformed

end

/-- The value that a whole text stands for. A value is read with one step for each of its
characters at most. -/
def parse (s : String) : Except JsonFault Json := do
  let cs := s.toList
  let (v, r) ← value (cs.length + 1) (skipSpace cs)
  if (skipSpace r).isEmpty then return v else throw .malformed

end Json
end ScopedCss

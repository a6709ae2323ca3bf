import ScopedCss.Expr.Basic
import ScopedCss.Expr.Token
import ScopedCss.Text.Identifier
import ScopedCss.Text.Normal

/-!
Reading value expressions. The operators bind, from loose to tight: choice, `or`, `and`, `not`,
comparisons, sums, products, signs, and what follows an operand. Private names carry the name of
the class they stand in, and names are brought to their normal form. Every reading function gives
what it read and the tokens behind it.
-/
namespace ScopedCss.Expr

open Text (isKeyword normalName)
open Value (ArithOp CompareOp)

/-- The name that a name stands for inside a class: two leading underscores, without two trailing
ones, make it private to the class. -/
def privateName (owner name : String) : String :=
  let cs := name.toList
  let bare := owner.toList.dropWhile (· == '_')
  let isClosed := ['_', '_'].isSuffixOf cs
  if ['_', '_'].isPrefixOf cs && !isClosed && !bare.isEmpty then
    String.ofList ('_' :: bare ++ cs)
  else name

/-- A word as an operand. One name stands for a constant and cannot be given to anything else. -/
def ofWord? (owner word : String) : Option Expr :=
  if word = "None" then some .none
  else if word = "True" then some (.bool true)
  else if word = "False" then some (.bool false)
  else if isKeyword word then Option.none
  else if normalName word = "__debug__" then some (.bool true)
  else some (.name (privateName owner (normalName word)))

def compareOp? : Token → Option CompareOp
  | .symbol "==" => some .eq
  | .symbol "!=" => some .ne
  | .symbol "<" => some .lt
  | .symbol "<=" => some .le
  | .symbol ">" => some .gt
  | .symbol ">=" => some .ge
  | _ => Option.none

def sumOp? : Token → Option ArithOp
  | .symbol "+" => some .add
  | .symbol "-" => some .sub
  | _ => Option.none

def productOp? : Token → Option ArithOp
  | .symbol "*" => some .mul
  | .symbol "/" => some .div
  | .symbol "//" => some .floorDiv
  | .symbol "%" => some .rem
  | _ => Option.none

/-- The keyword of an argument, if it has one, and the tokens of its value. -/
def splitKeyword : List Token → Option String × List Token
  | .word w :: .symbol "=" :: ts => (some w, ts)
  | ts => (Option.none, ts)

/-- The arguments of a call read so far. -/
structure Arguments where
  positional : List Expr := []
  named : List (String × Expr) := []

namespace Arguments

/-- Arguments without keywords come first, and a keyword is given once. -/
def add? (a : Arguments) (keyword : Option String) (e : Expr) : Option Arguments :=
  match keyword with
  | Option.none =>
    if a.named.isEmpty then some { a with positional := a.positional ++ [e] } else Option.none
  | some word =>
    let k := normalName word
    if isKeyword word || k == "__debug__" || a.named.any (·.1 == k) then Option.none
    else some { a with named := a.named ++ [(k, e)] }

def toCall (a : Arguments) (f : Expr) : Expr :=
  .call f (a.positional ++ a.named.map (·.2)) (a.named.map (·.1))

end Arguments

mutual

def readTest (owner : String) (fuel : Nat) (ts : List Token) : Option (Expr × List Token) :=
  match fuel with
  | 0 => Option.none
  | fuel + 1 => do
    let (yes, ts) ← readOr owner fuel ts
    match ts with
    | .word "if" :: ts =>
      let (condition, ts) ← readOr owner fuel ts
      match ts with
      | .word "else" :: ts =>
        let (no, ts) ← readTest owner fuel ts
        return (.choice condition yes no, ts)
      | _ => Option.none
    | ts => return (yes, ts)

def readOr (owner : String) (fuel : Nat) (ts : List Token) : Option (Expr × List Token) :=
  match fuel with
  | 0 => Option.none
  | fuel + 1 => do
    let (a, ts) ← readAnd owner fuel ts
    readOrTail owner fuel a ts

def readOrTail (owner : String) (fuel : Nat) (a : Expr) (ts : List Token) :
    Option (Expr × List Token) :=
  match fuel, ts with
  | fuel + 1, .word "or" :: ts => do
    let (b, ts) ← readAnd owner fuel ts
    readOrTail owner fuel (.or a b) ts
  | _, ts => some (a, ts)

def readAnd (owner : String) (fuel : Nat) (ts : List Token) : Option (Expr × List Token) :=
  match fuel with
  | 0 => Option.none
  | fuel + 1 => do
    let (a, ts) ← readNot owner fuel ts
    readAndTail owner fuel a ts

def readAndTail (owner : String) (fuel : Nat) (a : Expr) (ts : List Token) :
    Option (Expr × List Token) :=
  match fuel, ts with
  | fuel + 1, .word "and" :: ts => do
    let (b, ts) ← readNot owner fuel ts
    readAndTail owner fuel (.and a b) ts
  | _, ts => some (a, ts)

def readNot (owner : String) (fuel : Nat) (ts : List Token) : Option (Expr × List Token) :=
  match fuel, ts with
  | 0, _ => Option.none
  | fuel + 1, .word "not" :: ts => do
    let (e, ts) ← readNot owner fuel ts
    return (.not e, ts)
  | fuel + 1, ts => do
    let (first, ts) ← readSum owner fuel ts
    let (links, ts) ← readLinks owner fuel ts
    if links.isEmpty then return (first, ts)
    else return (.compare first (links.map (·.1)) (links.map (·.2)), ts)

/-- The comparisons behind a first operand. -/
def readLinks (owner : String) (fuel : Nat) (ts : List Token) :
    Option (List (CompareOp × Expr) × List Token) :=
  match fuel, ts with
  | fuel + 1, t :: r =>
    match compareOp? t with
    | Option.none => some ([], ts)
    | some op => do
      let (e, r) ← readSum owner fuel r
      let (links, r) ← readLinks owner fuel r
      return ((op, e) :: links, r)
  | _, ts => some ([], ts)

def readSum (owner : String) (fuel : Nat) (ts : List Token) : Option (Expr × List Token) :=
  match fuel with
  | 0 => Option.none
  | fuel + 1 => do
    let (a, ts) ← readProduct owner fuel ts
    readSumTail owner fuel a ts

def readSumTail (owner : String) (fuel : Nat) (a : Expr) (ts : List Token) :
    Option (Expr × List Token) :=
  match fuel, ts with
  | fuel + 1, t :: r =>
    match sumOp? t with
    | Option.none => some (a, ts)
    | some op => do
      let (b, r) ← readProduct owner fuel r
      readSumTail owner fuel (.arith op a b) r
  | _, ts => some (a, ts)

def readProduct (owner : String) (fuel : Nat) (ts : List Token) : Option (Expr × List Token) :=
  match fuel with
  | 0 => Option.none
  | fuel + 1 => do
    let (a, ts) ← readSigned owner fuel ts
    readProductTail owner fuel a ts

def readProductTail (owner : String) (fuel : Nat) (a : Expr) (ts : List Token) :
    Option (Expr × List Token) :=
  match fuel, ts with
  | fuel + 1, t :: r =>
    match productOp? t with
    | Option.none => some (a, ts)
    | some op => do
      let (b, r) ← readSigned owner fuel r
      readProductTail owner fuel (.arith op a b) r
  | _, ts => some (a, ts)

def readSigned (owner : String) (fuel : Nat) (ts : List Token) : Option (Expr × List Token) :=
  match fuel, ts with
  | 0, _ => Option.none
  | fuel + 1, .symbol "-" :: ts => do
    let (e, ts) ← readSigned owner fuel ts
    return (.sign true e, ts)
  | fuel + 1, .symbol "+" :: ts => do
    let (e, ts) ← readSigned owner fuel ts
    return (.sign false e, ts)
  | fuel + 1, ts => do
    let (e, ts) ← readAtom owner fuel ts
    readTrailers owner fuel e ts

def readTrailers (owner : String) (fuel : Nat) (e : Expr) (ts : List Token) :
    Option (Expr × List Token) :=
  match fuel, ts with
  | fuel + 1, .symbol "." :: .word w :: ts =>
    if isKeyword w then Option.none
    else readTrailers owner fuel (.attribute e (privateName owner (normalName w))) ts
  | _ + 1, .symbol "." :: _ => Option.none
  | fuel + 1, .symbol "[" :: ts => do
    let (items, isSingle, ts) ← readItems owner fuel "]" ts
    match items, isSingle with
    | [], _ => Option.none
    | [index], true => readTrailers owner fuel (.subscript e index) ts
    | items, _ => readTrailers owner fuel (.subscript e (.tuple items)) ts
  | fuel + 1, .symbol "(" :: ts => do
    let (args, ts) ← readArguments owner fuel {} ts
    readTrailers owner fuel (args.toCall e) ts
  | _, ts => some (e, ts)

def readAtom (owner : String) (fuel : Nat) (ts : List Token) : Option (Expr × List Token) :=
  match fuel, ts with
  | _ + 1, .word w :: ts => (ofWord? owner w).map (·, ts)
  | _ + 1, .int n :: ts => some (.int n, ts)
  | _ + 1, .decimal digits e :: ts => some (.float (Binary64.ofDecimal false digits e), ts)
  | _ + 1, .text s :: ts => some (.text s, ts)
  | fuel + 1, .pieces ps :: ts => (readPieces owner fuel ps).map fun es => (.joined es, ts)
  | fuel + 1, .symbol "(" :: ts => do
    let (items, isSingle, ts) ← readItems owner fuel ")" ts
    match items, isSingle with
    | [e], true => return (e, ts)
    | items, _ => return (.tuple items, ts)
  | fuel + 1, .symbol "[" :: ts => do
    let (items, _, ts) ← readItems owner fuel "]" ts
    return (.list items, ts)
  | _, _ => Option.none

/-- Items up to a closing bracket, and whether they are one without a comma. -/
def readItems (owner : String) (fuel : Nat) (close : String) (ts : List Token) :
    Option (List Expr × Bool × List Token) :=
  match fuel with
  | 0 => Option.none
  | fuel + 1 =>
    if ts.head? = some (.symbol close) then some ([], false, ts.drop 1)
    else do
      let (e, ts) ← readTest owner fuel ts
      if ts.head? = some (.symbol close) then return ([e], true, ts.drop 1)
      else if ts.head? = some (.symbol ",") then
        let (items, _, ts) ← readItems owner fuel close (ts.drop 1)
        return (e :: items, false, ts)
      else Option.none

/-- Arguments up to the closing bracket of a call. -/
def readArguments (owner : String) (fuel : Nat) (args : Arguments) (ts : List Token) :
    Option (Arguments × List Token) :=
  match fuel with
  | 0 => Option.none
  | fuel + 1 =>
    if ts.head? = some (.symbol ")") then some (args, ts.drop 1)
    else do
      let (keyword, ts) := splitKeyword ts
      let (e, ts) ← readTest owner fuel ts
      let args ← args.add? keyword e
      if ts.head? = some (.symbol ")") then return (args, ts.drop 1)
      else if ts.head? = some (.symbol ",") then readArguments owner fuel args (ts.drop 1)
      else Option.none

/-- The pieces of a text with fields. A field may be a tuple without parentheses, and 199 brackets
can be open in it. -/
def readPieces (owner : String) (fuel : Nat) (ps : List Piece) : Option (List Expr) :=
  match fuel, ps with
  | _, [] => some []
  | 0, _ :: _ => Option.none
  | fuel + 1, .text s :: ps => (readPieces owner fuel ps).map (.text s :: ·)
  | fuel + 1, .field source :: ps => do
    let ts ← tokens? source.length source
    if ts.isEmpty ∨ depth ts > 199 then Option.none
    else
      let (items, isSingle, rest) ← readItems owner fuel ")" (ts ++ [.symbol ")"])
      if !rest.isEmpty then Option.none
      else
        let e := match items, isSingle with
          | [e], true => e
          | items, _ => .tuple items
        return e :: (← readPieces owner fuel ps)

end

/-- The expression that tokens make up inside a class; none if they are no expression. A value
stands in three brackets of its module, where 200 can be open. -/
def ofTokens? (owner : String) (fuel : Nat) (ts : List Token) : Option Expr := do
  if depth ts > 197 then Option.none
  match ← readTest owner fuel ts with
  | (e, []) => return e
  | _ => Option.none

/-- Enough for all that is read of so many characters. -/
def fuelFor (length : Nat) : Nat := 16 * (length + 1)

/-- The expression of a value inside a class; none if the text is no expression. -/
def parse? (owner source : String) : Option Expr := do
  let cs := source.toList
  ofTokens? owner (fuelFor cs.length) (← tokens? cs.length cs)

/-- Whether a value is the word that suspends, alone or before an expression. -/
def isSuspension (owner source : String) : Bool :=
  let cs := source.toList
  match tokens? cs.length cs with
  | some (.word "yield" :: ts) => ts.isEmpty || (ofTokens? owner (fuelFor cs.length) ts).isSome
  | _ => false

end ScopedCss.Expr

import ScopedCss.Number.Binary64
import ScopedCss.Source.Terminal
import ScopedCss.Text.Literal

/-!
The tokens of a value expression. Words are taken whole here, whatever the reader of the source
made of them, and a carriage return ends a line.
-/
namespace ScopedCss.Expr

open Source (Cut number? string? fstring? isQuote)
open Text (decimalNumber isIdentifierStart isIdentifierContinue maxDigits unescape)

/-- A piece of a text with fields. -/
inductive Piece where
  | text (t : Text)
  /-- The source of a field. -/
  | field (source : List Char)
deriving DecidableEq, Repr

inductive Token where
  | word (s : String)
  | int (n : Nat)
  | decimal (digits : Nat) (exponent : Int)
  | text (t : Text)
  | pieces (ps : List Piece)
  | symbol (s : String)
deriving DecidableEq, Repr

/-! ### Numbers -/

/-- The value of an exponent with its letter and its sign. -/
def exponentOf : List Char → Int
  | _ :: '-' :: ds => -(decimalNumber ds : Int)
  | _ :: '+' :: ds => decimalNumber ds
  | _ :: ds => decimalNumber ds
  | [] => 0

/-- A number, by its characters and what follows. Whole numbers other than zero do not start with a
zero and have no more digits than can be read; one that does start with a zero is a decimal number
if an `e` follows. -/
def numberToken? (cs rest : List Char) : Option Token :=
  let whole := cs.takeWhile Char.isDigit
  match cs.dropWhile Char.isDigit with
  | [] =>
    if decimalNumber whole = 0 then some (.int 0)
    else if whole.head? = some '0' then
      if rest.head? = some 'e' then some (.decimal (decimalNumber whole) 0) else none
    else if whole.length > maxDigits then none
    else some (.int (decimalNumber whole))
  | '.' :: r =>
    let fraction := r.takeWhile Char.isDigit
    some (.decimal (decimalNumber (whole ++ fraction))
      (exponentOf (r.dropWhile Char.isDigit) - fraction.length))
  | r => some (.decimal (decimalNumber whole) (exponentOf r))

/-- A lone zero before the letter of a number base. -/
def isBaseMark (text rest : List Char) : Bool :=
  text == ['0'] && (rest.head?.any ['x', 'X', 'o', 'O', 'b', 'B'].contains)

/-! ### Texts -/

/-- A carriage return inside quotes ends the line, unless a backslash takes it. -/
def hasLineEnd : List Char → Bool
  | [] => false
  | '\x5c' :: _ :: r => hasLineEnd r
  | c :: r => c == '\r' || hasLineEnd r

def decoded? (cs : List Char) : Option Text := (unescape cs).map .ofLetters

/-- The length of a field up to its closing brace. Brackets and quotes inside are closed, and there
is neither a backslash nor a number sign. -/
def fieldLength? (opened : List Char) (quote : Option Char) : List Char → Option Nat
  | [] => none
  | c :: r =>
    if c = '\x5c' then none
    else match quote with
      | some q => (fieldLength? opened (if c = q then none else quote) r).map (· + 1)
      | none =>
        if isQuote c then (fieldLength? opened (some c) r).map (· + 1)
        else if c = '#' then none
        else if c = '(' then (fieldLength? (')' :: opened) none r).map (· + 1)
        else if c = '[' then (fieldLength? (']' :: opened) none r).map (· + 1)
        else if c = '{' then (fieldLength? ('}' :: opened) none r).map (· + 1)
        else match opened with
          | [] => if c = '}' then some 0
            else if c = ')' ∨ c = ']' then none
            else (fieldLength? [] none r).map (· + 1)
          | o :: os =>
            if c = o then (fieldLength? os none r).map (· + 1)
            else if c = ')' ∨ c = ']' ∨ c = '}' then none
            else (fieldLength? opened none r).map (· + 1)

/-- Puts a piece of text before pieces. -/
def consText (literal : List Char) (ps : List Piece) : Option (List Piece) :=
  if literal.isEmpty then some ps else (decoded? literal).map fun s => .text s :: ps

/-- The pieces of a text with fields, after a literal part read so far, which is kept in reverse.
Doubled braces stand for single ones and end a literal part. -/
def piecesOf? (fuel : Nat) (literal : List Char) (cs : List Char) : Option (List Piece) :=
  match fuel with
  | 0 => none
  | fuel + 1 =>
    let brace (b : Char) (before r : List Char) : Option (List Piece) :=
      if r.head? = some b then
        (piecesOf? fuel [] (r.drop 1)).bind (consText (b :: before).reverse)
      else if b = '{' then do
        let n ← fieldLength? [] none r
        let ps ← piecesOf? fuel [] (r.drop (n + 1))
        consText before.reverse (.field (r.take n) :: ps)
      else none
    match cs with
    | [] => consText literal.reverse []
    | '\x5c' :: c :: r =>
      if c = '{' ∨ c = '}' then brace c ('\x5c' :: literal) r
      else piecesOf? fuel (c :: '\x5c' :: literal) r
    | c :: r =>
      if c = '{' ∨ c = '}' then brace c literal r else piecesOf? fuel (c :: literal) r

/-- The characters between the quotes of a literal. -/
def inner (literal : List Char) : List Char := (literal.drop 1).dropLast

def textToken? (literal : List Char) : Option Token :=
  let cs := inner literal
  if hasLineEnd cs then none else (decoded? cs).map .text

def piecesToken? (literal : List Char) : Option Token :=
  let cs := inner (literal.drop 1)
  if hasLineEnd cs then none else (piecesOf? (cs.length + 1) [] cs).map .pieces

/-! ### All tokens -/

def isSpace (c : Char) : Bool :=
  c == ' ' || c == '\t' || c == '\x0c' || c == '\n' || c == '\r'

/-- Longer symbols stand before the shorter ones they start with. -/
def symbols : List String := [
  "==", "!=", "<=", ">=", "//", "<", ">", "+", "-", "*", "/", "%", "(", ")", "[", "]", ",", ".",
  "="]

def symbol? (cs : List Char) : Option String :=
  symbols.find? fun s => s.toList.isPrefixOf cs

/-- The tokens of a text; none if some part of it is no token. -/
def tokens? (fuel : Nat) (cs : List Char) : Option (List Token) :=
  match fuel, cs with
  | _, [] => some []
  | 0, _ :: _ => none
  | fuel + 1, c :: r =>
    if isSpace c then tokens? fuel r
    else if c = '#' then tokens? fuel (r.dropWhile fun d => d != '\n' && d != '\r')
    else match fstring? cs, number? cs, string? cs with
      | some cut, _, _ => do
        let t ← piecesToken? cut.text
        return t :: (← tokens? fuel cut.rest)
      | none, some cut, _ =>
        if isBaseMark cut.text cut.rest then none
        else do
          let t ← numberToken? cut.text cut.rest
          return t :: (← tokens? fuel cut.rest)
      | none, none, some cut => do
        let t ← textToken? cut.text
        return t :: (← tokens? fuel cut.rest)
      | none, none, none =>
        if isIdentifierStart c then
          let w := String.ofList (c :: r.takeWhile isIdentifierContinue)
          (tokens? fuel (r.dropWhile isIdentifierContinue)).map (.word w :: ·)
        else do
          let s ← symbol? cs
          return .symbol s :: (← tokens? fuel (cs.drop s.length))

/-- Whether a literal has an escape by the name of a character. -/
def hasNamedEscape : List Char → Bool
  | [] => false
  | '\x5c' :: c :: r => c == 'N' || hasNamedEscape r
  | _ :: r => hasNamedEscape r

/-- Whether a text has a part that is read in more ways than are described here: a text with fields,
an escape by the name of a character, or the word that suspends. -/
def isBeyond (fuel : Nat) (cs : List Char) : Bool :=
  match fuel, cs with
  | _, [] | 0, _ => false
  | fuel + 1, c :: r =>
    if c = '#' then isBeyond fuel (r.dropWhile fun d => d != '\n' && d != '\r')
    else match fstring? cs, string? cs with
      | some _, _ => true
      | none, some cut => hasNamedEscape cut.text || isBeyond fuel cut.rest
      | none, none =>
        if isIdentifierStart c then
          String.ofList (c :: r.takeWhile isIdentifierContinue) == "yield" ||
            isBeyond fuel (r.dropWhile isIdentifierContinue)
        else isBeyond fuel r

/-- How many brackets are open at once at most, besides those that are open before. -/
def depthFrom (opened : Nat) : List Token → Nat
  | [] => opened
  | .symbol s :: ts =>
    if s = "(" ∨ s = "[" then depthFrom (opened + 1) ts
    else if s = ")" ∨ s = "]" then max opened (depthFrom (opened - 1) ts)
    else depthFrom opened ts
  | _ :: ts => depthFrom opened ts

def depth (ts : List Token) : Nat := depthFrom 0 ts

end ScopedCss.Expr

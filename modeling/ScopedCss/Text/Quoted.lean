import ScopedCss.Text.Basic
import ScopedCss.Text.Printable

/-!
Quoted text, as messages and generated modules show it. The quote is single unless the text holds
a single quote and no double one. Escaped are the quote, the backslash and what is not printable.
-/
namespace ScopedCss.Text

/-- The digit for a value below sixteen, in lower case. -/
def hexDigit (n : Nat) : Char := if n < 10 then Char.ofNat (0x30 + n) else Char.ofNat (0x57 + n)

/-- The lowest digits of a number in base sixteen, as many as asked for. -/
def hexDigits : Nat → Nat → List Char
  | 0, _ => []
  | width + 1, n => hexDigits width (n / 16) ++ [hexDigit (n % 16)]

/-- How one character stands between quotes. -/
def escapeChar (quote c : Char) : List Char :=
  if c = quote ∨ c = '\x5c' then ['\x5c', c]
  else if c = '\n' then ['\x5c', 'n']
  else if c = '\r' then ['\x5c', 'r']
  else if c = '\t' then ['\x5c', 't']
  else if isPrintable c then [c]
  else if c.toNat < 0x100 then '\x5c' :: 'x' :: hexDigits 2 c.toNat
  else if c.toNat < 0x10000 then '\x5c' :: 'u' :: hexDigits 4 c.toNat
  else '\x5c' :: 'U' :: hexDigits 8 c.toNat

/-- The quote that a text is written with. -/
def quoteFor (cs : List Char) : Char :=
  if cs.contains '\x27' && !cs.contains '\x22' then '\x22' else '\x27'

def quoteChars (cs : List Char) : List Char :=
  let quote := quoteFor cs
  quote :: (cs.flatMap (escapeChar quote) ++ [quote])

/-- A string between quotes, with escapes. -/
def quote (s : String) : String := String.ofList (quoteChars s.toList)

/-! ### Texts with halves -/

def escapeLetter (quote : Char) : Letter → List Char
  | .char c => escapeChar quote c
  | .half h => '\x5c' :: 'u' :: hexDigits 4 (Half.code h)

/-- A text between quotes. A half is escaped like a character that is not printable. -/
def display (t : Text) : String :=
  let ls := t.letters
  let quote := if ls.contains (.char '\x27') && !ls.contains (.char '\x22') then '\x22' else '\x27'
  String.ofList (quote :: (ls.flatMap (escapeLetter quote) ++ [quote]))

theorem contains_map_char (cs : List Char) (c : Char) :
    (cs.map Letter.char).contains (.char c) = cs.contains c := by
  simp

@[simp] theorem display_ofString (s : String) : display (ofString s) = quote s := by
  have letters : ∀ q, (s.toList.map Letter.char).flatMap (escapeLetter q) =
      s.toList.flatMap (escapeChar q) := fun q => by simp [List.flatMap_map, escapeLetter]
  simp only [display, letters_ofString, contains_map_char, letters, quote, quoteChars, quoteFor]

end ScopedCss.Text

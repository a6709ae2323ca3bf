import ScopedCss.Text.Composite
import ScopedCss.Text.Digits
import ScopedCss.Text.Mark
import ScopedCss.Text.Variant

/-!
The normal form of identifiers. Variants of characters are replaced by what they stand for, marks
are brought into order, and letters are joined with their marks where there is a character for
both. Two spellings of a name are the same name if their normal forms are.
-/
namespace ScopedCss.Text

/-! ### Tables -/

/-- The number that hexadecimal digits write. -/
def hexCode (s : String) : Nat := (hexNumber? s.toList).getD 0

/-- Neighbours in pairs. -/
def pairUp : List α → List (α × α)
  | a :: b :: r => (a, b) :: pairUp r
  | _ => []

/-- First and second characters with the character for both. -/
def composites : List ((Nat × Nat) × Nat) :=
  compositeRows.flatMap fun row =>
    (pairUp ((row.2.splitOn " ").map hexCode)).map fun p => ((p.1, row.1), p.2)

/-- Rows of neighbours with what they stand for. -/
def variants : List (Nat × List (List Nat)) :=
  variantRows.map fun row => (row.1, (row.2.splitOn " ").map fun s => (s.splitOn "+").map hexCode)

def variant? (code : Nat) : Option (List Nat) :=
  variants.findSome? fun row => if row.1 ≤ code then row.2[code - row.1]? else none

/-! ### Korean syllables -/

/-- The parts of a syllable: a consonant, a vowel, and perhaps another consonant. -/
def syllableParts? (code : Nat) : Option (List Nat) :=
  if 0xAC00 ≤ code ∧ code < 0xD7A4 then
    let i := code - 0xAC00
    let start := [0x1100 + i / 588, 0x1161 + i % 588 / 28]
    some (if i % 28 = 0 then start else start ++ [0x11A7 + i % 28])
  else none

/-- A syllable of two parts, or of one of those and a last consonant. -/
def syllable? (first second : Nat) : Option Nat :=
  if 0x1100 ≤ first ∧ first < 0x1113 ∧ 0x1161 ≤ second ∧ second < 0x1176 then
    some (0xAC00 + (first - 0x1100) * 588 + (second - 0x1161) * 28)
  else if 0xAC00 ≤ first ∧ first < 0xD7A4 ∧ (first - 0xAC00) % 28 = 0 ∧ 0x11A8 ≤ second ∧
      second < 0x11C3 then
    some (first + (second - 0x11A7))
  else none

/-! ### Taking apart -/

/-- What a character is taken apart into, in that many steps at most. -/
def apart (fuel : Nat) (code : Nat) : List Nat :=
  match fuel, syllableParts? code, composites.find? (·.2 == code) with
  | 0, _, _ => [code]
  | _ + 1, some parts, _ => parts
  | fuel + 1, none, some ((first, second), _) => apart fuel first ++ apart fuel second
  | _ + 1, none, none => (variant? code).getD [code]

/-- No character is composed of more than five others. -/
def partsOf (c : Char) : List Char := (apart 5 c.toNat).map Char.ofNat

/-! ### Order of marks -/

/-- Puts a character behind others, which are kept in reverse. A mark goes before marks of higher
classes. -/
def putMark (c : Char) : List Char → List Char
  | [] => [c]
  | d :: ds =>
    if 0 < markClass c ∧ markClass c < markClass d then d :: putMark c ds else c :: d :: ds

def orderMarks (cs : List Char) : List Char :=
  (cs.foldl (fun before c => putMark c before) []).reverse

/-! ### Joining -/

def joined? (first second : Char) : Option Char :=
  match syllable? first.toNat second.toNat with
  | some n => some (Char.ofNat n)
  | none => (composites.lookup (first.toNat, second.toNat)).map Char.ofNat

/-- Joins a letter with the marks that follow it. A mark is passed over if the two have no character
in common; the marks passed over, kept in reverse, hide those that are not of a higher class. -/
def joinFrom (letter : Char) (passed : List Char) : List Char → List Char
  | [] => letter :: passed.reverse
  | c :: cs =>
    let hidden := match passed with
      | [] => false
      | d :: _ => markClass c ≤ markClass d
    match if hidden then none else joined? letter c with
    | some both => joinFrom both passed cs
    | none =>
      if markClass c = 0 then letter :: passed.reverse ++ joinFrom c [] cs
      else joinFrom letter (c :: passed) cs

def joinMarks : List Char → List Char
  | [] => []
  | c :: cs => joinFrom c [] cs

/-! ### The normal form -/

def isAscii (cs : List Char) : Bool := cs.all (·.toNat < 0x80)

def normalChars (cs : List Char) : List Char :=
  if isAscii cs then cs else joinMarks (orderMarks (cs.flatMap partsOf))

/-- The normal form of a name. -/
def normalName (s : String) : String := String.ofList (normalChars s.toList)

@[simp] theorem normalChars_of_isAscii {cs : List Char} (h : isAscii cs) : normalChars cs = cs := by
  simp [normalChars, h]

end ScopedCss.Text

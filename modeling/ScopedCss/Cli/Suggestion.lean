import ScopedCss.Text.Quoted

/-!
Names that are close to a word that names nothing. Two words are like each other by the letters that
stand in blocks common to both: the longest block, and then those of what is before it and of what
is behind it.
-/
namespace ScopedCss.Cli

/-- A row of letters that two words have in common, by where it starts in each. -/
structure Block where
  left : Nat
  right : Nat
  length : Nat
deriving DecidableEq, Repr

/-- How many letters two words start with in common. -/
def commonStart : List Char → List Char → Nat
  | a :: as, b :: bs => if a = b then commonStart as bs + 1 else 0
  | _, _ => 0

/-- The longest common block; of several the first in the first word, and then in the second. -/
def longestBlock (a b : List Char) : Block :=
  let starts := (List.range a.length).flatMap fun i => (List.range b.length).map fun j => (i, j)
  starts.foldl (fun best p =>
    let n := commonStart (a.drop p.1) (b.drop p.2)
    if best.length < n then ⟨p.1, p.2, n⟩ else best) ⟨0, 0, 0⟩

/-- The number of letters in common blocks, of which there are no more than that. -/
def commonLetters (fuel : Nat) (a b : List Char) : Nat :=
  match fuel with
  | 0 => 0
  | fuel + 1 =>
    let block := longestBlock a b
    if block.length = 0 then 0
    else
      block.length + commonLetters fuel (a.take block.left) (b.take block.right) +
        commonLetters fuel (a.drop (block.left + block.length)) (b.drop (block.right + block.length))

/-- How much a name is like a word: letters in common out of the letters of both. -/
structure Likeness where
  name : String
  common : Nat
  total : Nat
deriving DecidableEq, Repr

namespace Likeness

def of (word name : String) : Likeness where
  name := name
  common := commonLetters name.length name.toList word.toList
  total := name.length + word.length

/-- Three letters of five are in common. -/
def isClose (l : Likeness) : Bool := 3 * l.total ≤ 10 * l.common

/-- Whether a name comes before another among the close ones. -/
def isCloser (l m : Likeness) : Bool :=
  m.common * l.total < l.common * m.total ||
    l.common * m.total == m.common * l.total && m.name ≤ l.name

end Likeness

/-- The three names closest to a word, in order of the names. -/
def closeNames (word : String) (names : List String) : List String :=
  let close := (names.map (Likeness.of word)).filter Likeness.isClose
  let best := (close.mergeSort Likeness.isCloser).take 3
  (best.map (·.name)).mergeSort fun a b => decide (a ≤ b)

/-- What is said about close names behind a message. -/
def suggestion : List String → String
  | [] => ""
  | [name] => " Did you mean " ++ Text.quote name ++ "?"
  | names => " (Did you mean one of: " ++ ", ".intercalate (names.map Text.quote) ++ "?)"

end ScopedCss.Cli

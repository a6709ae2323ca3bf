/-!
Points of a source text. Lines and columns count from one; a line ends at a line feed and at
nothing else, and a column is one character.
-/
namespace ScopedCss

structure Location where
  line : Nat
  column : Nat
deriving DecidableEq, Repr, Inhabited

namespace Location

def start : Location := ⟨1, 1⟩

/-- The point behind one character. -/
def next (l : Location) (c : Char) : Location :=
  if c = '\n' then ⟨l.line + 1, 1⟩ else ⟨l.line, l.column + 1⟩

/-- The point behind a text. -/
def after (l : Location) (cs : List Char) : Location := cs.foldl next l

theorem after_append (l : Location) (a b : List Char) : l.after (a ++ b) = (l.after a).after b :=
  List.foldl_append

def text (l : Location) : String := toString l.line ++ ":" ++ toString l.column

end Location
end ScopedCss

import ScopedCss.ParseError
import ScopedCss.Style
import ScopedCss.Text.Blank
import ScopedCss.Text.Identifier

/-!
Selector literals. A dot starts a class name, which is the longest run of ASCII word characters
behind it; all other text is literal. A literal that starts with an at sign is the prelude of an
at-rule and is not looked into.
-/
namespace ScopedCss.Selector

open Text (isWordChar)

/-- What can be wrong behind a dot. -/
inductive Fault where
  | missingName
  | hyphen (name : List Char)
deriving DecidableEq, Repr

theorem length_dropWhile_lt (p : Char → Bool) (c : Char) (r : List Char) :
    (r.dropWhile p).length < (c :: r).length :=
  Nat.lt_succ_of_le (List.dropWhile_suffix p).length_le

/-- Cuts a selector at its dots. -/
def split : List Char → Except Fault (List Part)
  | [] => .ok []
  | '.' :: r =>
    let name := r.takeWhile isWordChar
    if name = [] then .error .missingName
    else if (r.dropWhile isWordChar).head? = some '-' then .error (.hyphen name)
    else (split (r.dropWhile isWordChar)).map (.classname (String.ofList name) :: ·)
  | c :: r =>
    (split (r.dropWhile (· != '.'))).map
      (.raw (String.ofList (c :: r.takeWhile (· != '.'))) :: ·)
termination_by cs => cs.length
decreasing_by all_goals exact length_dropWhile_lt _ _ _

/-- The error that a fault makes in a literal. -/
def Fault.toParseFault (literal : String) : Fault → ParseFault
  | .missingName => .classnameExpected literal
  | .hyphen n => .hyphenAfterClassname (String.ofList n) literal

/-- The header that a quoted selector stands for. -/
def parse (literal : String) (location : Option Location) : Except ParseError Header :=
  match Text.trim literal.toList with
  | [] => .error ⟨.emptySelector, location⟩
  | '@' :: r =>
    .ok { parts := [.raw (String.ofList ('@' :: r))], location := location, isAtRule := true }
  | cs =>
    match split cs with
    | .error f => .error ⟨f.toParseFault literal, location⟩
    | .ok parts => .ok { parts := parts, location := location }

end ScopedCss.Selector

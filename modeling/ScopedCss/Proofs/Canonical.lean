import ScopedCss.Parse
import ScopedCss.Proofs.Captures
import ScopedCss.Proofs.Printing
import ScopedCss.Proofs.Selectors

/-! The canonical source of style blocks. Every header and property is written as a string literal;
what can be written so is said here, and reading it back is the subject of the next module. -/
namespace ScopedCss

open Source Text

/-! ### Writing -/

namespace Canonical

def escape (c : Char) : List Char :=
  if c = '\x5c' then ['\x5c', '\x5c']
  else if c = '\x22' then ['\x5c', '\x22']
  else if c = '\n' then ['\x5c', 'n']
  else [c]

/-- A text as a string literal. -/
def quoted (s : String) : List Char := '\x22' :: (s.toList.flatMap escape ++ ['\x22'])

def entry (e : Entry) : List Char := quoted e.property ++ ':' :: ' ' :: (e.value.toList ++ [' '])

/-- Items in braces, with commas between them. -/
def body (items : List (List Char)) : List Char :=
  '{' :: ' ' :: ([',', ' '].intercalate items ++ [' ', '}'])

mutual

def rule : Rule → List Char
  | .plain h es => quoted h.text ++ ' ' :: body (es.map entry)
  | .nested h rs => quoted h.text ++ ' ' :: body (rules rs)

def rules : List Rule → List (List Char)
  | [] => []
  | r :: rs => rule r :: rules rs

end

def signature (s : Signature) : List Char :=
  '(' :: (s.themeVar.toList ++ ':' :: ' ' :: (s.themeType.toList ++
    ')' :: ' ' :: '-' :: '>' :: ' ' :: s.resultType.toList))

def style (s : Style) : List Char := signature s.signature ++ ' ' :: body (rules s.rules)

/-- The source of style blocks, one behind the other. -/
def source (styles : List Style) : String :=
  String.ofList (styles.flatMap fun s => style s ++ ['\n'])

end Canonical

/-! ### Forgetting locations -/

def Header.unlocated (h : Header) : Header := { h with location := none }

def Entry.unlocated (e : Entry) : Entry := { e with location := none }

mutual

def Rule.unlocated : Rule → Rule
  | .plain h es => .plain h.unlocated (es.map Entry.unlocated)
  | .nested h rs => .nested h.unlocated (Rule.unlocatedAll rs)

def Rule.unlocatedAll : List Rule → List Rule
  | [] => []
  | r :: rs => r.unlocated :: Rule.unlocatedAll rs

end

def Signature.unlocated (s : Signature) : Signature := { s with location := none }

def Style.unlocated (s : Style) : Style := ⟨s.signature.unlocated, Rule.unlocatedAll s.rules⟩

/-! ### Blocks that have a canonical source -/

/-- A value that is captured unchanged from the source of a single declaration. -/
def Captured (value : String) : Prop :=
  ∃ s, parseStyle ("\x7b a \x7b p: " ++ value ++ " \x7d \x7d") = .ok s ∧
    (entriesOf s.rules).map Entry.value = [value]

mutual

/-- Headers can be written, at-rules and no others hold rules, and all values are captured
unchanged. -/
def Rule.Writable : Rule → Prop
  | .plain h es => h.Written ∧ h.isAtRule = false ∧ ∀ e ∈ es, Captured e.value
  | .nested h rs => h.Written ∧ h.isAtRule ∧ Rule.WritableAll rs

def Rule.WritableAll : List Rule → Prop
  | [] => True
  | r :: rs => r.Writable ∧ Rule.WritableAll rs

end

/-- The names of a signature are names, the type of the theme a dotted row of them. -/
structure Signature.Writable (s : Signature) : Prop where
  themeVar : IsName s.themeVar.toList
  themeType : ∃ path, path ≠ [] ∧ (∀ n ∈ path, IsName n) ∧ s.themeType = Reader.dotted path
  resultType : IsName s.resultType.toList

structure Style.Writable (s : Style) : Prop where
  signature : s.signature.Writable
  rules : Rule.WritableAll s.rules

/-! ### Literals -/

namespace Canonical

theorem inside_escape (cs : List Char) : Inside '\x22' (cs.flatMap escape) := by
  induction cs with
  | nil => exact .nil
  | cons c cs ih =>
    rw [List.flatMap_cons, escape]
    split_ifs with hb hq hl
    · exact .escape (by decide) ih
    · exact .escape (by decide) ih
    · exact .escape (by decide) ih
    · exact .char hq hb hl ih

theorem unescape_escape (cs : List Char) : unquote.unescape (cs.flatMap escape) = cs := by
  induction cs with
  | nil => rfl
  | cons c cs ih =>
    rw [List.flatMap_cons, escape]
    split_ifs with hb hq hl
    · simp [unquote.unescape, ih, hb]
    · simp [unquote.unescape, ih, hq]
    · simp [unquote.unescape, ih, hl]
    · rw [List.singleton_append, unquote.unescape.eq_2 _ _ (fun _ _ h => absurd h hb), ih]

theorem unquote_quoted (s : String) : unquote (quoted s) = s.toList := by
  rw [unquote, quoted, List.drop_one, List.tail_cons, List.dropLast_concat, unescape_escape]

/-- Where items are read a literal is taken whole. -/
theorem scan?_quoted (scope : Source.Scope) (s : String) (rest : List Char) :
    scan? (Stage.item scope).allows (quoted s ++ rest) = some ⟨.string, quoted s, rest⟩ := by
  have hs := string?_literal (rfl : isQuote '\x22' = true) (inside_escape s.toList) rest
  have hallowed : (Stage.item scope).allows .string := rfl
  rw [quoted, List.cons_append, List.append_assoc, List.singleton_append, scan?_eq_or,
    word?_cons_of_ne rfl, onlyIf_eq_some.2 ⟨hallowed, hs⟩]
  rfl

end Canonical
end ScopedCss

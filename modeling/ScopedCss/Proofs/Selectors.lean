import Mathlib.Data.List.TakeWhile
import Mathlib.Data.String.Basic
import ScopedCss.Selector

/-! Selectors as texts. A header that was read from a literal is read again from its own text, since
the text is the literal without the blanks around it. -/
namespace ScopedCss

open Text (isBlank isWordChar)

/-! ### Blanks -/

/-- A text that neither starts nor ends with a blank. -/
def Trimmed (cs : List Char) : Prop :=
  (∀ c, cs.head? = some c → isBlank c = false) ∧ ∀ c, cs.getLast? = some c → isBlank c = false

theorem dropWhile_of_head? {p : Char → Bool} {cs : List Char}
    (h : ∀ c, cs.head? = some c → p c = false) : cs.dropWhile p = cs := by
  cases cs with
  | nil => rfl
  | cons c cs => rw [List.dropWhile_cons_of_neg (by simp [h c rfl])]

theorem head?_dropWhile {p : Char → Bool} {cs : List Char} {c : Char}
    (h : (cs.dropWhile p).head? = some c) : p c = false := by
  have := List.head?_dropWhile_not p cs
  rw [h] at this
  exact this

theorem trim_of_trimmed {cs : List Char} (h : Trimmed cs) : Text.trim cs = cs := by
  rw [Text.trim, Text.trimEnd, dropWhile_of_head? h.1, dropWhile_of_head?, List.reverse_reverse]
  intro c hc
  exact h.2 c (by rwa [List.head?_reverse] at hc)

theorem trimmed_trim (cs : List Char) : Trimmed (Text.trim cs) := by
  refine ⟨fun c hc => ?_, fun c hc => ?_⟩
  · have hprefix : Text.trim cs <+: cs.dropWhile isBlank := by
      have hsuffix := List.dropWhile_suffix (l := (cs.dropWhile isBlank).reverse) isBlank
      rw [Text.trim, Text.trimEnd]
      simpa using List.reverse_prefix.2 hsuffix
    obtain ⟨blanks, hblanks⟩ := hprefix
    have hhead : (cs.dropWhile isBlank).head? = some c := by
      rw [← hblanks, List.head?_append, hc, Option.some_or]
    exact head?_dropWhile hhead
  · rw [Text.trim, Text.trimEnd, List.getLast?_reverse] at hc
    exact head?_dropWhile hc

theorem toNat_of_isWordChar {c : Char} (h : isWordChar c) : 0x30 ≤ c.toNat ∧ c.toNat ≤ 0x7A := by
  delta isWordChar Char.isAlphanum Char.isAlpha Char.isUpper Char.isLower Char.isDigit at h
  simp only [Bool.or_eq_true, Bool.and_eq_true, decide_eq_true_eq, beq_iff_eq, ge_iff_le,
    UInt32.le_iff_toNat_le] at h
  rcases h with ((h | h) | h) | rfl
  · exact ⟨le_trans (by decide) h.1, le_trans h.2 (by decide)⟩
  · exact ⟨le_trans (by decide) h.1, le_trans h.2 (by decide)⟩
  · exact ⟨h.1, le_trans h.2 (by decide)⟩
  · decide

theorem not_isBlank_of_isWordChar {c : Char} (h : isWordChar c) : isBlank c = false := by
  have hc := toNat_of_isWordChar h
  simp [isBlank]
  omega

/-! ### Parts -/

namespace Selector

/-- The parts of a selector make up its text. -/
theorem text_of_split {cs : List Char} {parts : List Part} (h : split cs = .ok parts) :
    parts.flatMap (fun p => p.text.toList) = cs := by
  fun_induction split cs generalizing parts with
  | case1 => cases h; rfl
  | case2 r => cases h
  | case3 r => cases h
  | case4 r name _ _ =>
    rename_i ih
    cases hs : split (r.dropWhile isWordChar) with
    | error f =>
      rw [hs] at h
      cases h
    | ok others =>
      rw [hs] at h
      cases h
      rw [List.flatMap_cons, ih hs]
      simp [Part.text, name, List.takeWhile_append_dropWhile]
  | case5 c r hc ih =>
    cases hs : split (r.dropWhile (· != '.')) with
    | error f =>
      rw [hs] at h
      cases h
    | ok others =>
      rw [hs] at h
      cases h
      rw [List.flatMap_cons, ih hs]
      simp [Part.text, List.takeWhile_append_dropWhile]

/-- What a literal is read as, by the text inside its blanks. -/
theorem parse_eq_ok_iff {literal : String} {location : Option Location} {h : Header} :
    parse literal location = .ok h ↔
      h.location = location ∧
        ((∃ r, Text.trim literal.toList = '@' :: r ∧
            h.parts = [.raw (String.ofList ('@' :: r))] ∧ h.isAtRule) ∨
          ∃ c r, Text.trim literal.toList = c :: r ∧ c ≠ '@' ∧ split (c :: r) = .ok h.parts ∧
            h.isAtRule = false) := by
  obtain ⟨parts, loc, isAtRule⟩ := h
  unfold parse
  cases hcs : Text.trim literal.toList with
  | nil => simp
  | cons c r =>
    by_cases hc : c = '@'
    · subst hc
      simp [eq_comm, and_assoc, and_left_comm]
    · cases hs : split (c :: r) <;> simp [hc, hs, eq_comm, and_assoc, and_left_comm]

/-- A selector is read the same from any literal with the same text inside its blanks. -/
theorem parse_congr {a b : String} {l l' : Option Location} {h : Header}
    (htrim : Text.trim b.toList = Text.trim a.toList) (hparse : parse a l = .ok h) :
    parse b l' = .ok { h with location := l' } := by
  rw [parse_eq_ok_iff] at hparse ⊢
  exact ⟨rfl, htrim ▸ hparse.2⟩

/-- What is read from a literal has the literal's text inside its blanks. -/
theorem text_of_parse {literal : String} {location : Option Location} {h : Header}
    (hparse : parse literal location = .ok h) : h.text.toList = Text.trim literal.toList := by
  have htext : h.text.toList = h.parts.flatMap fun p => p.text.toList := by
    rw [Header.text]
    induction h.parts with
    | nil => rfl
    | cons p parts ih => simp [ih]
  rcases (parse_eq_ok_iff.1 hparse).2 with ⟨r, hr, hparts, -⟩ | ⟨c, r, hr, -, hsplit, -⟩
  · rw [htext, hparts, hr]
    simp [Part.text]
  · rw [htext, hr, text_of_split hsplit]

/-- A class name behind its dot is read as the class name. -/
theorem parse_identifier {n : String} (hne : n ≠ "") (hn : ∀ c ∈ n.toList, isWordChar c)
    (location : Option Location) :
    parse ("." ++ n) location = .ok (.ofIdentifier n location) := by
  have hlist : ("." ++ n).toList = '.' :: n.toList := by simp
  have hnil : n.toList ≠ [] := by simpa using hne
  have htrimmed : Trimmed ('.' :: n.toList) := by
    refine ⟨fun c hc => by cases hc; rfl, fun c hc => ?_⟩
    rw [List.getLast?_cons_of_ne_nil hnil] at hc
    exact not_isBlank_of_isWordChar (hn c (List.mem_of_getLast? hc))
  have hsplit : split ('.' :: n.toList) = .ok [.classname n] := by
    rw [split, List.takeWhile_eq_self_iff.2 hn, List.dropWhile_eq_nil_iff.2 hn, if_neg hnil,
      if_neg (by simp), split, String.ofList_toList]
    rfl
  rw [parse_eq_ok_iff, hlist, trim_of_trimmed htrimmed]
  exact ⟨rfl, .inr ⟨'.', n.toList, rfl, by decide, hsplit, rfl⟩⟩

end Selector

/-- A header that stands for a name or that some literal is read as. -/
def Header.Written (h : Header) : Prop :=
  (∃ n : String, n ≠ "" ∧ (∀ c ∈ n.toList, isWordChar c) ∧ ∃ l, h = .ofIdentifier n l) ∨
    ∃ literal location, Selector.parse literal location = .ok h

/-- A header is read again from its own text. -/
theorem Header.Written.parse_text {h : Header} (hh : h.Written) (location : Option Location) :
    Selector.parse h.text location = .ok { h with location := location } := by
  rcases hh with ⟨n, hne, hn, l, rfl⟩ | ⟨literal, loc, hparse⟩
  · have htext : (Header.ofIdentifier n l).text = "." ++ n := by
      simp [Header.text, Header.ofIdentifier, Part.text]
    rw [htext]
    exact Selector.parse_identifier hne hn location
  · refine Selector.parse_congr ?_ hparse
    rw [Selector.text_of_parse hparse, trim_of_trimmed (trimmed_trim _)]

end ScopedCss

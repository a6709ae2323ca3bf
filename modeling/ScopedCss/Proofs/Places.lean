import Mathlib.Data.List.DropRight
import Mathlib.Data.List.Induction
import Mathlib.Data.Prod.Lex
import ScopedCss.Proofs.Concatenation
import ScopedCss.Proofs.ValueTokens

/-! Places of a source. A location counts the line feeds in front of it and the characters behind
the last of them, so it moves forward with every character, and no two places of a source have the
same one. The tokens of a source stand where they say, each one behind those before it. -/
namespace ScopedCss

namespace Location

/-! ### Order -/

/-- Earlier lines come first, and earlier columns of one line. -/
instance : LinearOrder Location :=
  LinearOrder.lift' (fun l => toLex (l.line, l.column)) fun a b h => by
    cases a
    cases b
    simpa using h

theorem lt_iff {a b : Location} : a < b ↔ a.line < b.line ∨ a.line = b.line ∧ a.column < b.column :=
  Prod.Lex.toLex_lt_toLex

theorem lt_next (l : Location) (c : Char) : l < l.next c := by
  rw [lt_iff, next]
  split <;> simp

theorem le_after (l : Location) (cs : List Char) : l ≤ l.after cs := by
  induction cs generalizing l with
  | nil => exact le_rfl
  | cons c cs ih => exact (l.lt_next c).le.trans (ih (l.next c))

theorem lt_after (l : Location) {cs : List Char} (h : cs ≠ []) : l < l.after cs := by
  obtain ⟨c, r, rfl⟩ := List.exists_cons_of_ne_nil h
  exact (l.lt_next c).trans_le ((l.next c).le_after r)

/-! ### Counting -/

theorem column_after_start (cs : List Char) :
    (start.after cs).column = (cs.rtakeWhile (· ≠ '\n')).length + 1 := by
  induction cs using List.reverseRecOn with
  | nil => rfl
  | append_singleton cs c ih =>
    rw [after_append]
    show ((start.after cs).next c).column = _
    by_cases hc : c = '\n'
    · simp [next, hc]
    · simp [next, hc, ih]

/-- What stands at a location of a source: in front of it there is a line feed for every line before
that of the location, and behind the last of them a character for every column. -/
def Shows (l : Location) (source text : List Char) : Prop :=
  ∃ before, source = before ++ text ∧ l.line = before.count '\n' + 1 ∧
    l.column = (before.rtakeWhile (· ≠ '\n')).length + 1

variable {l : Location} {source text text' : List Char}

theorem shows_iff :
    l.Shows source text ↔ ∃ before, source = before ++ text ∧ l = start.after before := by
  refine exists_congr fun before => and_congr_right fun _ => ?_
  have hline : (start.after before).line = before.count '\n' + 1 := by
    rw [line_after, Nat.add_comm]
    rfl
  rw [← hline, ← column_after_start]
  exact (Location.mk.injEq ..).symm.to_iff

theorem shows_after (before text : List Char) : (start.after before).Shows (before ++ text) text :=
  shows_iff.2 ⟨before, rfl, rfl⟩

/-- Only one text stands at a location. -/
theorem Shows.unique (h : l.Shows source text) (h' : l.Shows source text') : text' = text := by
  obtain ⟨before, hsource, hl⟩ := shows_iff.1 h
  obtain ⟨before', hsource', hl'⟩ := shows_iff.1 h'
  -- the longer of the two beginnings would end further on
  have hends {a b : List Char} (hsame : start.after a = start.after (a ++ b)) : b = [] := by
    by_contra hne
    rw [after_append] at hsame
    exact ((start.after a).lt_after hne).ne hsame
  rcases List.append_eq_append_iff.1 (hsource.symm.trans hsource') with
    ⟨more, rfl, rfl⟩ | ⟨more, rfl, rfl⟩
  · rw [hends (hl.symm.trans hl'), List.nil_append]
  · rw [hends (hl'.symm.trans hl), List.nil_append]

end Location

/-! ### Tokens -/

namespace Source

/-- The tokens that lexemes are from a location on. -/
def Lexeme.tokensFrom (here : Location) : List Lexeme → List Token
  | [] => []
  | l :: ls =>
    ⟨l.terminal, l.text, here.after l.gap⟩ :: tokensFrom ((here.after l.gap).after l.text) ls

/-- The tokens of a text whose lexemes are these. -/
def Lexeme.tokens (ls : List Lexeme) : List Token := tokensFrom Location.start ls

variable {p q : Point} {ls : List Lexeme}

/-- No token is empty, and each one stands behind those before it. -/
theorem Passes.ordered (h : Passes p ls q) :
    (∀ t ∈ Lexeme.tokensFrom p.here ls, p.here ≤ t.location ∧ t.text ≠ []) ∧
      (Lexeme.tokensFrom p.here ls).Pairwise fun t t' => t.location < t'.location := by
  induction h with
  | refl => exact ⟨nofun, .nil⟩
  | @token p q gap rest c cut r' ls _ hscan _ _ ih =>
    obtain ⟨hmore, hordered⟩ := ih
    have hgap := p.here.le_after gap
    have hnext := (p.here.after gap).lt_after (scan?_of hscan).ne_nil
    refine ⟨List.forall_mem_cons.2 ⟨⟨hgap, (scan?_of hscan).ne_nil⟩, fun t ht => ?_⟩,
      .cons (fun t ht => ?_) hordered⟩
    · exact ⟨(hgap.trans hnext.le).trans (hmore t ht).1, (hmore t ht).2⟩
    · exact hnext.trans_le (hmore t ht).1

theorem Passes.here_eq (h : Passes p ls q) : q.here = p.here.after (ls.flatMap Lexeme.chars) := by
  induction h with
  | refl => rfl
  | token _ _ _ _ _ ih =>
    rw [ih, ← Location.after_append, ← Location.after_append]
    simp [Lexeme.chars]

/-- Tokens stand in the source where their locations say. -/
theorem Passes.shows (h : Passes p ls q) {source : List Char} (before : List Char)
    (hsource : source = before ++ p.rest) (hhere : p.here = Location.start.after before) :
    ∀ t ∈ Lexeme.tokensFrom p.here ls, ∃ rest, t.location.Shows source (t.text ++ rest) := by
  induction h generalizing before with
  | refl => exact nofun
  | @token p q gap rest c cut r' ls hgap hscan _ _ ih =>
    have hsplit := splitGap_append false p.rest
    rw [hgap, ← (scan?_of hscan).append] at hsplit
    have hplace : p.here.after gap = Location.start.after (before ++ gap) := by
      rw [hhere, Location.after_append]
    have hrest : source = before ++ gap ++ (cut.text ++ cut.rest) := by
      rw [hsource, ← hsplit, List.append_assoc]
    refine List.forall_mem_cons.2 ⟨⟨cut.rest, ?_⟩, ih (before ++ gap ++ cut.text) ?_ ?_⟩
    · rw [hplace, hrest]
      exact Location.shows_after _ _
    · rw [hrest, List.append_assoc (before ++ gap)]
    · rw [hplace, ← Location.after_append]

end Source
end ScopedCss

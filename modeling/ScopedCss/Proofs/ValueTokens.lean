import Mathlib.Data.List.Find
import ScopedCss.Proofs.Acceptance
import ScopedCss.Proofs.TokenEnds

/-! The tokens of a value. A cursor follows them one by one, and where each of them ends depends on
the next one only, so a value has the same tokens in front of anything that does not go on with its
last token. That holds in front of a gap and of a closing parenthesis, and inside of parentheses a
cursor follows whatever it follows outside. -/
namespace ScopedCss.Source

/-- The text from the first token to the last one. -/
def Lexeme.textOf : List Lexeme → List Char
  | [] => []
  | l :: ls => l.text ++ ls.flatMap Lexeme.chars

namespace Cursor

/-- A cursor goes past these tokens to another one, where the text behind them is `tail`. -/
inductive Follows (tail : List Char) : Cursor → List Lexeme → Cursor → Prop
  | nil {c : Cursor} : Follows tail c [] c
  | cons {c c₁ c' : Cursor} {l : Lexeme} {ls : List Lexeme} (hgap : Skipped l.gap)
      (hscan : scan? c.place.allows (l.text ++ (ls.flatMap Lexeme.chars ++ tail)) =
        some ⟨l.terminal, l.text, ls.flatMap Lexeme.chars ++ tail⟩)
      (hnext : c.next? l.terminal = some c₁) (h : Follows tail c₁ ls c') :
      Follows tail c (l :: ls) c'

variable {c c₁ c' : Cursor} {l : Lexeme} {ls : List Lexeme} {tail tail' : List Char}

/-- One more token at the end. -/
theorem Follows.snoc (h : Follows (l.chars ++ tail) c ls c₁) (hgap : Skipped l.gap)
    (hscan : scan? c₁.place.allows (l.text ++ tail) = some ⟨l.terminal, l.text, tail⟩)
    (hnext : c₁.next? l.terminal = some c') : Follows tail c (ls ++ [l]) c' := by
  induction h with
  | nil => exact .cons hgap (by simpa using hscan) hnext .nil
  | cons hgap₁ hscan₁ hnext₁ _ ih =>
    refine .cons hgap₁ ?_ hnext₁ (ih hscan hnext)
    simpa using hscan₁

/-- The gap in front of the first token does not matter. -/
theorem Follows.regap {gap : List Char} (h : Follows tail c (l :: ls) c') (hgap : Skipped gap) :
    Follows tail c (⟨gap, l.terminal, l.text⟩ :: ls) c' := by
  cases h with
  | cons _ hscan hnext h => exact .cons hgap hscan hnext h

/-- The terminals of the tokens belong to what the cursor stands behind. -/
theorem Follows.reads (h : Follows tail c ls c') {before : List Terminal} (hc : c.Reads before) :
    c'.Reads (before ++ ls.map Lexeme.terminal) := by
  induction h generalizing before with
  | nil => rwa [List.map_nil, List.append_nil]
  | cons _ _ hnext _ ih => simpa using ih (reads_next hc hnext)

/-- The tokens of a value that may end are an expression. -/
theorem Follows.derives (h : Follows tail start ls c) (hc : c.isComplete) :
    Symbol.expr.Derives (ls.map Lexeme.terminal) := by
  have hreads := h.reads reads_start
  obtain ⟨place, brackets⟩ := c
  simp only [isComplete, Bool.and_eq_true, beq_iff_eq, List.isEmpty_iff] at hc
  obtain ⟨rfl, rfl⟩ := hc
  exact .symbol hreads

/-! ### In front of another text -/

/-- No token goes on with the front of this text. -/
def Ends (tail : List Char) : Prop :=
  ∀ (allowed : Terminal → Bool) (t : Terminal) (w : List Char), t.Matches w →
    Bounded allowed t w tail

theorem ends_gap {d : Char} (hd : gapNext false d ≠ none) (more : List Char) : Ends (d :: more) :=
  fun _ _ _ h => bounded_gap hd h more

theorem ends_closeParen (more : List Char) : Ends (')' :: more) := by
  intro allowed t w h
  refine ⟨fun _ _ d hd => ?_, ?_, fun _ d hd => ?_, fun _ => exponent_of_ne rfl more, ?_, ?_⟩
  · cases hd
    rfl
  · rintro rfl -
    exact fstring?_of_isName h (string?_cons_of_ne rfl more)
  · cases hd
    rfl
  · exact fun _ hd => absurd (Option.some.inj hd) (by decide)
  · intro hw p hp _ hfound
    by_cases hparen : ')' ∈ p.2
    · -- the only symbol with a parenthesis of this kind is one character long
      have hall : ∀ p ∈ symbols, ')' ∈ p.2 → p.2 = [')'] := by decide
      obtain ⟨d, r, rfl⟩ := List.exists_cons_of_ne_nil (symbols_filled _ hw)
      rw [hall p hp hparen] at hfound ⊢
      simpa using hfound
    · rwa [isPrefixOf_of_notMem hparen] at hfound

/-- A token is cut off again in front of what resembles the text behind it. -/
theorem scan?_next {cs rest' : List Char} {cut : Cut} (hscan : scan? c.place.allows cs = some cut)
    (hnext : c.next? cut.terminal = some c₁) (hrest : Resembles c₁.place.allows cut.rest rest') :
    scan? c.place.allows (cut.text ++ rest') = some ⟨cut.terminal, cut.text, rest'⟩ := by
  let property : Token := ⟨.name, [], Location.start⟩
  let scope : Scope := .block {} []
  have hstep : Reader.step ⟨[], .value property [] c scope⟩ [] ⟨cut.terminal, cut.text, .start⟩ =
      some ⟨[], .value property (Reader.extend [] [] cut.text) c₁ scope⟩ := by
    simp only [Reader.step, hnext]
  exact scan?_resembling (r := ⟨[], .value property [] c scope⟩) hscan hstep hrest

/-- The same tokens are followed in front of any text that the last of them ends at. -/
theorem Follows.transport (h : Follows tail c ls c') (htail : Ends tail') :
    Follows tail' c ls c' := by
  induction h with
  | nil => exact .nil
  | @cons c c₁ c' l ls hgap hscan hnext h ih =>
    refine .cons hgap ?_ hnext ih
    cases h with
    | nil =>
      obtain ⟨hallowed, hmatches⟩ := matches_of_scan? hscan
      exact scan?_of_bounded hallowed hmatches (ne_word_of_scan? hscan) (htail _ _ _ hmatches)
    | @cons _ c₂ _ l₂ ls hgap₂ hscan₂ hnext₂ h₂ =>
      refine scan?_next hscan hnext ?_
      by_cases hnil : l₂.gap = []
      · have hrest : ∀ tail : List Char, (l₂ :: ls).flatMap Lexeme.chars ++ tail =
            l₂.text ++ (ls.flatMap Lexeme.chars ++ tail) := by simp [Lexeme.chars, hnil]
        rw [← hrest] at hscan₂
        exact .token hscan₂ (hrest tail')
      · obtain ⟨d, more, hd, hne⟩ := hgap₂.exists_cons hnil
        exact .gap hne (by rw [List.flatMap_cons, Lexeme.chars, hd]; rfl)

/-! ### Inside of parentheses -/

/-- A cursor inside of one more pair of parentheses around the whole. -/
def within (c : Cursor) : Cursor := ⟨c.place, c.brackets ++ [.group]⟩

theorem head?_append_group {b : Bracket} (hb : b ≠ .group) (bs : List Bracket) :
    (bs ++ [Bracket.group]).head? = some b ↔ bs.head? = some b := by
  cases bs <;> simp [hb.symm]

theorem operand?_within {t : Terminal} (h : c.operand? t = some c') :
    c.within.operand? t = some c'.within := by
  obtain ⟨place, brackets⟩ := c
  cases t <;> simp only [operand?, reduceCtorEq] at h
  case closeParen | closeBracket =>
    split at h <;> cases h <;> rfl
  case notWord =>
    split_ifs at h with hplace
    cases h
    exact if_neg hplace
  case name =>
    cases h
    simp only [within, operand?, head?_append_group (by decide : Bracket.call ≠ .group)]
  all_goals
    cases h
    rfl

theorem operator?_within {t : Terminal} (h : c.operator? t = some c') :
    c.within.operator? t = some c'.within := by
  obtain ⟨place, brackets⟩ := c
  cases t <;> simp only [operator?, reduceCtorEq] at h
  case elseWord | comma | closeParen | closeBracket =>
    split at h <;> cases h <;> rfl
  case equals =>
    split_ifs at h with hplace
    cases h
    exact if_pos hplace
  case ifWord =>
    split_ifs at h with hopen
    cases h
    exact if_neg (mt (head?_append_group (by decide) brackets).1 hopen)
  all_goals
    cases h
    rfl

theorem next?_within {t : Terminal} (h : c.next? t = some c') :
    c.within.next? t = some c'.within := by
  obtain ⟨place, brackets⟩ := c
  cases place
  case first | test | factor => exact operand?_within h
  case operator | keyword => exact operator?_within h
  -- left is the place behind a dot
  rw [next?] at h ⊢
  split_ifs at h with ht
  cases h
  exact if_pos ht

theorem Follows.within (h : Follows tail c ls c') : Follows tail c.within ls c'.within := by
  induction h with
  | nil => exact .nil
  | cons hgap hscan hnext _ ih => exact .cons hgap hscan (next?_within hnext) ih

/-- Where an expression starts, a closing bracket is the only thing more that may stand behind an
opening one. -/
theorem scan?_first {cs : List Char} {cut : Cut} (h : scan? Place.test.allows cs = some cut) :
    scan? Place.first.allows cs = some cut := by
  obtain ⟨d, r, rfl⟩ : ∃ d r, cs = d :: r := by
    refine List.exists_cons_of_ne_nil ?_
    rintro rfl
    cases h
  obtain ⟨hallowed, w, -, hmatches⟩ := exists_text_cons h
  have hbracket : d ≠ ')' ∧ d ≠ ']' := by
    constructor <;> rintro rfl
    all_goals
      have hmem := mem_spellings_of_matches hmatches rfl rfl (by decide) rfl
      generalize cut.terminal = t at hmem hallowed
      cases t <;> simp [Terminal.spellings] at hmem
      cases hallowed
  have hwords : ∀ p ∈ words, Place.first.allows p.1 = Place.test.allows p.1 := by decide
  have hsymbols : ∀ p ∈ symbols, Place.first.allows p.1 = Place.test.allows p.1 ∨
      p.2 = [')'] ∨ p.2 = [']'] := by decide
  have hword : word? Place.first.allows (d :: r) = word? Place.test.allows (d :: r) := by
    unfold word?
    simp only [show Place.first.allows .name = true from rfl,
      show Place.test.allows .name = true from rfl, if_true]
    rw [List.find?_congr fun p hp => by rw [hwords p hp]]
  have hsymbol : spelled? symbols Place.first.allows (d :: r) =
      spelled? symbols Place.test.allows (d :: r) := by
    unfold spelled?
    rw [List.find?_congr fun p hp => ?_]
    rcases hsymbols p hp with hsame | hp | hp
    · rw [hsame]
    · simp [hp, List.isPrefixOf, beq_eq_false_iff_ne.2 (Ne.symm hbracket.1)]
    · simp [hp, List.isPrefixOf, beq_eq_false_iff_ne.2 (Ne.symm hbracket.2)]
  rw [← h, scan?_eq_or, scan?_eq_or, hword, hsymbol]
  rfl

theorem next?_first {t : Terminal} {bs : List Bracket}
    (h : next? ⟨.test, .group :: bs⟩ t = some c') : next? ⟨.first, .group :: bs⟩ t = some c' := by
  cases t <;> first | exact h | cases h

/-- A value in parentheses is a value. -/
theorem Follows.enclosed {closing : List Char} (h : Follows tail start (l :: ls) c)
    (hc : c.isComplete) (hclosing : Skipped closing) (tail' : List Char) :
    Follows tail' start
      (⟨[], .openParen, ['(']⟩ :: ⟨[], l.terminal, l.text⟩ ::
        (ls ++ [⟨closing, .closeParen, [')']⟩]))
      ⟨.operator, []⟩ := by
  obtain ⟨place, brackets⟩ := c
  simp only [isComplete, Bool.and_eq_true, beq_iff_eq, List.isEmpty_iff] at hc
  obtain ⟨rfl, rfl⟩ := hc
  let close : Lexeme := ⟨closing, .closeParen, [')']⟩
  have hends : Ends (close.chars ++ tail') := by
    cases closing with
    | nil => exact ends_closeParen tail'
    | cons d more =>
      obtain ⟨_, _, heq, hd⟩ := hclosing.exists_cons (List.cons_ne_nil d more)
      cases heq
      exact ends_gap hd _
  have hinner := (h.regap (fun _ => rfl : Skipped [])).within.transport hends
  have hclosed := hinner.snoc (l := close) hclosing rfl rfl
  cases hclosed with
  | cons hgap hscan hnext hrest =>
    have hfirst := Follows.cons (c := ⟨.first, [.group]⟩) hgap (scan?_first hscan)
      (next?_first hnext) hrest
    exact .cons (fun _ => rfl) rfl rfl hfirst

end Cursor

/-! ### Tokens of a text -/

/-- Where reading has come to. -/
structure Point where
  reader : Reader
  here : Location
  rest : List Char

/-- Reading goes from one point to another by taking these tokens. -/
inductive Passes : Point → List Lexeme → Point → Prop
  | refl {p : Point} : Passes p [] p
  | token {p q : Point} {gap rest : List Char} {c : Char} (cut : Cut) {r' : Reader}
      {ls : List Lexeme} (hgap : splitGap false p.rest = (gap, c :: rest))
      (hscan : scan? p.reader.stage.allows (c :: rest) = some cut)
      (hstep : p.reader.step gap ⟨cut.terminal, cut.text, p.here.after gap⟩ = some r')
      (h : Passes ⟨r', (p.here.after gap).after cut.text, cut.rest⟩ ls q) :
      Passes p (⟨gap, cut.terminal, cut.text⟩ :: ls) q

variable {p q : Point} {ls : List Lexeme}

theorem Passes.trans {m : Point} {ls' : List Lexeme} (h : Passes p ls m) (h' : Passes m ls' q) :
    Passes p (ls ++ ls') q := by
  induction h with
  | refl => exact h'
  | token cut hgap hscan hstep _ ih => exact .token cut hgap hscan hstep (ih h')

/-- What a token preserves, together with the tokens before it, is preserved by all of them. -/
theorem Passes.preserves {Inv : List Lexeme → Point → Prop}
    (htoken : ∀ {past p gap c rest cut r'}, splitGap false p.rest = (gap, c :: rest) →
      scan? p.reader.stage.allows (c :: rest) = some cut →
      p.reader.step gap ⟨cut.terminal, cut.text, p.here.after gap⟩ = some r' → Inv past p →
      Inv (past ++ [⟨gap, cut.terminal, cut.text⟩])
        ⟨r', (p.here.after gap).after cut.text, cut.rest⟩)
    (h : Passes p ls q) {past : List Lexeme} (hp : Inv past p) : Inv (past ++ ls) q := by
  induction h generalizing past with
  | refl => rwa [List.append_nil]
  | token _ hgap hscan hstep _ ih => simpa using ih (htoken hgap hscan hstep hp)

theorem Passes.rest_eq (h : Passes p ls q) : p.rest = ls.flatMap Lexeme.chars ++ q.rest := by
  induction h with
  | refl => rfl
  | @token p q gap rest c cut r' ls hgap hscan _ _ ih =>
    have hsplit := splitGap_append false p.rest
    rw [hgap, ← (scan?_of hscan).append, show cut.rest = _ from ih] at hsplit
    rw [← hsplit]
    simp [Lexeme.chars]

theorem Passes.valid (h : Passes p ls q) : ∀ l ∈ ls, l.Valid := by
  induction h with
  | refl => exact nofun
  | @token p q gap rest c cut r' ls hgap hscan _ _ ih =>
    have hignorable := (ignorable_splitGap p.rest).1
    rw [hgap] at hignorable
    exact List.forall_mem_cons.2 ⟨⟨hignorable, (matches_of_scan? hscan).2⟩, ih⟩

/-- Reading a text takes these tokens and leaves only a gap. -/
def Tokens (cs : List Char) (ls : List Lexeme) : Prop :=
  ∃ q, Passes ⟨.start, .start, cs⟩ ls q ∧ q.reader.isFinished ∧ (splitGap false q.rest).2 = []

/-- Reading goes on from the last point just as from the first. -/
theorem Passes.readFrom_eq (h : Passes p ls q) (last : Location) :
    ∃ last', readFrom p.reader last p.here p.rest = readFrom q.reader last' q.here q.rest := by
  induction h generalizing last with
  | refl => exact ⟨last, rfl⟩
  | token _ hgap hscan hstep _ ih =>
    rw [readFrom_token last _ hgap hscan hstep]
    exact ih _

theorem exists_passes {r : Reader} {last here : Location} {cs : List Char} {blocks : List Block}
    (h : readFrom r last here cs = .ok blocks) :
    ∃ ls q, Passes ⟨r, here, cs⟩ ls q ∧ q.reader.isFinished ∧ q.reader.done = blocks ∧
      (splitGap false q.rest).2 = [] := by
  refine readFrom_induction (motive := fun r _ here cs => ∃ ls q, Passes ⟨r, here, cs⟩ ls q ∧
    q.reader.isFinished ∧ q.reader.done = blocks ∧ (splitGap false q.rest).2 = []) ?_ ?_ h
  · intro r _ here cs hend hfinished hdone
    exact ⟨[], _, .refl, hfinished, hdone, hend⟩
  · rintro r _ here cs gap c rest cut r' hgap hscan hstep - ⟨ls, q, hls, hq⟩
    exact ⟨_, q, .token cut hgap hscan hstep hls, hq⟩

/-! ### Reading a value -/

variable {tail : List Char} {c c₁ c' : Cursor} {l : Lexeme}

theorem passes_value (hgap : Skipped l.gap)
    (hscan : scan? c.place.allows (l.text ++ tail) = some ⟨l.terminal, l.text, tail⟩)
    (hnext : c.next? l.terminal = some c₁) (done : List Block) (property : Token)
    (pieces : List (List Char)) (s : Scope) (here : Location) :
    ∃ here', Passes ⟨⟨done, .value property pieces c s⟩, here, l.chars ++ tail⟩ [l]
      ⟨⟨done, .value property (Reader.extend pieces l.gap l.text) c₁ s⟩, here', tail⟩ := by
  obtain ⟨gap, terminal, text⟩ := l
  obtain ⟨d, r, rfl⟩ := List.exists_cons_of_ne_nil (scan?_of hscan).ne_nil
  have hsplit := hgap.splitGap_token (gapNext_of_matches (matches_of_scan? hscan).2) (r ++ tail)
  have hstep (location : Location) : Reader.step ⟨done, .value property pieces c s⟩ gap
      ⟨terminal, d :: r, location⟩ =
        some ⟨done, .value property (Reader.extend pieces gap (d :: r)) c₁ s⟩ := by
    simp only [Reader.step, hnext]
  refine ⟨_, .token ⟨terminal, d :: r, tail⟩ ?_ hscan (hstep _) .refl⟩
  simpa [Lexeme.chars] using hsplit

/-- A reader in a value goes past what its cursor follows and keeps the text. -/
theorem Cursor.Follows.passes (h : Cursor.Follows tail c ls c') (done : List Block)
    (property : Token) {pieces : List (List Char)} (hpieces : pieces ≠ []) (s : Scope)
    (here : Location) :
    ∃ pieces' here', Reader.joined pieces' = Reader.joined pieces ++ ls.flatMap Lexeme.chars ∧
      Passes ⟨⟨done, .value property pieces c s⟩, here, ls.flatMap Lexeme.chars ++ tail⟩ ls
        ⟨⟨done, .value property pieces' c' s⟩, here', tail⟩ := by
  induction h generalizing pieces here with
  | nil => exact ⟨pieces, here, by simp, .refl⟩
  | @cons c c₁ c' l ls hgap hscan hnext _ ih =>
    obtain ⟨here₁, hfirst⟩ := passes_value hgap hscan hnext done property pieces s here
    have hpieces₁ : Reader.extend pieces l.gap l.text ≠ [] := by simp [Reader.extend, hpieces]
    obtain ⟨pieces', here', hjoined, hothers⟩ := ih hpieces₁ here₁
    refine ⟨pieces', here', ?_, ?_⟩
    · rw [hjoined, Reader.joined_extend hpieces, List.flatMap_cons, Lexeme.chars]
      simp
    · rw [List.flatMap_cons, List.append_assoc]
      exact hfirst.trans hothers

/-- A reader at the start of a value takes it from its first token on. -/
theorem Cursor.Follows.passes_start (h : Cursor.Follows tail c ls c') (hne : ls ≠ [])
    (done : List Block) (property : Token) (s : Scope) (here : Location) :
    ∃ pieces here', Reader.joined pieces = Lexeme.textOf ls ∧
      Passes ⟨⟨done, .value property [] c s⟩, here, ls.flatMap Lexeme.chars ++ tail⟩ ls
        ⟨⟨done, .value property pieces c' s⟩, here', tail⟩ := by
  cases h with
  | nil => exact absurd rfl hne
  | @cons _ c₁ _ l ls hgap hscan hnext hothers =>
    obtain ⟨here₁, hfirst⟩ := passes_value hgap hscan hnext done property [] s here
    obtain ⟨pieces, here', hjoined, hothers⟩ :=
      hothers.passes done property (List.cons_ne_nil l.text []) s here₁
    refine ⟨pieces, here', by rw [hjoined]; simp [Reader.joined, Lexeme.textOf], ?_⟩
    rw [List.flatMap_cons, List.append_assoc]
    exact hfirst.trans hothers

end ScopedCss.Source

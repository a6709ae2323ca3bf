import ScopedCss.Proofs.Captures

/-! Where tokens end in a text that is read. A token is the same one in front of any gap, and in
front of the token that follows it whatever stands behind that one. So a text is read alike as far
as its tokens stand in the same order, with gaps where there were gaps or where none was. -/
namespace ScopedCss.Source

open Text (isWordChar isWordStart)

variable {allowed : Terminal → Bool} {t : Terminal} {w rest rest' : List Char}

/-! ### Gaps -/

/-- A text that is passed over wherever a token may start, whatever follows it. -/
def Skipped (gap : List Char) : Prop :=
  ∀ more, splitGap false (gap ++ more) = (gap ++ (splitGap false more).1, (splitGap false more).2)

/-- The gap in front of a token is left behind, and the token does not go on with it. -/
theorem skipped_of_token {cs gap : List Char} {c : Char}
    (h : splitGap false cs = (gap, c :: rest)) : Skipped gap ∧ gapNext false c = none := by
  suffices hstrong : ∀ b, splitGap b cs = (gap, c :: rest) →
      (∀ more, splitGap b (gap ++ more) =
        (gap ++ (splitGap false more).1, (splitGap false more).2)) ∧ gapNext false c = none from
    hstrong false h
  clear h
  induction cs generalizing gap with
  | nil =>
    intro b h
    cases h
  | cons d cs ih =>
    intro b h
    cases hd : gapNext b d with
    | none =>
      rw [splitGap_cons_of_none hd] at h
      cases h
      obtain rfl : b = false := by
        -- inside a comment any character goes on with the gap
        by_contra hb
        obtain rfl : b = true := by simpa using hb
        by_cases hline : c = '\n'
        · subst hline
          cases hd
        · simp [gapNext, hline] at hd
      exact ⟨fun _ => rfl, hd⟩
    | some b' =>
      rw [splitGap_cons_of_some hd, Prod.mk.injEq] at h
      obtain ⟨rfl, htoken⟩ := h
      obtain ⟨hgap, hc⟩ := ih b' (Prod.ext rfl htoken)
      refine ⟨fun more => ?_, hc⟩
      rw [List.cons_append, splitGap_cons_of_some hd, hgap, List.cons_append]

/-- A line feed ends a gap, and a comment in it. -/
theorem skipped_newline {gap : List Char} (h : (splitGap false gap).2 = []) :
    Skipped (gap ++ ['\n']) := by
  intro more
  obtain ⟨inComment, happend⟩ := splitGap_append_of_gap h
  have hline : gapNext inComment '\n' = some false := by cases inComment <;> rfl
  rw [← List.append_cons, happend, splitGap_cons_of_some hline, ← List.append_cons]

theorem Skipped.splitGap_token {gap : List Char} {c : Char} (h : Skipped gap)
    (hc : gapNext false c = none) (more : List Char) :
    splitGap false (gap ++ c :: more) = (gap, c :: more) := by
  rw [h, splitGap_cons_of_none hc, List.append_nil]

theorem Skipped.exists_cons {gap : List Char} (h : Skipped gap) (hne : gap ≠ []) :
    ∃ c more, gap = c :: more ∧ gapNext false c ≠ none := by
  obtain ⟨c, more, rfl⟩ := List.exists_cons_of_ne_nil hne
  refine ⟨c, more, rfl, fun hc => ?_⟩
  have hall := h []
  rw [List.cons_append, splitGap_cons_of_none hc] at hall
  cases congrArg Prod.snd hall

/-! ### In front of a gap -/

theorem mem_of_gapNext {c : Char} (h : gapNext false c ≠ none) :
    c ∈ [' ', '\t', '\x0c', '\r', '\n', '#'] := by
  by_contra hc
  exact h (gapNext_of_not_mem hc)

theorem bounded_gap {c : Char} (hc : gapNext false c ≠ none) (h : t.Matches w) (more : List Char) :
    Bounded allowed t w (c :: more) := by
  have hall : isWordChar c = false ∧ c.isDigit = false ∧ isQuote c = false ∧
      (c == 'e' || c == 'E') = false ∧ c ≠ '.' ∧ ∀ p ∈ symbols, c ∉ p.2 := by
    have hmem := mem_of_gapNext hc
    simp only [List.mem_cons, List.not_mem_nil, or_false] at hmem
    rcases hmem with rfl | rfl | rfl | rfl | rfl | rfl <;> decide
  obtain ⟨hword, hdigit, hquote, hpower, hpoint, hsymbol⟩ := hall
  refine ⟨fun _ _ d hd => ?_, ?_, fun _ d hd => ?_, fun _ => exponent_of_ne hpower more, ?_, ?_⟩
  · cases hd
    exact hword
  · rintro rfl -
    exact fstring?_of_isName h (string?_cons_of_ne hquote more)
  · cases hd
    exact hdigit
  · exact fun _ hd => absurd (Option.some.inj hd) hpoint
  · intro _ p hp _ hfound
    rwa [isPrefixOf_of_notMem (hsymbol p hp)] at hfound

/-! ### In front of the same token -/

theorem mem_of_spelled? {table : List (Terminal × List Char)} {cs : List Char} {cut : Cut}
    (h : spelled? table allowed cs = some cut) : (cut.terminal, cut.text) ∈ table := by
  obtain ⟨p, hp, rfl⟩ := Option.map_eq_some_iff.1 h
  exact List.mem_of_find?_eq_some hp

/-- Where names are allowed a word goes as far as it can, and it is a name if it is no operator that
is looked for; elsewhere it is an operator. -/
theorem word?_cases {cs : List Char} {cut : Cut} (h : word? allowed cs = some cut) :
    (allowed .name → ∀ c, cut.rest.head? = some c → isWordChar c = false) ∧
      ((cut.terminal = .name ∧ ∀ p ∈ words, allowed p.1 → p.2 ≠ cut.text) ∨
        (cut.terminal, cut.text) ∈ words) := by
  unfold word? at h
  split at h
  · split at h
    next c r =>
      rw [Option.ite_none_right_eq_some, Option.some.injEq] at h
      obtain ⟨-, rfl⟩ := h
      refine ⟨fun _ d hd => ?_, ?_⟩
      · have hnot := List.head?_dropWhile_not isWordChar r
        rw [hd] at hnot
        exact hnot
      · cases hfind : words.find? fun p => allowed p.1 && p.2 == c :: r.takeWhile isWordChar with
        | none =>
          refine .inl ⟨rfl, fun p hp hallowed heq => ?_⟩
          exact List.find?_eq_none.1 hfind p hp (by simp [hallowed, heq])
        | some p =>
          have hfound := List.find?_some hfind
          rw [Bool.and_eq_true, beq_iff_eq] at hfound
          refine .inr ?_
          rw [← hfound.2]
          exact List.mem_of_find?_eq_some hfind
    next => cases h
  next hname => exact ⟨fun hallowed => absurd hallowed hname, .inr (mem_of_spelled? h)⟩

/-- The scanner that a cut is found by, and that those before it find nothing. -/
theorem found_of_scan? {cs : List Char} {cut : Cut} (h : scan? allowed cs = some cut) :
    (cut.terminal = .fstring) ∨
    (allowed .fstring → fstring? cs = none) ∧
      ((cut.terminal = .number ∧ number? cs = some cut) ∨
      (allowed .number → number? cs = none) ∧
        (word? allowed cs = some cut ∨ cut.terminal = .string ∨
          spelled? symbols allowed cs = some cut)) := by
  have hnone {permitted : Bool} {scanner : List Char → Option Cut}
      (hn : onlyIf permitted scanner cs = none) (hp : permitted) : scanner cs = none := by
    rwa [onlyIf, if_pos hp] at hn
  rw [scan?_eq_or] at h
  simp only [Option.or_eq_some_iff] at h
  rcases h with h | ⟨hf, h | ⟨hn, h | ⟨-, h | ⟨-, h⟩⟩⟩⟩
  · exact .inl (matches_of_fstring? (onlyIf_eq_some.1 h).2).1
  · have hfound := (onlyIf_eq_some.1 h).2
    exact .inr ⟨hnone hf, .inl ⟨(isNumber_of_number? hfound).1, hfound⟩⟩
  · exact .inr ⟨hnone hf, .inr ⟨hnone hn, .inl h⟩⟩
  · obtain ⟨_, _, _, _, hcut, _⟩ := literal_of_string? (onlyIf_eq_some.1 h).2
    exact .inr ⟨hnone hf, .inr ⟨hnone hn, .inr (.inl (congrArg Cut.terminal hcut))⟩⟩
  · exact .inr ⟨hnone hf, .inr ⟨hnone hn, .inr (.inr h)⟩⟩

/-- A name is no operator that is looked for. -/
theorem ne_word_of_scan? {cs : List Char} {cut : Cut} (h : scan? allowed cs = some cut)
    (hname : cut.terminal = .name) : ∀ p ∈ words, allowed p.1 → p.2 ≠ cut.text := by
  rcases found_of_scan? h with ht | ⟨-, ⟨ht, -⟩ | ⟨-, hw | ht | hs⟩⟩
  · cases hname.symm.trans ht
  · cases hname.symm.trans ht
  · rcases (word?_cases hw).2 with ⟨-, hother⟩ | hmem
    · exact hother
    · simp [hname, words] at hmem
  · cases hname.symm.trans ht
  · have hmem := mem_of_spelled? hs
    simp [hname, symbols] at hmem

/-- A text that goes on like another one, as far as a token in front of it can tell: with the same
first character, and with a literal only if the other one does. -/
structure Alike (rest rest' : List Char) : Prop where
  head : rest'.head? = rest.head?
  literal : string? rest = none → string? rest' = none

theorem number?_point_of_digits {r : List Char} (hw : ∀ d ∈ w, d.isDigit) (hne : w ≠ []) :
    ∃ cut, number? (w ++ '.' :: r) = some cut ∧ cut.text ≠ w := by
  obtain ⟨htake, hdrop⟩ := split_run hw (r := '.' :: r) fun c hc => by cases hc; rfl
  refine ⟨_, by rw [number?_of_dot hdrop, htake, if_neg fun h => hne h.1], fun heq => ?_⟩
  have hlength := congrArg List.length heq
  simp at hlength

theorem fstring?_alike (h : IsName w) (hf : fstring? (w ++ rest) = none) (ha : Alike rest rest') :
    fstring? (w ++ rest') = none := by
  obtain ⟨c, r, rfl, -, hr⟩ := h
  cases r with
  | nil =>
    rw [List.cons_append, List.nil_append, fstring?] at hf ⊢
    split_ifs at hf ⊢
    · rw [Option.map_eq_none_iff] at hf ⊢
      exact ha.literal hf
    · rfl
  | cons d r =>
    rw [List.cons_append, List.cons_append, fstring?,
      string?_cons_of_ne (not_isQuote_of_isWordChar (hr d List.mem_cons_self))]
    exact ite_self _

/-- Symbols have at most two characters. -/
theorem isPrefixOf_alike {p : Terminal × List Char} (hp : p ∈ symbols) (hw : w ≠ [])
    (ha : Alike rest rest') : p.2.isPrefixOf (w ++ rest') = p.2.isPrefixOf (w ++ rest) := by
  have hshort : ∀ p ∈ symbols, p.2.length ≤ 2 := by decide
  have hlength := hshort p hp
  have hhead := ha.head
  obtain ⟨c, r, rfl⟩ := List.exists_cons_of_ne_nil hw
  match p, hlength with
  | (_, []), _ => rfl
  | (_, [a]), _ => simp [List.isPrefixOf]
  | (_, [a, b]), _ =>
    cases r with
    | nil => cases rest <;> cases rest' <;> simp_all [List.isPrefixOf]
    | cons e r => simp [List.isPrefixOf]

theorem symbol_alike (h : spelled? symbols allowed (w ++ rest) = some ⟨t, w, rest⟩) (hw : w ≠ [])
    (ha : Alike rest rest') :
    ∀ p ∈ symbols, allowed p.1 → p.2.isPrefixOf (w ++ rest') → p.2.isPrefixOf w := by
  intro p hp hallowed hfound
  rw [isPrefixOf_alike hp hw ha] at hfound
  obtain ⟨q, hq, hcut⟩ := Option.map_eq_some_iff.1 h
  obtain rfl : q.2 = w := congrArg Cut.text hcut
  obtain ⟨-, before, after, htable, hbefore⟩ := List.find?_eq_some_iff_append.1 hq
  have hpairwise : symbols.Pairwise fun a b => a.2.isPrefixOf b.2 = false := by decide
  rw [htable, List.pairwise_append, List.pairwise_cons] at hpairwise
  rw [htable, List.mem_append, List.mem_cons] at hp
  rcases hp with hp | rfl | hp
  · have hno := hbefore p hp
    simp [hallowed, hfound] at hno
  · exact List.isPrefixOf_iff_prefix.2 (List.prefix_refl _)
  · -- a later text is no longer than this one, since this one does not start it
    have hno := hpairwise.2.1.1 p hp
    rcases List.prefix_or_prefix_of_prefix (List.isPrefixOf_iff_prefix.1 hfound)
      (List.prefix_append q.2 rest) with hpre | hpre
    · exact List.isPrefixOf_iff_prefix.2 hpre
    · rw [List.isPrefixOf_iff_prefix.2 hpre] at hno
      cases hno

/-- A token ends where it did if the text goes on alike; behind a number no exponent may start. -/
theorem bounded_alike (h : scan? allowed (w ++ rest) = some ⟨t, w, rest⟩) (ha : Alike rest rest')
    (hnumber : t = .number →
      (∀ c, rest'.head? = some c → c.isDigit = false) ∧ exponent rest' = ([], rest')) :
    Bounded allowed t w rest' := by
  have hmatches := (matches_of_scan? h).2
  have hne := (scan?_of h).ne_nil
  -- a terminal is found by one scanner only, so most of what is asked does not concern it
  rcases found_of_scan? h with
    ht | ⟨hf, ⟨ht, hn⟩ | ⟨hn, hw | ht | hs⟩⟩
  · obtain rfl : t = .fstring := ht
    exact ⟨by simp [words], by simp, by simp, by simp, by simp, by simp [symbols]⟩
  · obtain rfl : t = .number := ht
    obtain ⟨hdigit, hpower⟩ := hnumber rfl
    refine ⟨by simp [words], by simp, fun _ => hdigit, fun _ => hpower, fun _ hpoint => ?_,
      by simp [symbols]⟩
    by_contra hall
    obtain ⟨r, rfl⟩ : ∃ r, rest = '.' :: r := List.head?_eq_some_iff.1 (ha.head.symm.trans hpoint)
    have hdigits : ∀ d ∈ w, d.isDigit := by simpa using hall
    obtain ⟨cut, hcut, htext⟩ := number?_point_of_digits (r := r) hdigits hne
    rw [hn, Option.some.injEq] at hcut
    exact htext (congrArg Cut.text hcut.symm)
  · obtain ⟨hend, hkind⟩ := word?_cases hw
    have hword : allowed .name → ∀ c, rest'.head? = some c → isWordChar c = false := by
      rw [ha.head]
      exact hend
    rcases hkind with ⟨ht, -⟩ | ht
    · obtain rfl : t = .name := ht
      exact ⟨fun _ => hword, fun _ hallowed => fstring?_alike hmatches (hf hallowed) ha, by simp,
        by simp, by simp, by simp [symbols]⟩
    · have hother : ∀ p ∈ words, p.1 ≠ .name ∧ p.1 ≠ .number ∧ p.1 ≠ .dot ∧
          ∀ q ∈ symbols, q.1 ≠ p.1 := by decide
      obtain ⟨hname, hnumber, hdot, hsymbol⟩ := hother _ ht
      exact ⟨fun _ => hword, fun h => absurd h hname, by simp [hnumber, hdot],
        fun h => absurd h hnumber, fun h => absurd h hnumber,
        fun hmem => absurd rfl (hsymbol _ hmem)⟩
  · obtain rfl : t = .string := ht
    exact ⟨by simp [words], by simp, by simp, by simp, by simp, by simp [symbols]⟩
  · have hmem := mem_of_spelled? hs
    have hother : ∀ p ∈ symbols, p.1 ≠ .name ∧ p.1 ≠ .number ∧ (∀ q ∈ words, q.1 ≠ p.1) ∧
        (p.1 = .dot → p.2 = ['.']) := by decide
    obtain ⟨hname, hnumber, hwords, hdot⟩ := hother _ hmem
    refine ⟨?_, fun h => absurd h hname, ?_, fun h => absurd h hnumber,
      fun h => absurd h hnumber, fun _ => symbol_alike hs hne ha⟩
    · rintro (h | h)
      · exact absurd h hname
      · exact absurd rfl (hwords _ h)
    · rintro (h | ⟨rfl, hallowed⟩) c hc
      · exact absurd h hnumber
      · obtain rfl : w = ['.'] := hdot rfl
        obtain ⟨r, rfl⟩ := List.head?_eq_some_iff.1 (ha.head.symm.trans hc)
        by_contra hdigit
        have hdigit : c.isDigit := by simpa using hdigit
        have hnone := hn hallowed
        rw [List.singleton_append, number?_of_dot (by rfl), if_neg (by simp [hdigit])] at hnone
        cases hnone

/-! ### Tokens of a reading -/

/-- What follows a token when the text behind it is changed: a gap, the same token as before
directly behind it, or all that followed before. -/
inductive Resembles (allowed : Terminal → Bool) (rest rest' : List Char) : Prop
  | gap {c : Char} {more : List Char} (hc : gapNext false c ≠ none) (h : rest' = c :: more)
  | token {cut : Cut} {more : List Char} (hscan : scan? allowed rest = some cut)
      (h : rest' = cut.text ++ more)
  | same (h : rest' = rest)

/-- Whether the gap in front of a token is kept, as it is inside the value of an entry. -/
def Stage.keepsGap : Stage → Terminal → Bool
  | .value _ pieces c _, t => !pieces.isEmpty && (c.next? t).isSome
  | _, _ => false

/-- A step depends on the gap exactly where the gap is kept. -/
theorem Reader.step_gap_iff {r r' : Reader} {gap : List Char} {token : Token}
    (h : r.step gap token = some r') :
    r.stage.keepsGap token.terminal = false ↔ ∀ gap', r.step gap' token = some r' := by
  obtain ⟨done, stage⟩ := r
  obtain ⟨terminal, text, location⟩ := token
  cases stage with
  | value property pieces c s =>
    simp only [Reader.step] at h ⊢
    cases hnext : c.next? terminal with
    | none =>
      simp only [hnext] at h ⊢
      exact ⟨fun _ _ => h, fun _ => by rw [Stage.keepsGap, hnext]; exact Bool.and_false _⟩
    | some c' =>
      rw [hnext] at h
      simp only [← h, Stage.keepsGap, hnext, Reader.extend]
      cases pieces with
      | nil => exact ⟨fun _ _ => rfl, fun _ => rfl⟩
      | cons piece pieces =>
        refine ⟨fun hkeeps => by simp at hkeeps, fun hall => ?_⟩
        -- a gap with one blank more makes another piece
        have hother := hall (' ' :: gap)
        simp at hother
  | _ => cases terminal <;> exact ⟨fun _ _ => h, fun _ => rfl⟩

/-- Only string literals start with a quote. -/
theorem eq_string_of_matches {c : Char} {r : List Char} (h : t.Matches (c :: r))
    (hq : isQuote c) : t = .string := by
  have hspelled : c :: r ∈ t.spellings → isQuote c = false := by
    have hall : ∀ w ∈ t.spellings, w.head?.any isQuote = false := by cases t <;> decide
    exact hall (c :: r)
  cases t with
  | string => rfl
  | name =>
    obtain ⟨_, _, heq, hstart, -⟩ := h
    cases heq
    rcases eq_of_isQuote hq with rfl | rfl <;> cases hstart
  | number =>
    obtain ⟨_, _, heq, hstart⟩ := IsNumber.exists_cons h
    cases heq
    rcases eq_of_isQuote hq with rfl | rfl <;> revert hstart <;> decide
  | fstring =>
    obtain ⟨_, _, _, hf, -, -, heq⟩ := h
    cases heq
    rcases hf with rfl | rfl <;> cases hq
  | _ =>
    rw [hspelled h] at hq
    cases hq

theorem alike_of_matches (h : t.Matches w) (hne : w ≠ []) (a b : List Char) :
    Alike (w ++ a) (w ++ b) := by
  obtain ⟨c, r, rfl⟩ := List.exists_cons_of_ne_nil hne
  refine ⟨rfl, fun hnone => ?_⟩
  by_cases hq : isQuote c
  · obtain rfl := eq_string_of_matches h hq
    obtain ⟨q, body, hquote, hbody, heq⟩ := h
    rw [heq, List.cons_append, List.append_assoc, List.singleton_append,
      string?_literal hquote hbody] at hnone
    cases hnone
  · rw [List.cons_append, string?_cons_of_ne (by simpa using hq)]

/-- Neither a digit nor an exponent starts where the text of an operator does. -/
theorem exponent_of_spelling (h : w ∈ t.spellings) (more : List Char) :
    (∀ c, (w ++ more).head? = some c → c.isDigit = false) ∧
      exponent (w ++ more) = ([], w ++ more) := by
  have hall : ∀ w ∈ t.spellings, w ≠ [] ∧ w.head?.any Char.isDigit = false ∧
      (w.head?.any (fun c => c == 'e' || c == 'E') → w = ['e', 'l', 's', 'e']) := by
    cases t <;> decide
  obtain ⟨hne, hdigit, hpower⟩ := hall w h
  obtain ⟨c, r, rfl⟩ := List.exists_cons_of_ne_nil hne
  refine ⟨fun d hd => ?_, ?_⟩
  · cases hd
    exact hdigit
  · by_cases hc : (c == 'e' || c == 'E') = true
    · rw [hpower hc]
      simp [exponent, exponent.take]
    · exact exponent_of_ne (by simpa using hc) _

theorem place_of_next?_number {c c' : Cursor} (h : c.next? .number = some c') :
    c'.place = .operator := by
  obtain ⟨place, brackets⟩ := c
  cases place <;> simp only [Cursor.next?, Cursor.operand?, Cursor.operator?] at h <;> cases h
  all_goals rfl

/-- Behind a number only operators are looked for, and brackets. -/
theorem spelling_behind_number {r r' : Reader} {gap : List Char} {number : Token}
    (hstep : r.step gap number = some r') (hnumber : number.terminal = .number)
    (hallows : r'.stage.allows t) (h : t.Matches w) : w ∈ t.spellings := by
  obtain ⟨done, stage⟩ := r
  obtain ⟨terminal, text, location⟩ := number
  cases hnumber
  cases stage
  case value property pieces c s =>
    rcases step_value_cases hstep with ⟨c', hnext, rfl⟩ | ⟨-, -, ⟨hcomma, -⟩ | ⟨hbrace, -⟩⟩
    · simp only [Stage.allows, place_of_next?_number hnext] at hallows
      cases t
      case name | number | string | fstring => cases hallows
      all_goals exact h
    · cases hcomma
    · cases hbrace
  all_goals cases hstep

/-- A token that is taken is taken again in front of a rest that resembles what followed it. -/
theorem scan?_resembling {r r' : Reader} {cs gap : List Char} {cut : Cut} {location : Location}
    (hscan : scan? r.stage.allows cs = some cut)
    (hstep : r.step gap ⟨cut.terminal, cut.text, location⟩ = some r')
    (hrest : Resembles r'.stage.allows cut.rest rest') :
    scan? r.stage.allows (cut.text ++ rest') = some ⟨cut.terminal, cut.text, rest'⟩ := by
  obtain ⟨hallowed, hmatches⟩ := matches_of_scan? hscan
  have hname := ne_word_of_scan? hscan
  rw [← (scan?_of hscan).append] at hscan
  cases hrest with
  | gap hc h =>
    rw [h]
    exact scan?_of_bounded hallowed hmatches hname (bounded_gap hc hmatches _)
  | @token next more hnext h =>
    obtain ⟨hallows, hmatches'⟩ := matches_of_scan? hnext
    obtain ⟨happend, hne⟩ := scan?_of hnext
    have halike := alike_of_matches hmatches' hne next.rest more
    rw [happend, ← h] at halike
    refine scan?_of_bounded hallowed hmatches hname (bounded_alike hscan halike fun hnumber => ?_)
    rw [h]
    exact exponent_of_spelling (spelling_behind_number hstep hnumber hallows hmatches') more
  | same h => rw [h, hscan]

/-- A text that is read to its end is empty, starts with a gap or starts with a token. -/
theorem start_of_readFrom {r : Reader} {last here : Location} {cs : List Char}
    {blocks : List Block} (h : readFrom r last here cs = .ok blocks) :
    cs = [] ∨ (∃ c more, cs = c :: more ∧ gapNext false c ≠ none) ∨
      ∃ cut, scan? r.stage.allows cs = some cut := by
  cases cs with
  | nil => exact .inl rfl
  | cons d cs =>
    by_cases hd : gapNext false d = none
    · have hsplit := splitGap_cons_of_none hd cs
      rcases readFrom_ok_cases h with ⟨hend, -⟩ | ⟨gap, c, rest, cut, r', hgap, hscan, -⟩
      · rw [hsplit] at hend
        cases hend
      · rw [hsplit] at hgap
        cases hgap
        exact .inr (.inr ⟨cut, hscan⟩)
    · exact .inr (.inl ⟨d, cs, rfl, hd⟩)

end ScopedCss.Source

import Mathlib.Data.List.Find
import ScopedCss.Source.Reader

/-! What each scanner finds: numbers by their first characters, quoted literals by what stands
between the quotes, and gaps by what they go on with. Scanning tries them one after another. -/
namespace ScopedCss.Source

variable {u : List Char}

/-! ### Numbers and spellings -/

theorem exponent_unsigned (e : Char) {r : List Char} (hp : r.head? ≠ some '+')
    (hm : r.head? ≠ some '-') : exponent (e :: r) = exponent.take (e :: r) e [] r := by
  rw [exponent.eq_3]
  · rintro r' rfl
    exact hp rfl
  · rintro r' rfl
    exact hm rfl

theorem exponent_of_ne {e : Char} (he : (e == 'e' || e == 'E') = false) (r : List Char) :
    exponent (e :: r) = ([], e :: r) := by
  have ht : ∀ cs sign r, exponent.take cs e sign r = ([], cs) := by
    intro cs sign r
    simp [exponent.take, he]
  unfold exponent
  split
  next h => rw [← (List.cons.inj h).1, ht]
  next h => rw [← (List.cons.inj h).1, ht]
  next h => rw [← (List.cons.inj h).1, ht]
  next h => cases h

theorem number?_of_dot {cs r : List Char} (h : cs.dropWhile Char.isDigit = '.' :: r) :
    number? cs =
      if cs.takeWhile Char.isDigit = [] ∧ r.takeWhile Char.isDigit = [] then none
      else some ⟨.number,
        cs.takeWhile Char.isDigit ++
          '.' :: (r.takeWhile Char.isDigit ++ (exponent (r.dropWhile Char.isDigit)).1),
        (exponent (r.dropWhile Char.isDigit)).2⟩ := by
  simp only [number?, h]

theorem number?_of_whole {cs : List Char} (h : (cs.dropWhile Char.isDigit).head? ≠ some '.') :
    number? cs =
      if cs.takeWhile Char.isDigit = [] then none
      else some ⟨.number, cs.takeWhile Char.isDigit ++ (exponent (cs.dropWhile Char.isDigit)).1,
        (exponent (cs.dropWhile Char.isDigit)).2⟩ := by
  unfold number?
  split
  next r hr =>
    rw [hr] at h
    exact absurd rfl h
  next => rfl

theorem isPrefixOf_of_notMem {w : List Char} {c : Char} (hc : c ∉ w) (u more : List Char) :
    w.isPrefixOf (u ++ c :: more) = w.isPrefixOf u := by
  induction w generalizing u with
  | nil => simp
  | cons d w ih =>
    obtain ⟨hne, hw⟩ := not_or.1 (List.mem_cons.not.1 hc)
    cases u with
    | nil => simp [List.isPrefixOf, Ne.symm hne]
    | cons e u => simp [List.isPrefixOf, ih hw]

/-! ### Quoted literals -/

/-- What stands between two quotes: characters other than the quote, and any characters behind a
backslash, all of them on one line. -/
inductive Inside (quote : Char) : List Char → Prop
  | nil : Inside quote []
  | char {c : Char} {r : List Char} (hq : c ≠ quote) (hb : c ≠ '\x5c') (hl : c ≠ '\n')
      (hr : Inside quote r) : Inside quote (c :: r)
  | escape {c : Char} {r : List Char} (hl : c ≠ '\n') (hr : Inside quote r) :
      Inside quote ('\x5c' :: c :: r)

theorem closing_cons {c : Char} (hb : c ≠ '\x5c') (quote : Char) (r : List Char) :
    closing quote (c :: r) =
      if c = quote then some ([c], r)
      else if c = '\n' ∨ c = '\x5c' then none
      else (closing quote r).map fun p => (c :: p.1, p.2) :=
  closing.eq_3 quote c r fun _ _ h => absurd h hb

/-- A closing quote is found behind what can stand between quotes. -/
theorem closing_inside {quote : Char} (hb : quote ≠ '\x5c') {body : List Char}
    (h : Inside quote body) (rest : List Char) :
    closing quote (body ++ quote :: rest) = some (body ++ [quote], rest) := by
  induction h with
  | nil => rw [List.nil_append, closing_cons hb, if_pos rfl, List.nil_append]
  | char hq hb hl _ ih =>
    rw [List.cons_append, closing_cons hb, if_neg hq, if_neg (by simp [hl, hb]), ih]
    rfl
  | escape hl _ ih => simp [closing, hl, ih]

theorem inside_of_closing {quote : Char} {cs : List Char} {p : List Char × List Char}
    (h : closing quote cs = some p) :
    ∃ body, Inside quote body ∧ p.1 = body ++ [quote] ∧ cs = body ++ quote :: p.2 := by
  fun_induction closing quote cs generalizing p with
  | case1 => cases h
  | case2 => cases h
  | case3 c r hl ih =>
    obtain ⟨q, hq, rfl⟩ := Option.map_eq_some_iff.1 h
    obtain ⟨body, hbody, hq₁, rfl⟩ := ih hq
    exact ⟨_, .escape hl hbody, by simp [hq₁], rfl⟩
  | case4 r _ =>
    cases h
    exact ⟨[], .nil, rfl, rfl⟩
  | case5 => cases h
  | case6 c r _ hq hn ih =>
    obtain ⟨hl, hb⟩ := not_or.1 hn
    obtain ⟨q, hcl, rfl⟩ := Option.map_eq_some_iff.1 h
    obtain ⟨body, hbody, hq₁, rfl⟩ := ih hcl
    exact ⟨_, .char hq hb hl hbody, by simp [hq₁], rfl⟩

theorem eq_of_isQuote {q : Char} (hq : isQuote q) : q = '\x22' ∨ q = '\x27' := by
  simpa [isQuote] using hq

theorem ne_backslash_of_isQuote {q : Char} (hq : isQuote q) : q ≠ '\x5c' := by
  rcases eq_of_isQuote hq with rfl | rfl <;> decide

theorem string?_literal {quote : Char} (hq : isQuote quote) {body : List Char}
    (h : Inside quote body) (rest : List Char) :
    string? (quote :: (body ++ quote :: rest)) =
      some ⟨.string, quote :: (body ++ [quote]), rest⟩ := by
  rw [string?, if_pos hq, closing_inside (ne_backslash_of_isQuote hq) h]
  rfl

/-- A string literal is a quote, what stands inside and the quote again. -/
theorem literal_of_string? {cs : List Char} {cut : Cut} (h : string? cs = some cut) :
    ∃ quote body, isQuote quote ∧ Inside quote body ∧
      cut = ⟨.string, quote :: (body ++ [quote]), cut.rest⟩ ∧
      cs = quote :: (body ++ quote :: cut.rest) := by
  cases cs with
  | nil => cases h
  | cons quote r =>
    rw [string?, Option.ite_none_right_eq_some, Option.map_eq_some_iff] at h
    obtain ⟨hq, p, hp, rfl⟩ := h
    obtain ⟨body, hbody, htext, rfl⟩ := inside_of_closing hp
    exact ⟨quote, body, hq, hbody, by rw [htext], rfl⟩

/-! ### All terminals -/

theorem scan?_eq_or (allowed : Terminal → Bool) (cs : List Char) :
    scan? allowed cs =
      (onlyIf (allowed .fstring) fstring? cs).or ((onlyIf (allowed .number) number? cs).or
        ((word? allowed cs).or ((onlyIf (allowed .string) string? cs).or
          (spelled? symbols allowed cs)))) := by
  simp only [scan?, scanners, List.findSome?_cons, List.findSome?_nil]
  cases onlyIf (allowed .fstring) fstring? cs with
  | some => rfl
  | none =>
    cases onlyIf (allowed .number) number? cs with
    | some => rfl
    | none =>
      cases word? allowed cs with
      | some => rfl
      | none =>
        cases onlyIf (allowed .string) string? cs with
        | some => rfl
        | none => cases spelled? symbols allowed cs <;> rfl

theorem onlyIf_eq_some {permitted : Bool} {scanner : List Char → Option Cut} {cs : List Char}
    {cut : Cut} : onlyIf permitted scanner cs = some cut ↔ permitted ∧ scanner cs = some cut :=
  Option.ite_none_right_eq_some

/-! ### Gaps -/

/-- Whether a gap goes on with a character, and whether it is then in a comment. -/
def gapNext (inComment : Bool) (c : Char) : Option Bool :=
  if inComment && c != '\n' then some true
  else if isSpace c then some false
  else if c == '#' then some true
  else none

theorem splitGap_cons_of_some {b b' : Bool} {c : Char} (h : gapNext b c = some b')
    (r : List Char) : splitGap b (c :: r) = (c :: (splitGap b' r).1, (splitGap b' r).2) := by
  unfold gapNext at h
  rw [splitGap]
  split_ifs at h ⊢ <;> cases h <;> rfl

theorem splitGap_cons_of_none {b : Bool} {c : Char} (h : gapNext b c = none) (r : List Char) :
    splitGap b (c :: r) = ([], c :: r) := by
  unfold gapNext at h
  rw [splitGap]
  split_ifs at h ⊢
  rfl

theorem splitGap_append_of_token {b : Bool} (h : (splitGap b u).2 ≠ []) (more : List Char) :
    splitGap b (u ++ more) = ((splitGap b u).1, (splitGap b u).2 ++ more) := by
  induction u generalizing b with
  | nil => exact absurd rfl h
  | cons c u ih =>
    rw [List.cons_append]
    cases hc : gapNext b c with
    | none => rw [splitGap_cons_of_none hc, splitGap_cons_of_none hc, List.cons_append]
    | some b' =>
      rw [splitGap_cons_of_some hc] at h ⊢
      rw [splitGap_cons_of_some hc, ih h]

/-- Where a text is only a gap the next text goes on in it, maybe inside a comment. -/
theorem splitGap_append_of_gap {b : Bool} (h : (splitGap b u).2 = []) :
    ∃ inComment, ∀ more, splitGap b (u ++ more) =
      (u ++ (splitGap inComment more).1, (splitGap inComment more).2) := by
  induction u generalizing b with
  | nil => exact ⟨b, fun _ => rfl⟩
  | cons c u ih =>
    cases hc : gapNext b c with
    | none =>
      rw [splitGap_cons_of_none hc] at h
      cases h
    | some b' =>
      rw [splitGap_cons_of_some hc] at h
      obtain ⟨inComment, hsplit⟩ := ih h
      refine ⟨inComment, fun more => ?_⟩
      rw [List.cons_append, splitGap_cons_of_some hc, hsplit, List.cons_append]

end ScopedCss.Source

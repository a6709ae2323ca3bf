import Mathlib.Data.List.TakeWhile
import ScopedCss.Proofs.Scanning

/-! The texts of terminals. What is cut off a text is always a text of the terminal it is cut off
as, and a text of an allowed terminal is cut off whole, unless it is a word that is looked for as
another terminal at the same place. -/
namespace ScopedCss.Source

open Text (isWordChar isWordStart)

/-- A letter or an underscore, then letters, digits and underscores. -/
def IsName (w : List Char) : Prop := ∃ c r, w = c :: r ∧ isWordStart c ∧ ∀ d ∈ r, isWordChar d

instance : DecidablePred IsName
  | [] => .isFalse fun ⟨_, _, h, _⟩ => nomatch h
  | c :: r => decidable_of_iff (isWordStart c ∧ r.all isWordChar)
    ⟨fun ⟨hc, hr⟩ => ⟨c, r, rfl, hc, List.all_eq_true.1 hr⟩,
      fun ⟨_, _, heq, hc, hr⟩ => by cases heq; exact ⟨hc, List.all_eq_true.2 hr⟩⟩

theorem IsName.isWordChar {w : List Char} (h : IsName w) : ∀ c ∈ w, isWordChar c := by
  obtain ⟨c, r, rfl, hc, hr⟩ := h
  refine List.forall_mem_cons.2 ⟨?_, hr⟩
  simp only [isWordStart, Bool.or_eq_true] at hc
  simp only [Text.isWordChar, Char.isAlphanum, Bool.or_eq_true]
  exact hc.imp_left .inl

/-- Nothing, or the letter e, maybe a sign, and digits. -/
def IsExponent (w : List Char) : Prop :=
  w = [] ∨ ∃ e sign digits, w = e :: (sign ++ digits) ∧ (e = 'e' ∨ e = 'E') ∧
    sign ∈ [[], ['+'], ['-']] ∧ digits ≠ [] ∧ ∀ d ∈ digits, d.isDigit

/-- Digits before or behind a point that may be missing, and an exponent. -/
def IsNumber (w : List Char) : Prop :=
  ∃ whole power, (∀ d ∈ whole, d.isDigit) ∧ IsExponent power ∧
    (whole ≠ [] ∧ w = whole ++ power ∨
      ∃ fraction, (∀ d ∈ fraction, d.isDigit) ∧ (whole ≠ [] ∨ fraction ≠ []) ∧
        w = whole ++ '.' :: (fraction ++ power))

/-- The texts of the terminals that have only a few. -/
def Terminal.spellings : Terminal → List (List Char)
  | .fstring | .number | .name | .string => []
  | .elseWord => [['e', 'l', 's', 'e']]
  | .andWord => [['a', 'n', 'd']]
  | .notWord => [['n', 'o', 't']]
  | .ifWord => [['i', 'f']]
  | .orWord => [['o', 'r']]
  | .compare => [['=', '='], ['!', '='], ['<', '='], ['>', '='], ['<'], ['>']]
  | .arrow => [['-', '>']]
  | .floorDiv => [['/', '/']]
  | .colon => [[':']]
  | .comma => [[',']]
  | .dot => [['.']]
  | .equals => [['=']]
  | .openBrace => [['{']]
  | .openParen => [['(']]
  | .openBracket => [['[']]
  | .minus => [['-']]
  | .percent => [['%']]
  | .plus => [['+']]
  | .closeBrace => [['}']]
  | .closeParen => [[')']]
  | .closeBracket => [[']']]
  | .slash => [['/']]
  | .star => [['*']]

/-- The texts of a terminal. -/
def Terminal.Matches (t : Terminal) (w : List Char) : Prop :=
  match t with
  | .name => IsName w
  | .number => IsNumber w
  | .string => ∃ q body, isQuote q ∧ Inside q body ∧ w = q :: (body ++ [q])
  | .fstring =>
    ∃ f q body, (f = 'f' ∨ f = 'F') ∧ isQuote q ∧ Inside q body ∧ w = f :: q :: (body ++ [q])
  | t => w ∈ t.spellings

theorem matches_of_spelling {t : Terminal} {w : List Char} (h : w ∈ t.spellings) :
    t.Matches w := by
  cases t <;> first | exact h | cases h

/-- The tables that are searched hold the spellings. -/
theorem spelling_of_mem : ∀ p ∈ words ++ symbols, p.2 ∈ p.1.spellings := by decide

variable {allowed : Terminal → Bool} {cs w : List Char} {cut : Cut}

/-! ### What is cut off -/

theorem isExponent_exponent (cs : List Char) : IsExponent (exponent cs).1 := by
  have htake : ∀ cs e sign r, sign ∈ [[], ['+'], ['-']] →
      IsExponent (exponent.take cs e sign r).1 := by
    intro cs e sign r hsign
    unfold exponent.take
    split_ifs with h
    · simp only [Bool.and_eq_true, Bool.or_eq_true, beq_iff_eq, Bool.not_eq_true',
        List.isEmpty_eq_false_iff] at h
      exact .inr ⟨e, sign, _, rfl, h.1, hsign, h.2, fun d hd => List.mem_takeWhile_imp hd⟩
    · exact .inl rfl
  unfold exponent
  split
  · exact htake _ _ _ _ (by simp)
  · exact htake _ _ _ _ (by simp)
  · exact htake _ _ _ _ (by simp)
  · exact .inl rfl

theorem isNumber_of_number? (h : number? cs = some cut) :
    cut.terminal = .number ∧ IsNumber cut.text := by
  have hwhole : ∀ d ∈ cs.takeWhile Char.isDigit, d.isDigit := fun d hd => List.mem_takeWhile_imp hd
  by_cases hdot : (cs.dropWhile Char.isDigit).head? = some '.'
  · obtain ⟨r, hr⟩ := List.head?_eq_some_iff.1 hdot
    rw [number?_of_dot hr, Option.ite_none_left_eq_some, Option.some.injEq, not_and_or] at h
    obtain ⟨hne, rfl⟩ := h
    exact ⟨rfl, _, _, hwhole, isExponent_exponent _,
      .inr ⟨_, fun d hd => List.mem_takeWhile_imp hd, hne, rfl⟩⟩
  · rw [number?_of_whole hdot, Option.ite_none_left_eq_some, Option.some.injEq] at h
    obtain ⟨hne, rfl⟩ := h
    exact ⟨rfl, _, _, hwhole, isExponent_exponent _, .inl ⟨hne, rfl⟩⟩

theorem spelling_of_spelled? {table : List (Terminal × List Char)}
    (ht : ∀ p ∈ table, p ∈ words ++ symbols) (h : spelled? table allowed cs = some cut) :
    allowed cut.terminal ∧ cut.text ∈ cut.terminal.spellings := by
  obtain ⟨p, hp, rfl⟩ := Option.map_eq_some_iff.1 h
  have hfound := List.find?_some hp
  rw [Bool.and_eq_true] at hfound
  exact ⟨hfound.1, spelling_of_mem p (ht p (List.mem_of_find?_eq_some hp))⟩

theorem matches_of_word? (h : word? allowed cs = some cut) :
    allowed cut.terminal ∧ cut.terminal.Matches cut.text := by
  unfold word? at h
  split_ifs at h with hname
  · split at h
    next c r =>
      rw [Option.ite_none_right_eq_some, Option.some.injEq] at h
      obtain ⟨hstart, rfl⟩ := h
      cases hfind : words.find? fun p => allowed p.1 && p.2 == c :: r.takeWhile isWordChar with
      | none => exact ⟨hname, c, _, rfl, hstart, fun d hd => List.mem_takeWhile_imp hd⟩
      | some p =>
        have hfound := List.find?_some hfind
        rw [Bool.and_eq_true, beq_iff_eq] at hfound
        have hmem := List.mem_of_find?_eq_some hfind
        refine ⟨hfound.1, matches_of_spelling ?_⟩
        rw [← hfound.2]
        exact spelling_of_mem p (List.mem_append_left _ hmem)
    next => cases h
  · have hspelled := spelling_of_spelled? (fun p hp => List.mem_append_left _ hp) h
    exact ⟨hspelled.1, matches_of_spelling hspelled.2⟩

theorem matches_of_fstring? (h : fstring? cs = some cut) :
    cut.terminal = .fstring ∧ Terminal.fstring.Matches cut.text := by
  cases cs with
  | nil => cases h
  | cons f r =>
    rw [fstring?, Option.ite_none_right_eq_some, Option.map_eq_some_iff] at h
    obtain ⟨hf, s, hs, rfl⟩ := h
    obtain ⟨q, body, hq, hbody, hcut, -⟩ := literal_of_string? hs
    rw [hcut]
    exact ⟨rfl, f, q, body, hf, hq, hbody, rfl⟩

/-- Only allowed terminals are cut off, each with one of its texts. -/
theorem matches_of_scan? (h : scan? allowed cs = some cut) :
    allowed cut.terminal ∧ cut.terminal.Matches cut.text := by
  rw [scan?_eq_or] at h
  simp only [Option.or_eq_some_iff] at h
  rcases h with h | ⟨-, h | ⟨-, h | ⟨-, h | ⟨-, h⟩⟩⟩⟩
  · obtain ⟨hallowed, hf⟩ := onlyIf_eq_some.1 h
    obtain ⟨hterminal, hmatches⟩ := matches_of_fstring? hf
    rw [hterminal]
    exact ⟨hallowed, hmatches⟩
  · obtain ⟨hallowed, hn⟩ := onlyIf_eq_some.1 h
    obtain ⟨hterminal, hnumber⟩ := isNumber_of_number? hn
    rw [hterminal]
    exact ⟨hallowed, hnumber⟩
  · exact matches_of_word? h
  · obtain ⟨hallowed, hs⟩ := onlyIf_eq_some.1 h
    obtain ⟨q, body, hq, hbody, hcut, -⟩ := literal_of_string? hs
    rw [hcut]
    exact ⟨hallowed, q, body, hq, hbody, rfl⟩
  · have hspelled := spelling_of_spelled? (fun p hp => List.mem_append_right _ hp) h
    exact ⟨hspelled.1, matches_of_spelling hspelled.2⟩

/-! ### Texts that are cut off whole -/

/-- A longest run of characters is split off. -/
theorem split_run {p : Char → Bool} {run r : List Char} (hrun : ∀ d ∈ run, p d)
    (hr : ∀ c, r.head? = some c → p c = false) :
    (run ++ r).takeWhile p = run ∧ (run ++ r).dropWhile p = r := by
  rw [List.takeWhile_append_of_pos hrun, List.dropWhile_append_of_pos hrun]
  cases r with
  | nil => simp
  | cons c r => simp [hr c rfl]

section Number
variable {rest : List Char} (hdigit : ∀ c, rest.head? = some c → c.isDigit = false)
  (hpower : exponent rest = ([], rest))
include hdigit

theorem exponent_take_digits {e : Char} (he : e = 'e' ∨ e = 'E') {digits : List Char}
    (hne : digits ≠ []) (hd : ∀ d ∈ digits, d.isDigit) (cs sign : List Char) :
    exponent.take cs e sign (digits ++ rest) = (e :: (sign ++ digits), rest) := by
  obtain ⟨htake, hdrop⟩ := split_run hd hdigit
  rw [exponent.take, htake, hdrop, if_pos]
  rcases he with rfl | rfl <;> simpa using hne

include hpower

theorem exponent_of_isExponent (h : IsExponent w) : exponent (w ++ rest) = (w, rest) := by
  rcases h with rfl | ⟨e, sign, digits, rfl, he, hsign, hne, hd⟩
  · exact hpower
  · have htake := exponent_take_digits hdigit he hne hd (e :: (sign ++ digits ++ rest))
    simp only [List.mem_cons, List.not_mem_nil, or_false] at hsign
    rcases hsign with rfl | rfl | rfl
    · have hhead : ∀ c, (digits ++ rest).head? = some c → c.isDigit := by
        obtain ⟨d, ds, rfl⟩ := List.exists_cons_of_ne_nil hne
        rintro _ ⟨⟩
        exact hd d List.mem_cons_self
      exact (exponent_unsigned e (fun hc => absurd (hhead _ hc) (by decide))
        (fun hc => absurd (hhead _ hc) (by decide))).trans (htake [])
    · exact htake ['+']
    · exact htake ['-']

/-- A number is taken whole if neither a digit nor an exponent follows it, nor a point if it has
only digits itself. -/
theorem number?_of_isNumber (h : IsNumber w)
    (hpoint : rest.head? = some '.' → ∃ d ∈ w, d.isDigit = false) :
    number? (w ++ rest) = some ⟨.number, w, rest⟩ := by
  -- An exponent starts with no digit and no point.
  have hhead {power : List Char} (hp : IsExponent power) {c : Char}
      (hc : (power ++ rest).head? = some c) :
      c.isDigit = false ∧ (c = '.' → power = [] ∧ rest.head? = some c) := by
    rcases hp with rfl | ⟨e, sign, digits, rfl, he, -⟩
    · exact ⟨hdigit c hc, fun _ => ⟨rfl, hc⟩⟩
    · cases hc
      have hother : c.isDigit = false ∧ c ≠ '.' := by rcases he with rfl | rfl <;> decide
      exact ⟨hother.1, fun h => absurd h hother.2⟩
  obtain ⟨whole, power, hwhole, hp, ⟨hne, rfl⟩ | ⟨fraction, hfraction, hne, rfl⟩⟩ := h
  · obtain ⟨htake, hdrop⟩ := split_run hwhole fun c hc => (hhead hp hc).1
    have hdot : ((whole ++ (power ++ rest)).dropWhile Char.isDigit).head? ≠ some '.' := by
      rw [hdrop]
      intro hc
      obtain ⟨rfl, hc⟩ := (hhead hp hc).2 rfl
      obtain ⟨d, hd, hnot⟩ := hpoint hc
      rw [List.append_nil] at hd
      rw [hwhole d hd] at hnot
      cases hnot
    rw [List.append_assoc, number?_of_whole hdot, htake, hdrop,
      exponent_of_isExponent hdigit hpower hp, if_neg hne]
  · obtain ⟨htake, hdrop⟩ := split_run hwhole (r := '.' :: (fraction ++ (power ++ rest)))
      fun c hc => by cases hc; rfl
    obtain ⟨hftake, hfdrop⟩ := split_run hfraction fun c hc => (hhead hp hc).1
    have happend : whole ++ '.' :: (fraction ++ power) ++ rest =
        whole ++ '.' :: (fraction ++ (power ++ rest)) := by simp
    rw [happend, number?_of_dot hdrop, htake, hftake, hfdrop,
      exponent_of_isExponent hdigit hpower hp, if_neg (not_and_or.2 hne)]

end Number

/-! Which scanners a first character rules out. -/

theorem fstring?_cons_of_ne {c : Char} (h : c ≠ 'f' ∧ c ≠ 'F') (r : List Char) :
    fstring? (c :: r) = none := by
  rw [fstring?, if_neg (not_or.2 h)]

theorem IsNumber.exists_cons (h : IsNumber w) : ∃ c r, w = c :: r ∧ (c.isDigit ∨ c = '.') := by
  obtain ⟨whole, power, hwhole, -, ⟨hne, rfl⟩ | ⟨fraction, -, -, rfl⟩⟩ := h
  · obtain ⟨c, r, rfl⟩ := List.exists_cons_of_ne_nil hne
    exact ⟨c, _, rfl, .inl (hwhole c List.mem_cons_self)⟩
  · cases whole with
    | nil => exact ⟨'.', _, rfl, .inr rfl⟩
    | cons c r => exact ⟨c, _, rfl, .inl (hwhole c List.mem_cons_self)⟩

theorem fstring?_of_isNumber (h : IsNumber w) (rest : List Char) : fstring? (w ++ rest) = none := by
  obtain ⟨c, r, rfl, hc⟩ := h.exists_cons
  refine fstring?_cons_of_ne ⟨?_, ?_⟩ (r ++ rest) <;> (rintro rfl; revert hc; decide)

theorem number?_cons_of_ne {c : Char} (hd : c.isDigit = false) (hdot : c ≠ '.') (r : List Char) :
    number? (c :: r) = none := by
  have hdrop : (c :: r).dropWhile Char.isDigit = c :: r := by simp [hd]
  rw [number?_of_whole (by rw [hdrop]; simpa using hdot)]
  simp [hd]

/-- A point is no number if no digit follows it. -/
theorem number?_dot {r : List Char} (hr : ∀ c, r.head? = some c → c.isDigit = false) :
    number? ('.' :: r) = none := by
  have hnone : ∀ d ∈ ([] : List Char), d.isDigit := by simp
  have htake : r.takeWhile Char.isDigit = [] := (split_run hnone hr).1
  rw [number?_of_dot (by rfl : ('.' :: r).dropWhile Char.isDigit = '.' :: r), if_pos ⟨rfl, htake⟩]

theorem word?_cons_of_ne {c : Char} (h : isWordStart c = false) (allowed : Terminal → Bool)
    (r : List Char) : word? allowed (c :: r) = none := by
  unfold word?
  by_cases hname : allowed .name
  · simp [hname, h]
  · rw [if_neg hname, spelled?, Option.map_eq_none_iff, List.find?_eq_none]
    intro p hp hfound
    have hstart : ∀ p ∈ words, p.2.head?.any isWordStart := by decide
    rw [Bool.and_eq_true, List.isPrefixOf_iff_prefix] at hfound
    obtain ⟨more, hmore⟩ := hfound.2
    have hp := hstart p hp
    cases hw : p.2 with
    | nil =>
      rw [hw] at hp
      cases hp
    | cons d w =>
      rw [hw, List.cons_append] at hmore
      rw [hw, List.head?_cons, Option.any_some, (List.cons.inj hmore).1, h] at hp
      cases hp

/-- A text of a terminal that starts as no name, number or literal is one of few. -/
theorem mem_spellings_of_matches {t : Terminal} {c : Char} {r : List Char}
    (h : t.Matches (c :: r)) (hw : isWordStart c = false) (hd : c.isDigit = false) (hdot : c ≠ '.')
    (hq : isQuote c = false) : (c :: r) ∈ t.spellings := by
  cases t with
  | name =>
    obtain ⟨d, s, heq, hstart, -⟩ := h
    cases heq
    rw [hw] at hstart
    cases hstart
  | number =>
    obtain ⟨e, s, heq, he | he⟩ := IsNumber.exists_cons h <;> cases heq
    · rw [hd] at he
      cases he
    · exact absurd he hdot
  | string =>
    obtain ⟨q, body, hquote, -, heq⟩ := h
    cases heq
    rw [hq] at hquote
    cases hquote
  | fstring =>
    obtain ⟨f, q, body, hf, -, -, heq⟩ := h
    cases heq
    rcases hf with rfl | rfl <;> cases hw
  | _ => exact h

/-! Where names are allowed a whole word is taken. -/

theorem word?_of_isName (ht : allowed .name) (h : IsName w) {rest : List Char}
    (hrest : ∀ c, rest.head? = some c → isWordChar c = false) :
    word? allowed (w ++ rest) =
      some ⟨((words.find? fun p => allowed p.1 && p.2 == w).map (·.1)).getD .name, w, rest⟩ := by
  obtain ⟨c, r, rfl, hstart, hr⟩ := h
  obtain ⟨htake, hdrop⟩ := split_run hr hrest
  unfold word?
  simp only [ht, if_true, List.cons_append, hstart, htake, hdrop]

theorem not_isQuote_of_isWordChar {c : Char} (h : isWordChar c) : isQuote c = false := by
  rw [← Bool.not_eq_true]
  intro hq
  rcases eq_of_isQuote hq with rfl | rfl <;> revert h <;> decide

theorem string?_cons_of_ne {c : Char} (h : isQuote c = false) (r : List Char) :
    string? (c :: r) = none := by
  rw [string?, h]
  rfl

/-- A name is the front of a literal behind the letter f only if it is that letter. -/
theorem fstring?_of_isName (h : IsName w) {rest : List Char} (hrest : string? rest = none) :
    fstring? (w ++ rest) = none := by
  obtain ⟨c, r, rfl, -, hr⟩ := h
  rw [List.cons_append, fstring?]
  cases r with
  | nil => rw [List.nil_append, hrest]; exact ite_self _
  | cons d r =>
    rw [List.cons_append,
      string?_cons_of_ne (not_isQuote_of_isWordChar (hr d List.mem_cons_self))]
    exact ite_self _

theorem not_isDigit_of_isWordStart {c : Char} (h : isWordStart c) : c.isDigit = false := by
  delta isWordStart Char.isAlpha Char.isUpper Char.isLower at h
  simp only [Bool.or_eq_true, Bool.and_eq_true, decide_eq_true_eq, beq_iff_eq] at h
  rw [← Bool.not_eq_true]
  intro hd
  simp only [Char.isDigit, Bool.and_eq_true, decide_eq_true_eq] at hd
  rcases h with (h | h) | rfl <;> grind

theorem number?_of_isName (h : IsName w) (rest : List Char) : number? (w ++ rest) = none := by
  obtain ⟨c, r, rfl, hstart, -⟩ := h
  refine number?_cons_of_ne (not_isDigit_of_isWordStart hstart) ?_ (r ++ rest)
  rintro rfl
  revert hstart
  decide

/-- A name is taken whole where it is no operator that is looked for, if neither a character of a
name follows it nor what makes it a literal. -/
theorem scan?_of_name (ht : allowed .name) (h : IsName w)
    (hname : ∀ p ∈ words, allowed p.1 → p.2 ≠ w) {rest : List Char}
    (hrest : ∀ c, rest.head? = some c → isWordChar c = false)
    (hliteral : allowed .fstring → fstring? (w ++ rest) = none) :
    scan? allowed (w ++ rest) = some ⟨.name, w, rest⟩ := by
  have hfind : (words.find? fun p => allowed p.1 && p.2 == w) = none := by
    rw [List.find?_eq_none]
    intro p hp hfound
    rw [Bool.and_eq_true, beq_iff_eq] at hfound
    exact hname p hp hfound.1 hfound.2
  have hf : onlyIf (allowed .fstring) fstring? (w ++ rest) = none := by
    unfold onlyIf
    split_ifs with hallowed
    · exact hliteral hallowed
    · rfl
  rw [scan?_eq_or, word?_of_isName ht h hrest, hfind, hf]
  simp [onlyIf, number?_of_isName h]

/-- Where only names are looked for among words and literals, the longest one is taken. -/
theorem scan?_name (ht : allowed .name) (hf : allowed .fstring = false)
    (hwords : ∀ p ∈ words, allowed p.1 = false) (h : IsName w)
    {rest : List Char} (hrest : ∀ c, rest.head? = some c → isWordChar c = false) :
    scan? allowed (w ++ rest) = some ⟨.name, w, rest⟩ := by
  refine scan?_of_name ht h (fun p hp hallowed => ?_) hrest fun hallowed => ?_
  · rw [hwords p hp] at hallowed
    cases hallowed
  · rw [hf] at hallowed
    cases hallowed

/-- In a table where no text is the beginning of a later one, an entry is found by its own text, if
no longer one can be found there. -/
theorem spelled?_of_mem {table : List (Terminal × List Char)} {t : Terminal} {rest : List Char}
    (hp : table.Pairwise fun a b => a.2.isPrefixOf b.2 = false) (h : (t, w) ∈ table)
    (ht : allowed t)
    (hlongest : ∀ p ∈ table, allowed p.1 → p.2.isPrefixOf (w ++ rest) → p.2.isPrefixOf w) :
    spelled? table allowed (w ++ rest) = some ⟨t, w, rest⟩ := by
  have hfind : (table.find? fun p => allowed p.1 && p.2.isPrefixOf (w ++ rest)) = some (t, w) := by
    induction table with
    | nil => cases h
    | cons p table ih =>
      obtain ⟨hfirst, hothers⟩ := List.pairwise_cons.1 hp
      obtain ⟨hown, hlongest⟩ := List.forall_mem_cons.1 hlongest
      rcases List.mem_cons.1 h with rfl | h
      · rw [List.find?_cons_of_pos (by simp [ht])]
      · refine (List.find?_cons_of_neg fun hfound => ?_).trans (ih hothers h hlongest)
        rw [Bool.and_eq_true] at hfound
        have hshort := hown hfound.1 hfound.2
        rw [hfirst _ h] at hshort
        cases hshort
  rw [spelled?, hfind]
  simp

theorem isName_of_mem_words {p : Terminal × List Char} (h : p ∈ words) : IsName p.2 := by
  have hall : ∀ p ∈ words, IsName p.2 := by decide
  exact hall p h

/-- No two words start alike. -/
theorem word_of_isPrefixOf {p q : Terminal × List Char} (hp : p ∈ words) (hq : q ∈ words)
    {rest : List Char} (h : p.2.isPrefixOf (q.2 ++ rest)) : p = q := by
  have hhead : p.2.head? = q.2.head? := by
    obtain ⟨more, hmore⟩ := List.isPrefixOf_iff_prefix.1 h
    obtain ⟨c, r, hc⟩ := List.exists_cons_of_ne_nil (words_filled p hp)
    obtain ⟨d, s, hd⟩ := List.exists_cons_of_ne_nil (words_filled q hq)
    rw [hc, hd] at hmore ⊢
    rw [List.head?_cons, List.head?_cons, (List.cons.inj hmore).1]
  have hunique : ∀ p ∈ words, ∀ q ∈ words, p.2.head? = q.2.head? → p = q := by decide
  exact hunique p hp q hq hhead

/-- An operator that is a word is taken whole; where names are allowed no character of a name may
follow it. -/
theorem scan?_of_word {t : Terminal} (h : (t, w) ∈ words) (ht : allowed t) {rest : List Char}
    (hrest : allowed .name → ∀ c, rest.head? = some c → isWordChar c = false) :
    scan? allowed (w ++ rest) = some ⟨t, w, rest⟩ := by
  have hisName : IsName w := isName_of_mem_words h
  have hw : word? allowed (w ++ rest) = some ⟨t, w, rest⟩ := by
    by_cases hname : allowed .name
    · cases hfind : words.find? fun p => allowed p.1 && p.2 == w with
      | none => exact absurd (List.find?_eq_none.1 hfind _ h) (by simp [ht])
      | some p =>
        have hfound := List.find?_some hfind
        rw [Bool.and_eq_true, beq_iff_eq] at hfound
        have hprefix : p.2.isPrefixOf (w ++ []) := by simp [hfound.2]
        have hp : p = (t, w) := word_of_isPrefixOf (List.mem_of_find?_eq_some hfind) h hprefix
        rw [word?_of_isName hname hisName (hrest hname), hfind, hp]
        rfl
    · unfold word?
      rw [if_neg hname]
      refine spelled?_of_mem (by decide) h ht fun p hp _ hfound => ?_
      rw [word_of_isPrefixOf hp h hfound]
      exact List.isPrefixOf_iff_prefix.2 (List.prefix_refl w)
  have hf : fstring? (w ++ rest) = none := by
    have hother : ∀ p ∈ words, p.2.head? ≠ some 'f' ∧ p.2.head? ≠ some 'F' := by decide
    obtain ⟨c, r, rfl, -⟩ := hisName
    refine fstring?_cons_of_ne ?_ (r ++ rest)
    simpa using hother _ h
  rw [scan?_eq_or, hw]
  simp [onlyIf, hf, number?_of_isName hisName]

/-- A symbol is taken whole if no longer one can be found in its place, and no number. -/
theorem scan?_of_symbol {t : Terminal} (h : (t, w) ∈ symbols) (ht : allowed t) {rest : List Char}
    (hlongest : ∀ p ∈ symbols, allowed p.1 → p.2.isPrefixOf (w ++ rest) → p.2.isPrefixOf w)
    (hnumber : t = .dot → allowed .number → ∀ c, rest.head? = some c → c.isDigit = false) :
    scan? allowed (w ++ rest) = some ⟨t, w, rest⟩ := by
  have hother : ∀ p ∈ symbols, p.2 ≠ [] ∧ p.2.head? ≠ some 'f' ∧ p.2.head? ≠ some 'F' ∧
      p.2.head?.any isWordStart = false ∧ p.2.head?.any isQuote = false ∧
      p.2.head?.any Char.isDigit = false ∧ (p.2.head? = some '.' → p = (.dot, ['.'])) := by decide
  obtain ⟨hne, hf, hf', hstart, hquote, hdigit, hdot⟩ := hother _ h
  obtain ⟨c, r, rfl⟩ := List.exists_cons_of_ne_nil hne
  have hn : onlyIf (allowed .number) number? (c :: (r ++ rest)) = none := by
    unfold onlyIf
    split_ifs with hallowed
    · by_cases hc : c = '.'
      · obtain ⟨rfl, rfl, rfl⟩ : t = .dot ∧ c = '.' ∧ r = [] := by simpa [hc] using hdot
        exact number?_dot (hnumber rfl hallowed)
      · exact number?_cons_of_ne hdigit hc _
    · rfl
  have hsymbol := spelled?_of_mem (by decide) h ht hlongest
  rw [List.cons_append] at hsymbol ⊢
  rw [scan?_eq_or, word?_cons_of_ne hstart, hn, hsymbol]
  simp [onlyIf, fstring?_cons_of_ne ⟨by simpa using hf, by simpa using hf'⟩,
    string?_cons_of_ne hquote]

/-- What stands behind a text of a terminal does not belong to it, where these terminals are looked
for. -/
structure Bounded (allowed : Terminal → Bool) (t : Terminal) (w rest : List Char) : Prop where
  word : t = .name ∨ (t, w) ∈ words → allowed .name →
    ∀ c, rest.head? = some c → isWordChar c = false
  literal : t = .name → allowed .fstring → fstring? (w ++ rest) = none
  digit : t = .number ∨ t = .dot ∧ allowed .number →
    ∀ c, rest.head? = some c → c.isDigit = false
  power : t = .number → exponent rest = ([], rest)
  point : t = .number → rest.head? = some '.' → ∃ d ∈ w, d.isDigit = false
  symbol : (t, w) ∈ symbols →
    ∀ p ∈ symbols, allowed p.1 → p.2.isPrefixOf (w ++ rest) → p.2.isPrefixOf w

/-- A text of an allowed terminal is cut off whole if what follows does not belong to it; a name
only where it is not also the text of another terminal that is allowed. -/
theorem scan?_of_bounded {t : Terminal} {rest : List Char} (ht : allowed t) (h : t.Matches w)
    (hname : t = .name → ∀ p ∈ words, allowed p.1 → p.2 ≠ w) (hb : Bounded allowed t w rest) :
    scan? allowed (w ++ rest) = some ⟨t, w, rest⟩ := by
  have hspelling (hs : w ∈ t.spellings) : scan? allowed (w ++ rest) = some ⟨t, w, rest⟩ := by
    have htable : ∀ w ∈ t.spellings, (t, w) ∈ words ++ symbols := by cases t <;> decide
    rcases List.mem_append.1 (htable w hs) with hmem | hmem
    · exact scan?_of_word hmem ht (hb.word (.inr hmem))
    · exact scan?_of_symbol hmem ht (hb.symbol hmem) fun hdot hallowed =>
        hb.digit (.inr ⟨hdot, hallowed⟩)
  cases t with
  | name => exact scan?_of_name ht h (hname rfl) (hb.word (.inl rfl) ht) (hb.literal rfl)
  | number =>
    have hn := number?_of_isNumber (hb.digit (.inl rfl)) (hb.power rfl) h (hb.point rfl)
    rw [scan?_eq_or, onlyIf_eq_some.2 ⟨ht, hn⟩]
    simp [onlyIf, fstring?_of_isNumber h]
  | string =>
    obtain ⟨q, body, hq, hbody, rfl⟩ := h
    have hs := string?_literal hq hbody rest
    have hother : (q ≠ 'f' ∧ q ≠ 'F') ∧ q.isDigit = false ∧ q ≠ '.' ∧ isWordStart q = false := by
      rcases eq_of_isQuote hq with rfl | rfl <;> decide
    rw [List.cons_append, List.append_assoc, List.singleton_append, scan?_eq_or,
      word?_cons_of_ne hother.2.2.2, onlyIf_eq_some.2 ⟨ht, hs⟩]
    simp [onlyIf, fstring?_cons_of_ne hother.1, number?_cons_of_ne hother.2.1 hother.2.2.1]
  | fstring =>
    obtain ⟨f, q, body, hf, hq, hbody, rfl⟩ := h
    have hs : fstring? (f :: q :: (body ++ q :: rest)) =
        some ⟨.fstring, f :: q :: (body ++ [q]), rest⟩ := by
      rw [fstring?, if_pos hf, string?_literal hq hbody rest]
      rfl
    rw [List.cons_append, List.cons_append, List.append_assoc, List.singleton_append, scan?_eq_or,
      onlyIf_eq_some.2 ⟨ht, hs⟩, Option.some_or]
  | _ => exact hspelling h

theorem bounded_nil {t : Terminal} (h : t.Matches w) : Bounded allowed t w [] where
  word := by simp
  literal := by
    rintro rfl -
    exact fstring?_of_isName h rfl
  digit := by simp
  power _ := rfl
  point := by simp
  symbol := by simp

theorem scan?_of_matches {t : Terminal} (ht : allowed t) (h : t.Matches w)
    (hname : t = .name → ∀ p ∈ words, allowed p.1 → p.2 ≠ w) :
    scan? allowed w = some ⟨t, w, []⟩ := by
  have hwhole := scan?_of_bounded ht h hname (bounded_nil h)
  rwa [List.append_nil] at hwhole

/-! ### Texts and gaps -/

theorem splitGap_token {gap : List Char} (hgap : gap ∈ [[], [' ']]) {c : Char}
    (hc : gapNext false c = none) (r : List Char) :
    splitGap false (gap ++ c :: r) = (gap, c :: r) := by
  have htoken := splitGap_cons_of_none hc r
  simp only [List.mem_cons, List.not_mem_nil, or_false] at hgap
  rcases hgap with rfl | rfl
  · exact htoken
  · rw [List.singleton_append, splitGap_cons_of_some (rfl : gapNext false ' ' = some false), htoken]

theorem gapNext_of_not_mem {c : Char} (h : c ∉ [' ', '\t', '\x0c', '\r', '\n', '#']) :
    gapNext false c = none := by
  simp only [List.mem_cons, List.not_mem_nil, or_false, not_or] at h
  simp [gapNext, isSpace, h]

theorem gapNext_of_isWordStart {c : Char} (h : isWordStart c) : gapNext false c = none := by
  apply gapNext_of_not_mem
  intro hc
  simp only [List.mem_cons, List.not_mem_nil, or_false] at hc
  rcases hc with rfl | rfl | rfl | rfl | rfl | rfl <;> cases h

theorem gapNext_of_spelling {t : Terminal} {c : Char} {r : List Char} (h : c :: r ∈ t.spellings) :
    gapNext false c = none := by
  have hall : ∀ w ∈ t.spellings, w.head?.bind (gapNext false) = none := by cases t <;> decide
  exact hall _ h

/-- No text of a terminal starts as a blank or a comment does. -/
theorem gapNext_of_matches {t : Terminal} {c : Char} {r : List Char} (h : t.Matches (c :: r)) :
    gapNext false c = none := by
  cases t with
  | name =>
    obtain ⟨_, _, heq, hstart, -⟩ := h
    cases heq
    exact gapNext_of_isWordStart hstart
  | number =>
    obtain ⟨_, _, heq, hstart⟩ := IsNumber.exists_cons h
    cases heq
    apply gapNext_of_not_mem
    intro hc
    simp only [List.mem_cons, List.not_mem_nil, or_false] at hc
    rcases hc with rfl | rfl | rfl | rfl | rfl | rfl <;> revert hstart <;> decide
  | string =>
    obtain ⟨_, body, hq, -, heq⟩ := h
    cases heq
    rcases eq_of_isQuote hq with rfl | rfl <;> rfl
  | fstring =>
    obtain ⟨_, q, body, hf, -, -, heq⟩ := h
    cases heq
    rcases hf with rfl | rfl <;> rfl
  | _ => exact gapNext_of_spelling h

end ScopedCss.Source

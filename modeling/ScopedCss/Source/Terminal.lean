import ScopedCss.Text.Identifier

/-!
The terminals of style sources and how one is cut off the front of a text. Which terminals are
looked for is up to the reader, since the same word is a name in one place and an operator in
another. Main statement: what is cut off is not empty, and with the rest it is the text again.
-/
namespace ScopedCss.Source

open Text (isWordChar isWordStart)

inductive Terminal where
  | fstring | number | name | string
  | elseWord | andWord | notWord | ifWord | orWord
  | compare | arrow | floorDiv
  | colon | comma | dot | equals | openBrace | openParen | openBracket | minus | percent | plus
  | closeBrace | closeParen | closeBracket | slash | star
deriving DecidableEq, Repr

/-- A terminal at the front of a text, its characters and what follows them. -/
structure Cut where
  terminal : Terminal
  text : List Char
  rest : List Char
deriving DecidableEq, Repr

/-- A cut of a text takes at least one character off its front and loses none. -/
structure Cut.Of (c : Cut) (cs : List Char) : Prop where
  append : c.text ++ c.rest = cs
  ne_nil : c.text ≠ []

theorem Cut.Of.length_lt {c : Cut} {cs : List Char} (h : c.Of cs) :
    c.rest.length < cs.length := by
  have := List.length_pos_iff.2 h.ne_nil
  rw [← h.append, List.length_append]
  omega

/-! ### Numbers -/

/-- An exponent with at least one digit, or nothing. -/
def exponent (cs : List Char) : List Char × List Char :=
  match cs with
  | e :: '+' :: r => take e ['+'] r
  | e :: '-' :: r => take e ['-'] r
  | e :: r => take e [] r
  | [] => ([], [])
where
  take (e : Char) (sign r : List Char) : List Char × List Char :=
    if (e == 'e' || e == 'E') && !(r.takeWhile Char.isDigit).isEmpty then
      (e :: (sign ++ r.takeWhile Char.isDigit), r.dropWhile Char.isDigit)
    else ([], cs)

/-- Digits with an optional fraction and an optional exponent. -/
def number? (cs : List Char) : Option Cut :=
  let whole := cs.takeWhile Char.isDigit
  match cs.dropWhile Char.isDigit with
  | '.' :: r =>
    let fraction := r.takeWhile Char.isDigit
    let e := exponent (r.dropWhile Char.isDigit)
    if whole = [] ∧ fraction = [] then none
    else some ⟨.number, whole ++ '.' :: (fraction ++ e.1), e.2⟩
  | r =>
    let e := exponent r
    if whole = [] then none else some ⟨.number, whole ++ e.1, e.2⟩

/-! ### Quoted literals -/

/-- The text up to and with the closing quote. A backslash takes the next character with it, and
neither may be a line feed. -/
def closing (quote : Char) : List Char → Option (List Char × List Char)
  | [] => none
  | '\x5c' :: c :: r =>
    if c = '\n' then none
    else (closing quote r).map fun p => ('\x5c' :: c :: p.1, p.2)
  | c :: r =>
    if c = quote then some ([c], r)
    else if c = '\n' ∨ c = '\x5c' then none
    else (closing quote r).map fun p => (c :: p.1, p.2)

def isQuote (c : Char) : Bool := c == '\x22' || c == '\x27'

def string? : List Char → Option Cut
  | c :: r => if isQuote c then (closing c r).map fun p => ⟨.string, c :: p.1, p.2⟩ else none
  | [] => none

/-- A string literal behind the letter f. -/
def fstring? : List Char → Option Cut
  | c :: r =>
    if c = 'f' ∨ c = 'F' then (string? r).map fun s => ⟨.fstring, c :: s.text, s.rest⟩ else none
  | [] => none

/-! ### Words and symbols -/

def words : List (Terminal × List Char) := [
  (.elseWord, ['e', 'l', 's', 'e']), (.andWord, ['a', 'n', 'd']), (.notWord, ['n', 'o', 't']),
  (.ifWord, ['i', 'f']), (.orWord, ['o', 'r'])]

/-- Longer symbols stand before the shorter ones they start with. -/
def symbols : List (Terminal × List Char) := [
  (.compare, ['=', '=']), (.compare, ['!', '=']), (.compare, ['<', '=']), (.compare, ['>', '=']),
  (.compare, ['<']), (.compare, ['>']), (.arrow, ['-', '>']), (.floorDiv, ['/', '/']),
  (.colon, [':']), (.comma, [',']), (.dot, ['.']), (.equals, ['=']), (.openBrace, ['{']),
  (.openParen, ['(']), (.openBracket, ['[']), (.minus, ['-']), (.percent, ['%']), (.plus, ['+']),
  (.closeBrace, ['}']), (.closeParen, [')']), (.closeBracket, [']']), (.slash, ['/']),
  (.star, ['*'])]

/-- The first allowed terminal of a table whose spelling the text starts with. -/
def spelled? (table : List (Terminal × List Char)) (allowed : Terminal → Bool) (cs : List Char) :
    Option Cut :=
  (table.find? fun p => allowed p.1 && p.2.isPrefixOf cs).map fun p =>
    ⟨p.1, p.2, cs.drop p.2.length⟩

/-- Where names are allowed a word is taken whole, and is an operator only if that is allowed too.
Elsewhere an operator is taken even off the front of a longer word. -/
def word? (allowed : Terminal → Bool) (cs : List Char) : Option Cut :=
  if allowed .name then
    match cs with
    | c :: r =>
      if isWordStart c then
        let w := c :: r.takeWhile isWordChar
        let t := ((words.find? fun p => allowed p.1 && p.2 == w).map (·.1)).getD .name
        some ⟨t, w, r.dropWhile isWordChar⟩
      else none
    | [] => none
  else spelled? words allowed cs

/-- A scanner that is used only where its terminal is allowed. -/
def onlyIf (permitted : Bool) (scanner : List Char → Option Cut) (cs : List Char) : Option Cut :=
  if permitted then scanner cs else none

/-- The scanners in the order in which they are tried: literals and words, then symbols. -/
def scanners (allowed : Terminal → Bool) : List (List Char → Option Cut) := [
  onlyIf (allowed .fstring) fstring?, onlyIf (allowed .number) number?, word? allowed,
  onlyIf (allowed .string) string?, spelled? symbols allowed]

/-- The terminal at the front of a text, among those allowed. -/
def scan? (allowed : Terminal → Bool) (cs : List Char) : Option Cut :=
  (scanners allowed).findSome? fun scanner => scanner cs

/-! ### Cuts lose nothing -/

theorem exponent_append (cs : List Char) : (exponent cs).1 ++ (exponent cs).2 = cs := by
  unfold exponent
  split <;> try unfold exponent.take
  all_goals first
    | rfl
    | split <;> simp [List.takeWhile_append_dropWhile]

theorem number?_of {cs : List Char} {c : Cut} (h : number? cs = some c) : c.Of cs := by
  have digits := List.takeWhile_append_dropWhile (p := Char.isDigit) (l := cs)
  unfold number? at h
  split at h
  · rename_i r hr
    simp only [Option.ite_none_left_eq_some, Option.some.injEq] at h
    obtain ⟨_, rfl⟩ := h
    refine ⟨?_, by simp⟩
    have fraction := List.takeWhile_append_dropWhile (p := Char.isDigit) (l := r)
    have power := exponent_append (r.dropWhile Char.isDigit)
    simp only [List.append_assoc, List.cons_append]
    rw [power, fraction, ← hr, digits]
  · simp only [Option.ite_none_left_eq_some, Option.some.injEq] at h
    obtain ⟨whole, rfl⟩ := h
    refine ⟨?_, by simp [whole]⟩
    have power := exponent_append (cs.dropWhile Char.isDigit)
    simp only [List.append_assoc]
    rw [power, digits]

theorem closing_append {quote : Char} {cs : List Char} {p : List Char × List Char}
    (h : closing quote cs = some p) : p.1 ++ p.2 = cs := by
  fun_induction closing quote cs generalizing p with
  | case1 => simp at h
  | case2 => simp at h
  | case3 c r _ ih =>
    obtain ⟨q, hq, rfl⟩ := Option.map_eq_some_iff.1 h
    simp [ih hq]
  | case4 r _ => simp at h; simp [← h]
  | case5 => simp at h
  | case6 c r _ _ _ ih =>
    obtain ⟨q, hq, rfl⟩ := Option.map_eq_some_iff.1 h
    simp [ih hq]

theorem string?_of {cs : List Char} {c : Cut} (h : string? cs = some c) : c.Of cs := by
  unfold string? at h
  split at h
  · simp only [Option.ite_none_right_eq_some, Option.map_eq_some_iff] at h
    obtain ⟨_, p, hp, rfl⟩ := h
    exact ⟨by simp [closing_append hp], by simp⟩
  · simp at h

theorem fstring?_of {cs : List Char} {c : Cut} (h : fstring? cs = some c) : c.Of cs := by
  unfold fstring? at h
  split at h
  · simp only [Option.ite_none_right_eq_some, Option.map_eq_some_iff] at h
    obtain ⟨_, p, hp, rfl⟩ := h
    exact ⟨by simp [(string?_of hp).append], by simp⟩
  · simp at h

theorem spelled?_of {table : List (Terminal × List Char)} (filled : ∀ p ∈ table, p.2 ≠ [])
    {allowed : Terminal → Bool} {cs : List Char} {c : Cut}
    (h : spelled? table allowed cs = some c) : c.Of cs := by
  obtain ⟨p, hp, rfl⟩ := Option.map_eq_some_iff.1 h
  refine ⟨?_, filled p (List.mem_of_find?_eq_some hp)⟩
  have := List.find?_some hp
  simp only [Bool.and_eq_true, List.isPrefixOf_iff_prefix] at this
  obtain ⟨t, ht⟩ := this.2
  simp [← ht]

theorem words_filled : ∀ p ∈ words, p.2 ≠ [] := by decide

theorem symbols_filled : ∀ p ∈ symbols, p.2 ≠ [] := by decide

theorem word?_of {allowed : Terminal → Bool} {cs : List Char} {c : Cut}
    (h : word? allowed cs = some c) : c.Of cs := by
  unfold word? at h
  split at h
  · split at h
    · simp only [Option.ite_none_right_eq_some, Option.some.injEq] at h
      obtain ⟨_, rfl⟩ := h
      exact ⟨by simp [List.takeWhile_append_dropWhile], by simp⟩
    · simp at h
  · exact spelled?_of words_filled h

theorem onlyIf_of {permitted : Bool} {scanner : List Char → Option Cut} {cs : List Char} {c : Cut}
    (sound : ∀ {cs c}, scanner cs = some c → c.Of cs) (h : onlyIf permitted scanner cs = some c) :
    c.Of cs := by
  simp only [onlyIf, Option.ite_none_right_eq_some] at h
  exact sound h.2

theorem scan?_of {allowed : Terminal → Bool} {cs : List Char} {c : Cut}
    (h : scan? allowed cs = some c) : c.Of cs := by
  obtain ⟨scanner, member, found⟩ := List.exists_of_findSome?_eq_some h
  simp only [scanners, List.mem_cons, List.not_mem_nil, or_false] at member
  rcases member with rfl | rfl | rfl | rfl | rfl
  · exact onlyIf_of fstring?_of found
  · exact onlyIf_of number?_of found
  · exact word?_of found
  · exact onlyIf_of string?_of found
  · exact spelled?_of symbols_filled found

end ScopedCss.Source

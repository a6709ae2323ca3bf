import ScopedCss.Parse
import ScopedCss.Proofs.DerivedRuns
import ScopedCss.Proofs.TokenEnds

/-! Which sources the grammar admits. A source without a syntax error falls into tokens, with blanks
and comments between them, whose terminals the grammar derives. The other way round, terminals that
the grammar derives can be written with any texts of theirs and spaces between them; only a name
may not be the word not where that word may stand itself. -/
namespace ScopedCss

open Source

/-! ### Syntax errors -/

/-- The faults of sources that do not follow the grammar. -/
def ParseFault.isSyntax : ParseFault → Bool
  | .unexpectedToken _ | .unexpectedChar _ | .unexpectedEnd => true
  | _ => false

/-- A result that is no syntax error, though it may be another one. -/
def NoSyntaxError {α : Type} (x : Except ParseError α) : Prop :=
  ∀ e, x = .error e → e.fault.isSyntax = false

section NoSyntaxError
variable {α β : Type}

theorem noSyntaxError_ok (a : α) : NoSyntaxError (.ok a : Except ParseError α) := nofun

theorem NoSyntaxError.bind {x : Except ParseError α} {f : α → Except ParseError β}
    (hx : NoSyntaxError x) (hf : ∀ a, NoSyntaxError (f a)) : NoSyntaxError (x >>= f) := by
  cases x with
  | error e =>
    intro e' he'
    cases he'
    exact hx e rfl
  | ok a => exact hf a

theorem NoSyntaxError.map {x : Except ParseError α} (hx : NoSyntaxError x) (f : α → β) :
    NoSyntaxError (x.map f) := by
  cases x with
  | error e =>
    intro e' he'
    cases he'
    exact hx e rfl
  | ok a => exact noSyntaxError_ok (f a)

theorem noSyntaxError_mapM {f : α → Except ParseError β} (hf : ∀ a, NoSyntaxError (f a))
    (xs : List α) : NoSyntaxError (xs.mapM f) := by
  induction xs with
  | nil => exact noSyntaxError_ok []
  | cons x xs ih =>
    rw [List.mapM_cons]
    exact (hf x).bind fun y => ih.bind fun ys => noSyntaxError_ok _

theorem noSyntaxError_parse (literal : String) (location : Option Location) :
    NoSyntaxError (Selector.parse literal location) := by
  intro e he
  unfold Selector.parse at he
  split at he
  · cases he
    rfl
  · cases he
  · split at he
    · next f _ =>
      cases he
      cases f <;> rfl
    · cases he

theorem noSyntaxError_headerOf (t : Token) : NoSyntaxError (headerOf t) := by
  unfold headerOf
  split
  · exact noSyntaxError_parse _ _
  · exact noSyntaxError_ok _

theorem noSyntaxError_onlyRules (owner : String) (ms : List Member) :
    NoSyntaxError (onlyRules owner ms) := by
  induction ms with
  | nil => exact noSyntaxError_ok []
  | cons m ms ih =>
    cases m with
    | rule r => exact ih.map _
    | entry e =>
      intro e' he'
      cases he'
      rfl

theorem noSyntaxError_onlyEntries (owner : String) (ms : List Member) :
    NoSyntaxError (onlyEntries owner ms) := by
  induction ms with
  | nil => exact noSyntaxError_ok []
  | cons m ms ih =>
    cases m with
    | entry e => exact ih.map _
    | rule r =>
      intro e' he'
      cases he'
      rfl

mutual

theorem noSyntaxError_memberOf : ∀ i : Item, NoSyntaxError (memberOf i)
  | .entry _ _ => noSyntaxError_ok _
  | .rule t items => by
    rw [memberOf]
    refine (noSyntaxError_headerOf t).bind fun header => ?_
    refine (noSyntaxError_membersOf items).bind fun members => ?_
    split
    · exact (noSyntaxError_onlyRules _ _).bind fun rules => noSyntaxError_ok _
    · exact (noSyntaxError_onlyEntries _ _).bind fun entries => noSyntaxError_ok _

theorem noSyntaxError_membersOf : ∀ is : List Item, NoSyntaxError (membersOf is)
  | [] => noSyntaxError_ok []
  | i :: is => by
    rw [membersOf]
    exact (noSyntaxError_memberOf i).bind fun m =>
      (noSyntaxError_membersOf is).bind fun ms => noSyntaxError_ok _

end

theorem noSyntaxError_styleOf (b : Block) : NoSyntaxError (styleOf b) :=
  (noSyntaxError_membersOf b.items).bind fun _ =>
    (noSyntaxError_onlyRules _ _).bind fun _ => noSyntaxError_ok _

theorem strayFault_isSyntax (c : Char) (cs : List Char) : (strayFault c cs).isSyntax := by
  unfold strayFault
  split <;> rfl

theorem isSyntax_of_readFrom {r : Reader} {last here : Location} {cs : List Char} {e : ParseError}
    (h : readFrom r last here cs = .error e) : e.fault.isSyntax := by
  fun_induction readFrom r last here cs with
  | case1 => cases h
  | case2 =>
    cases h
    rfl
  | case3 =>
    cases h
    exact strayFault_isSyntax _ _
  | case4 =>
    cases h
    rfl
  | case5 => rename_i ih; exact ih h

theorem noSyntaxError_parseStyles {source : String} :
    NoSyntaxError (parseStyles source) ↔ ∃ blocks, outline source.toList = .ok blocks := by
  unfold parseStyles
  constructor
  · intro h
    cases houtline : outline source.toList with
    | ok blocks => exact ⟨blocks, rfl⟩
    | error e =>
      have hno := h e (by rw [houtline]; rfl)
      rw [isSyntax_of_readFrom houtline] at hno
      cases hno
  · rintro ⟨blocks, houtline⟩
    rw [houtline]
    exact noSyntaxError_mapM noSyntaxError_styleOf blocks

end NoSyntaxError

/-! ### Gaps and tokens -/

namespace Source

/-- Any number of blanks and comments. -/
inductive Ignorable : List Char → Prop
  | nil : Ignorable []
  | space {c : Char} {r : List Char} : isSpace c → Ignorable r → Ignorable (c :: r)
  | comment {text r : List Char} :
    (∀ c ∈ text, c ≠ '\n') → Ignorable r → Ignorable ('#' :: (text ++ r))

/-- What is skipped is ignorable, and inside a comment its end comes first. -/
theorem ignorable_splitGap (cs : List Char) :
    Ignorable (splitGap false cs).1 ∧ ∃ text r, (splitGap true cs).1 = text ++ r ∧
      (∀ c ∈ text, c ≠ '\n') ∧ Ignorable r := by
  induction cs with
  | nil => exact ⟨.nil, [], [], rfl, nofun, .nil⟩
  | cons c cs ih =>
    obtain ⟨hgap, text, r, htext, hline, hr⟩ := ih
    constructor
    · by_cases hspace : isSpace c
      · simpa [splitGap, hspace] using .space hspace hgap
      · by_cases hsharp : c = '#'
        · subst hsharp
          simpa [splitGap, hspace, htext] using .comment hline hr
        · simpa [splitGap, hspace, hsharp] using .nil
    · by_cases hc : c = '\n'
      · subst hc
        exact ⟨[], _, rfl, nofun, .space rfl hgap⟩
      · refine ⟨c :: text, r, by simp [splitGap, hc, htext], ?_, hr⟩
        exact List.forall_mem_cons.2 ⟨hc, hline⟩

/-- A token with the blanks and comments in front of it. -/
structure Lexeme where
  gap : List Char
  terminal : Terminal
  text : List Char

def Lexeme.chars (l : Lexeme) : List Char := l.gap ++ l.text

structure Lexeme.Valid (l : Lexeme) : Prop where
  gap : Ignorable l.gap
  text : l.terminal.Matches l.text

/-- What can be read to the end is made of lexemes, and their terminals complete those before. -/
theorem lexemes_of_readFrom {r : Reader} {before : List Terminal} {last here : Location}
    {cs : List Char} {blocks : List Block} (hr : r.Reads before)
    (h : readFrom r last here cs = .ok blocks) :
    ∃ (lexemes : List Lexeme) (trail : List Char),
      (∀ l ∈ lexemes, l.Valid) ∧ Ignorable trail ∧
      cs = lexemes.flatMap Lexeme.chars ++ trail ∧
      Symbol.start.Derives (before ++ lexemes.map Lexeme.terminal) := by
  refine readFrom_induction (motive := fun r _ _ cs => ∀ before, r.Reads before →
    ∃ (lexemes : List Lexeme) (trail : List Char),
      (∀ l ∈ lexemes, l.Valid) ∧ Ignorable trail ∧
      cs = lexemes.flatMap Lexeme.chars ++ trail ∧
      Symbol.start.Derives (before ++ lexemes.map Lexeme.terminal)) ?_ ?_ h before hr
  · intro r _ _ cs hnone hfinished _ before hr
    have hsplit := splitGap_append false cs
    rw [hnone, List.append_nil] at hsplit
    refine ⟨[], cs, nofun, hsplit ▸ (ignorable_splitGap cs).1, rfl, ?_⟩
    rw [List.map_nil, List.append_nil]
    exact Reader.Reads.derives hr hfinished
  · intro r _ _ cs gap c rest cut r' hgap hscan hstep _ ih before hr
    obtain ⟨-, hmatches⟩ := matches_of_scan? hscan
    have hsplit := splitGap_append false cs
    have hignorable := (ignorable_splitGap cs).1
    rw [hgap] at hignorable
    obtain ⟨lexemes, trail, hvalid, htrail, hcs, hderives⟩ := ih _ (reads_step hr hstep)
    refine ⟨⟨gap, cut.terminal, cut.text⟩ :: lexemes, trail, ?_, htrail, ?_, ?_⟩
    · exact List.forall_mem_cons.2 ⟨⟨hignorable, hmatches⟩, hvalid⟩
    · rw [hgap, ← (scan?_of hscan).append, hcs] at hsplit
      refine hsplit.symm.trans ?_
      simp [Lexeme.chars]
    · simpa using hderives

/-! ### Texts with spaces between them -/

/-- A test may begin behind these terminals, or a part of one in front of which the word not may
stand: there is a derivable sequence that goes on with this word. -/
def TestMayBegin (before : List Terminal) : Prop :=
  ∃ rest, Symbol.start.Derives (before ++ .notWord :: rest)

/-- Where a name is looked for no operator is, apart from the word not. -/
theorem notWord_of_allows {stage : Stage} {p : Terminal × List Char} (hp : p ∈ words)
    (hname : stage.allows .name) (hallows : stage.allows p.1) :
    p = (.notWord, ['n', 'o', 't']) := by
  have hall : ∀ p ∈ words, stage.allows .name → stage.allows p.1 →
      p = (.notWord, ['n', 'o', 't']) := by
    cases stage
    case value property pieces c s =>
      simp only [Stage.allows]
      cases c.place <;> decide
    all_goals
      simp only [Stage.allows]
      decide
  exact hall p hp hname hallows

/-- A token that may come next is read with a space in front of it or none, and up to the next. -/
theorem reaches_text {r : Reader} {before : List Terminal} {t : Terminal} {w gap more : List Char}
    {P : Reader → Prop} (hr : r.Reads before) (hallows : r.stage.allows t)
    (hstep : ∀ gap text location, ∃ r', r.step gap ⟨t, text, location⟩ = some r' ∧ P r')
    (hmatches : t.Matches w)
    (hnot : t = .name → TestMayBegin before → w ≠ ['n', 'o', 't'])
    (hgap : gap ∈ [[], [' ']]) (hmore : more = [] ∨ ∃ m, more = ' ' :: m) :
    Reaches r (gap ++ (w ++ more)) (fun r' => r'.Reads (before ++ [t]) ∧ P r') more := by
  have hname : t = .name → ∀ p ∈ words, r.stage.allows p.1 → p.2 ≠ w := by
    rintro rfl p hp hword rfl
    obtain rfl := notWord_of_allows hp hallows hword
    exact hnot rfl (exists_notWord hr hword) rfl
  have hwhole := scan?_of_matches hallows hmatches hname
  have hscan : scan? r.stage.allows (w ++ more) = some ⟨t, w, more⟩ := by
    rcases hmore with rfl | ⟨m, rfl⟩
    · rw [List.append_nil, hwhole]
    · exact scan?_of_bounded hallows hmatches hname (bounded_gap (by decide) hmatches m)
  obtain ⟨c, cs, rfl⟩ := List.exists_cons_of_ne_nil (scan?_of hwhole).ne_nil
  have hsplit := splitGap_token hgap (gapNext_of_matches hmatches) (cs ++ more)
  intro last here
  obtain ⟨r', hr', hP⟩ := hstep gap (c :: cs) (here.after gap)
  exact ⟨r', _, _, ⟨reads_step hr hr', hP⟩, readFrom_token last here hsplit hscan hr'⟩

theorem intercalate_space_cons (w : List Char) (ws : List (List Char)) :
    ∃ gap ∈ [[], [' ']], [' '].intercalate (w :: ws) = w ++ (gap ++ [' '].intercalate ws) ∧
      (gap ++ [' '].intercalate ws = [] ∨ ∃ m, gap ++ [' '].intercalate ws = ' ' :: m) := by
  cases ws with
  | nil => exact ⟨[], by simp, by simp [List.intercalate], .inl rfl⟩
  | cons v ws => exact ⟨[' '], by simp, by simp [List.intercalate], .inr ⟨_, rfl⟩⟩

/-- Terminals that lead to the end of a source are read with spaces between their texts. -/
theorem readFrom_spaced {tokens : List (Terminal × List Char)} {r : Reader}
    {before : List Terminal} (hr : r.Reads before)
    (htakes : Takes AtEnd (tokens.map Prod.fst) r) (hmatches : ∀ t ∈ tokens, t.1.Matches t.2)
    (hnot : ∀ front text back, tokens = front ++ (.name, text) :: back →
      TestMayBegin (before ++ front.map Prod.fst) → text ≠ ['n', 'o', 't'])
    {gap : List Char} (hgap : gap ∈ [[], [' ']]) (last here : Location) :
    ∃ blocks, readFrom r last here (gap ++ [' '].intercalate (tokens.map Prod.snd)) =
      .ok blocks := by
  induction tokens generalizing r before gap last here with
  | nil =>
    obtain ⟨hstage, hdone⟩ := htakes
    have hfinished : r.isFinished := by simp [Reader.isFinished, hstage, hdone]
    have hsplit : splitGap false gap = (gap, []) := by
      simp only [List.mem_cons, List.not_mem_nil, or_false] at hgap
      rcases hgap with rfl | rfl <;> rfl
    exact ⟨r.done, readFrom_end last here (by simpa [List.intercalate] using hsplit) hfinished⟩
  | cons token tokens ih =>
    obtain ⟨t, w⟩ := token
    obtain ⟨hallows, hstep⟩ := htakes
    obtain ⟨hw, hmatches⟩ := List.forall_mem_cons.1 hmatches
    have hfirst : t = .name → TestMayBegin before → w ≠ ['n', 'o', 't'] := by
      rintro rfl hbegin
      exact hnot [] w tokens rfl (by simpa using hbegin)
    obtain ⟨gap', hgap', htext, hmore⟩ := intercalate_space_cons w (tokens.map Prod.snd)
    obtain ⟨r', last', here', ⟨hr', htakes'⟩, hread⟩ :=
      reaches_text hr hallows hstep hw hfirst hgap hmore last here
    obtain ⟨blocks, hblocks⟩ := ih hr' htakes' hmatches (fun front text back htokens hbegin =>
      hnot ((t, w) :: front) text back (by rw [htokens]; rfl) (by simpa using hbegin))
      hgap' last' here'
    rw [List.map_cons, htext]
    exact ⟨blocks, hread.trans hblocks⟩

end Source

/-- The sources without a syntax error are those of the grammar. Such a source is made of blanks,
comments and tokens whose terminals are derivable. Derivable terminals can be written with spaces
between any texts of theirs, if no name is the word not where a test may begin. -/
theorem syntax_sound_complete :
    (∀ source, NoSyntaxError (parseStyles source) →
      ∃ (lexemes : List Lexeme) (trail : List Char),
        (∀ l ∈ lexemes, l.Valid) ∧ Ignorable trail ∧
        source.toList = lexemes.flatMap Lexeme.chars ++ trail ∧
        Symbol.start.Derives (lexemes.map Lexeme.terminal)) ∧
    ∀ tokens : List (Terminal × List Char),
      Symbol.start.Derives (tokens.map Prod.fst) → (∀ t ∈ tokens, t.1.Matches t.2) →
      (∀ before text after, tokens = before ++ (.name, text) :: after →
        TestMayBegin (before.map Prod.fst) → text ≠ ['n', 'o', 't']) →
      NoSyntaxError (parseStyles (String.ofList ([' '].intercalate (tokens.map Prod.snd)))) := by
  have hstart : Reader.start.Reads [] := .inl ⟨rfl, rfl⟩
  constructor
  · intro source hsource
    obtain ⟨blocks, hblocks⟩ := noSyntaxError_parseStyles.1 hsource
    exact lexemes_of_readFrom hstart hblocks
  · intro tokens hderives hmatches hnot
    refine noSyntaxError_parseStyles.2 ?_
    rw [String.toList_ofList]
    exact readFrom_spaced hstart (leads_start hderives _ rfl) hmatches hnot
      (by simp : [] ∈ [[], [' ']]) _ _

/-- The terminals of a source in which names are spelled like operators, with these spellings. -/
def operatorNames : List (Terminal × List Char) := [
  (.openBrace, ['{']), (.name, ['i', 'f']), (.openBrace, ['{']), (.name, ['v']), (.colon, [':']),
  (.minus, ['-']), (.name, ['n', 'o', 't']), (.closeBrace, ['}']), (.closeBrace, ['}'])]

theorem derives_operatorNames : Symbol.start.Derives (operatorNames.map Prod.fst) := by
  have hname : Symbol.factor.Derives [.name] :=
    Symbol.factor_contains_atom.derives (Symbol.derives_atom .name (by simp))
  have hvalue : Symbol.factor.Derives [.minus, .name] := .symbol (.left (.left (.seq .token hname)))
  have htest : Symbol.test.Derives [.minus, .name] :=
    (Symbol.test_contains_notTest.trans Symbol.notTest_contains_factor).derives hvalue
  have hentry : Symbol.item.Derives [.name, .colon, .minus, .name] :=
    item_of_header (.inl rfl) (.left (.seq .token (.symbol htest)))
  have hbody := body_of_listed (.some (listed_of_commas hentry.separated_one))
  have hrule := item_of_header (a := .name) (.inl rfl) (.right hbody)
  have hblock := body_of_listed (.some (listed_of_commas hrule.separated_one))
  have hstyle : Symbol.style.Derives _ := .symbol (.seq .none hblock)
  have hstart : Reader.start.Reads [] := .inl ⟨rfl, rfl⟩
  exact start_of_outside hstart hstyle

/-- Behind the minus sign of that source no test may begin. -/
theorem not_testMayBegin_minus :
    ¬ TestMayBegin [.openBrace, .name, .openBrace, .name, .colon, .minus] := by
  rintro ⟨rest, hrest⟩
  have htakes := leads_start hrest Reader.start rfl
  -- The reader takes the six terminals, and then allows no operator.
  have hnext : ∀ {t w r r'}, Takes AtEnd (t :: w) r →
      r.step [] ⟨t, [], Location.start⟩ = some r' → Takes AtEnd w r' := Takes.next
  have hminus := hnext (hnext (hnext (hnext (hnext (hnext htakes rfl) rfl) rfl) rfl) rfl) rfl
  cases hminus.1

theorem operatorNames_not {before after : List (Terminal × List Char)} {text : List Char}
    (h : operatorNames = before ++ (.name, text) :: after)
    (hbegin : TestMayBegin (before.map Prod.fst)) : text ≠ ['n', 'o', 't'] := by
  rintro rfl
  have hget : operatorNames[before.length]? = some (.name, ['n', 'o', 't']) := by
    rw [h, List.getElem?_append_right (Nat.le_refl _), Nat.sub_self]
    rfl
  have hlt : before.length < 9 := (List.getElem?_eq_some_iff.1 hget).1
  have honly : ∀ i < 9, operatorNames[i]? = some (.name, ['n', 'o', 't']) → i = 6 := by decide
  have hbefore : before = operatorNames.take 6 := by
    rw [← honly _ hlt hget, h, List.take_left]
  rw [hbefore] at hbegin
  exact not_testMayBegin_minus hbegin

theorem syntax_sound_complete_operatorNames :
    NoSyntaxError (parseStyles "{ if { v : - not } }") ∧
      ∃ (lexemes : List Lexeme) (trail : List Char),
        (∀ l ∈ lexemes, l.Valid) ∧ Ignorable trail ∧
        "{ if { v : - not } }".toList = lexemes.flatMap Lexeme.chars ++ trail ∧
        Symbol.start.Derives (lexemes.map Lexeme.terminal) := by
  have hname : IsName ['i', 'f'] ∧ IsName ['v'] ∧ IsName ['n', 'o', 't'] := by decide
  have hmatches : ∀ t ∈ operatorNames, t.1.Matches t.2 := by
    simp only [operatorNames, List.forall_mem_cons]
    exact ⟨.head _, hname.1, .head _, hname.2.1, .head _, .head _, hname.2.2, .head _, .head _,
      nofun⟩
  have hvalid : NoSyntaxError (parseStyles "{ if { v : - not } }") :=
    syntax_sound_complete.2 operatorNames derives_operatorNames hmatches
      fun _ _ _ => operatorNames_not
  exact ⟨hvalid, syntax_sound_complete.1 _ hvalid⟩

end ScopedCss

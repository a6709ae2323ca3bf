import ScopedCss.ClassDef
import ScopedCss.Proofs.RoundTrip

/-! Values stand for themselves. The value of an entry is cut out of its source from the first token
of its expression to the last one. Nothing that it was read with is needed to read it again. Alone
in a source it has the same tokens, and so it has in the parentheses that it is generated with, so
these close behind it and not inside of it. -/
namespace ScopedCss

open Source

/-! ### Single declarations -/

/-- The source of a single declaration. -/
def onlyValue (v : String) : String := "\x7b a \x7b p: " ++ v ++ " \x7d \x7d"

/-- The lexemes of such a source around those of the value. -/
def onlyLexemes (value : List Lexeme) : List Lexeme :=
  [⟨[], .openBrace, ['{']⟩, ⟨[' '], .name, ['a']⟩, ⟨[' '], .openBrace, ['{']⟩,
    ⟨[' '], .name, ['p']⟩, ⟨[], .colon, [':']⟩] ++ value ++
  [⟨[' '], .closeBrace, ['}']⟩, ⟨[' '], .closeBrace, ['}']⟩]

/-- A value that is read alone in a source just as it is, with these lexemes. -/
structure ReadsAlone (v : String) (value : List Lexeme) : Prop where
  captured : Captured v
  tokens : Tokens (onlyValue v).toList (onlyLexemes value)

/-- The header and the property of that declaration. -/
def onlyHead : Token := ⟨.name, ['a'], ⟨1, 3⟩⟩

def onlyProperty : Token := ⟨.name, ['p'], ⟨1, 7⟩⟩

/-- The outline of that source. -/
def onlyBlock (v : List Char) : Block := ⟨{}, [.rule onlyHead [.entry onlyProperty v]]⟩

theorem captured_of_outline {v : String}
    (h : outline (onlyValue v).toList = .ok [onlyBlock v.toList]) : Captured v := by
  let style : Style := ⟨{}, [.plain (.ofIdentifier "a" (some ⟨1, 3⟩)) [⟨"p", v, some ⟨1, 7⟩⟩]]⟩
  have hstyle : styleOf (onlyBlock v.toList) = .ok style := by
    have hvalue : String.ofList v.toList = v := String.ofList_toList
    simp only [onlyBlock, styleOf, membersOf, memberOf, hvalue]
    rfl
  have hstyles : parseStyles (onlyValue v) = .ok [style] := by
    rw [parseStyles, h]
    exact mapM_eq_ok.2 (.cons hstyle .nil)
  refine ⟨style, ?_, rfl⟩
  change parseStyle (onlyValue v) = _
  rw [parseStyle, hstyles]
  rfl

/-- What stands in front of the value. -/
theorem passes_only (rest : List Char) :
    Passes ⟨.start, .start, '{' :: ' ' :: 'a' :: ' ' :: '{' :: ' ' :: 'p' :: ':' :: rest⟩
      [⟨[], .openBrace, ['{']⟩, ⟨[' '], .name, ['a']⟩, ⟨[' '], .openBrace, ['{']⟩,
        ⟨[' '], .name, ['p']⟩, ⟨[], .colon, [':']⟩]
      ⟨⟨[], .value onlyProperty [] .start (.rule onlyHead [] (.block {} []))⟩, ⟨1, 9⟩, rest⟩ := by
  have ha : IsName ['a'] := ⟨'a', [], rfl, rfl, nofun⟩
  have hp : IsName ['p'] := ⟨'p', [], rfl, rfl, nofun⟩
  refine .token ⟨.openBrace, ['{'], _⟩ rfl rfl rfl ?_
  refine .token ⟨.name, ['a'], _⟩ rfl (scan?_item_name _ ha (by simp; rfl)) rfl ?_
  refine .token ⟨.openBrace, ['{'], _⟩ rfl rfl rfl ?_
  refine .token ⟨.name, ['p'], _⟩ rfl (scan?_item_name _ hp (by simp; rfl)) rfl ?_
  exact .token ⟨.colon, [':'], _⟩ rfl rfl rfl .refl

/-- The text that ends a body and the block around it. -/
def twoClosed : List Char := [' ', '}', ' ', '}']

/-- What stands behind the value. -/
theorem passes_twoClosed {c : Cursor} (hc : c.isComplete) (pieces : List (List Char))
    (here : Location) :
    ∃ here', Passes
      ⟨⟨[], .value onlyProperty pieces c (.rule onlyHead [] (.block {} []))⟩, here, twoClosed⟩
      [⟨[' '], .closeBrace, ['}']⟩, ⟨[' '], .closeBrace, ['}']⟩]
      ⟨⟨[onlyBlock (Reader.joined pieces)], .outside⟩, here', []⟩ := by
  obtain ⟨place, brackets⟩ := c
  simp only [Cursor.isComplete, Bool.and_eq_true, beq_iff_eq, List.isEmpty_iff] at hc
  obtain ⟨rfl, rfl⟩ := hc
  exact ⟨_, .token ⟨.closeBrace, ['}'], _⟩ rfl rfl rfl
    (.token ⟨.closeBrace, ['}'], _⟩ rfl rfl rfl .refl)⟩

/-- A value whose tokens make a whole expression is read alone with the same tokens. -/
theorem readsAlone_of_follows {v : String} {tail : List Char} {c : Cursor} {first : Lexeme}
    {others : List Lexeme} (h : Cursor.Follows tail .start (first :: others) c)
    (hc : c.isComplete) (hv : v.toList = Lexeme.textOf (first :: others)) :
    ReadsAlone v (⟨[' '], first.terminal, first.text⟩ :: others) := by
  have hgap : Skipped [' '] := fun _ => rfl
  have hends : Cursor.Ends twoClosed := Cursor.ends_gap (by decide) _
  obtain ⟨pieces, here, hjoined, hvalue⟩ := ((h.regap hgap).transport hends).passes_start
    (List.cons_ne_nil _ _) [] onlyProperty (.rule onlyHead [] (.block {} [])) ⟨1, 9⟩
  have hjoined : Reader.joined pieces = v.toList := hjoined.trans hv.symm
  obtain ⟨here', hclosed⟩ := passes_twoClosed hc pieces here
  have hsource : (onlyValue v).toList = '{' :: ' ' :: 'a' :: ' ' :: '{' :: ' ' :: 'p' :: ':' ::
      ((⟨[' '], first.terminal, first.text⟩ :: others).flatMap Lexeme.chars ++ twoClosed) := by
    simp [onlyValue, hv, Lexeme.textOf, Lexeme.chars, twoClosed]
  have hpasses := ((passes_only _).trans hvalue).trans hclosed
  rw [← hsource, hjoined] at hpasses
  obtain ⟨last, houtline⟩ := hpasses.readFrom_eq Location.start
  exact ⟨captured_of_outline (houtline.trans (readFrom_end last here' rfl rfl)), _, hpasses, rfl,
    rfl⟩

/-! ### Values in parentheses -/

/-- The lexemes of a value in parentheses. -/
def parenthesised (closing : List Char) (first : Lexeme) (others : List Lexeme) : List Lexeme :=
  ⟨[' '], .openParen, ['(']⟩ :: ⟨[], first.terminal, first.text⟩ ::
    (others ++ [⟨closing, .closeParen, [')']⟩])

theorem derives_parenthesised {closing : List Char} {first : Lexeme} {others : List Lexeme}
    (h : Symbol.expr.Derives ((first :: others).map Lexeme.terminal)) :
    Symbol.atom.Derives ((parenthesised closing first others).map Lexeme.terminal) := by
  cases h with
  | symbol htest =>
    have hlist := Phrase.Derives.some (listed_of_commas htest.separated_one)
    have hgroup := Bracket.phrase_of_listed (b := .group) rfl hlist
    have hatom : Symbol.atom.Derives _ := .symbol (.left (.right hgroup))
    simpa [parenthesised, Bracket.opening, Bracket.closing] using hatom

/-- What stands between a value and the parenthesis that closes it: nothing, or a line feed and
blanks if the value has several lines. -/
def closingGap (v : String) : List Char :=
  if v.toList.contains '\n' then '\n' :: List.replicate 16 ' ' else []

theorem skipped_closingGap (v : String) : Skipped (closingGap v) := by
  rw [closingGap]
  split_ifs <;> exact fun _ => rfl

theorem toList_argumentText (v : String) :
    (ClassDef.argumentText (.value v)).toList = '(' :: (v.toList ++ (closingGap v ++ [')'])) := by
  rw [ClassDef.argumentText, closingGap]
  split_ifs <;> simp [ClassDef.indent]

/-- The parentheses that a value is generated with close behind it. -/
theorem readsAlone_argument {v : String} {tail : List Char} {c : Cursor} {first : Lexeme}
    {others : List Lexeme} (h : Cursor.Follows tail .start (first :: others) c)
    (hc : c.isComplete) (hv : v.toList = Lexeme.textOf (first :: others)) :
    ReadsAlone (ClassDef.argumentText (.value v))
      (parenthesised (closingGap v) first others) := by
  refine readsAlone_of_follows (h.enclosed hc (skipped_closingGap v) []) rfl ?_
  rw [toList_argumentText, hv]
  simp [Lexeme.textOf, Lexeme.chars]

/-! ### Values of a source -/

/-- An entry is cut out of a source, its value from the first token of an expression to the last. -/
structure Source.Slice.Cuts (d : Slice) (source : List Char) (e : Entry) : Prop where
  tokens : Tokens source d.lexemes
  valid : ∀ l ∈ d.lexemes, l.Valid
  property : e.property = propertyOf (d.property.token d.before)
  location : e.location = some (d.property.token d.before).location
  colon : d.colon.terminal = .colon
  ending : d.ending.terminal = .comma ∨ d.ending.terminal = .closeBrace
  expression : Symbol.expr.Derives (d.value.map Lexeme.terminal)
  value : e.value.toList = Lexeme.textOf d.value
  slice : ∃ trail, source =
    (d.before ++ [d.property, d.colon]).flatMap Lexeme.chars ++ d.first.gap ++ e.value.toList ++
      ((d.ending :: d.after).flatMap Lexeme.chars ++ trail)

theorem Source.Slice.Declares.cuts {d : Slice} {t : Token} {v source : List Char}
    (h : d.Declares t v) (htokens : Tokens source d.lexemes) :
    d.Cuts source (entryOf (t, v)) := by
  obtain ⟨tail, c, hfollows, hc⟩ := h.follows
  obtain ⟨q, hpasses, -⟩ := id htokens
  refine ⟨htokens, hpasses.valid, by rw [← h.property]; rfl, by rw [← h.property]; rfl, h.colon,
    h.ending, hfollows.derives hc, h.toList_value, q.rest, ?_⟩
  rw [h.toList_value]
  refine hpasses.rest_eq.trans ?_
  simp [lexemes, value, Lexeme.textOf, Lexeme.chars]

/-- Values are captured exactly and are self-contained. The value of an entry is the text from the
first token of its expression to the last; alone in a source it is captured again, with the same
tokens; and so it is in the parentheses that it is generated with, which make one atom with it. -/
theorem values_self_contained {source : String} {styles : List Style}
    (h : parseStyles source = .ok styles) {s : Style} (hs : s ∈ styles) {e : Entry}
    (he : e ∈ entriesOf s.rules) :
    ∃ d : Slice, d.Cuts source.toList e ∧
      ReadsAlone e.value (⟨[' '], d.first.terminal, d.first.text⟩ :: d.others) ∧
      ReadsAlone (ClassDef.argumentText (.value e.value))
        (parenthesised (closingGap e.value) d.first d.others) ∧
      Symbol.atom.Derives
        ((parenthesised (closingGap e.value) d.first d.others).map Lexeme.terminal) := by
  obtain ⟨d, t, v, htokens, hdeclares, rfl⟩ := exists_slice_of_entry h hs he
  obtain ⟨tail, c, hfollows, hc⟩ := hdeclares.follows
  have hcuts := hdeclares.cuts htokens
  exact ⟨d, hcuts, readsAlone_of_follows hfollows hc hcuts.value,
    readsAlone_argument hfollows hc hcuts.value, derives_parenthesised hcuts.expression⟩

/-- A value with a comment that opens a parenthesis and a literal that closes one. -/
theorem values_self_contained_comment :
    let v := "max( # widest (\n 2, '#)' ) if b else -.5"
    ∃ s e, parseStyles ("\x7b a \x7b width:" ++ v ++ " # last\n, \x7d \x7d") = .ok [s] ∧
      entriesOf s.rules = [e] ∧ e.value = v ∧ Captured v ∧
        Captured ("(" ++ v ++ "\n                )") := by
  intro v
  let e : Entry := ⟨"width", v, some ⟨1, 7⟩⟩
  let s : Style := ⟨{}, [.plain (.ofIdentifier "a" (some ⟨1, 3⟩)) [e]]⟩
  have hparse : parseStyles ("\x7b a \x7b width:" ++ v ++ " # last\n, \x7d \x7d") = .ok [s] := by
    decide +kernel
  have hentries : entriesOf s.rules = [e] := rfl
  obtain ⟨d, -, halone, hargument, -⟩ := values_self_contained hparse List.mem_cons_self
    (hentries ▸ List.mem_cons_self)
  have htext : ClassDef.argumentText (.value v) = "(" ++ v ++ "\n                )" := by
    decide +kernel
  exact ⟨s, e, hparse, hentries, rfl, halone.captured, htext ▸ hargument.captured⟩

end ScopedCss

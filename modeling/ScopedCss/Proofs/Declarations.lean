import ScopedCss.Proofs.Outcomes
import ScopedCss.Proofs.Printing
import ScopedCss.Proofs.ValueTokens

/-! The declarations of a source. Each one is found among the tokens of the source, its value from
the first token of an expression to the last one, and the entries of a block are its declarations in
the order in which they were recorded. -/
namespace ScopedCss

namespace Source

/-! ### Where values are cut out -/

/-- The token that a lexeme is behind others. -/
def Lexeme.token (l : Lexeme) (before : List Lexeme) : Token :=
  ⟨l.terminal, l.text, Location.start.after (before.flatMap Lexeme.chars ++ l.gap)⟩

/-- The lexemes of a source around those of a value. -/
structure Slice where
  before : List Lexeme
  property : Lexeme
  colon : Lexeme
  first : Lexeme
  others : List Lexeme
  ending : Lexeme
  after : List Lexeme

namespace Slice

def value (d : Slice) : List Lexeme := d.first :: d.others

def lexemes (d : Slice) : List Lexeme :=
  d.before ++ d.property :: d.colon :: (d.value ++ d.ending :: d.after)

/-- Among the lexemes of a source these are a declaration. -/
structure Declares (d : Slice) (t : Token) (v : List Char) : Prop where
  property : t = d.property.token d.before
  colon : d.colon.terminal = .colon
  ending : d.ending.terminal = .comma ∨ d.ending.terminal = .closeBrace
  text : v = Lexeme.textOf d.value
  follows : ∃ tail c, Cursor.Follows tail .start d.value c ∧ c.isComplete

end Slice

/-- What has been read of a declaration is what its lexemes say. -/
def Stage.Spelled (past : List Lexeme) (rest : List Char) : Stage → Prop
  | .head t _ => ∃ before l, past = before ++ [l] ∧ t = l.token before
  | .value t pieces c _ => ∃ before property colon value,
      past = before ++ property :: colon :: value ∧ t = property.token before ∧
      colon.terminal = .colon ∧ (pieces = [] ↔ value = []) ∧
      Reader.joined pieces = Lexeme.textOf value ∧ Cursor.Follows rest .start value c
  | _ => True

/-- All that has been read comes from these lexemes. -/
structure Spelled (past : List Lexeme) (p : Point) : Prop where
  here : p.here = Location.start.after (past.flatMap Lexeme.chars)
  declared : ∀ t v, (t, v) ∈ p.reader.declarations →
    ∃ d : Slice, past = d.lexemes ∧ d.Declares t v
  stage : p.reader.stage.Spelled past p.rest

theorem Lexeme.textOf_append {ls : List Lexeme} (hne : ls ≠ []) (l : Lexeme) :
    Lexeme.textOf (ls ++ [l]) = Lexeme.textOf ls ++ l.chars := by
  cases ls with
  | nil => exact absurd rfl hne
  | cons first others => simp [Lexeme.textOf]

theorem Stage.spelled_close (past : List Lexeme) (rest : List Char) (done : List Block)
    (s : Scope) : (Reader.close done s).stage.Spelled past rest := by
  cases s <;> exact trivial

variable {past : List Lexeme} {p : Point} {gap rest : List Char} {c : Char} {cut : Cut}
  {r' : Reader}

/-- A token goes on with a value that is being read by a lexeme of its own. -/
theorem spelled_value {property : Token} {pieces : List (List Char)} {cursor cursor' : Cursor}
    {s s' : Scope} {cs : List Char}
    (h : (Stage.value property pieces cursor s).Spelled past cs)
    (hgap : splitGap false cs = (gap, c :: rest))
    (hscan : scan? cursor.place.allows (c :: rest) = some cut)
    (hnext : cursor.next? cut.terminal = some cursor') :
    (Stage.value property (Reader.extend pieces gap cut.text) cursor' s').Spelled
      (past ++ [⟨gap, cut.terminal, cut.text⟩]) cut.rest := by
  obtain ⟨before, p₀, colon, value, rfl, hproperty, hcolon, hempty, hjoined, hfollows⟩ := h
  let l : Lexeme := ⟨gap, cut.terminal, cut.text⟩
  have htext := (scan?_of hscan).append
  have hrest : cs = l.chars ++ cut.rest := by
    have hsplit := splitGap_append false cs
    rw [hgap, ← htext] at hsplit
    rw [← hsplit]
    simp [l, Lexeme.chars]
  refine ⟨before, p₀, colon, value ++ [l], by simp [l], hproperty, hcolon, ?_, ?_, ?_⟩
  · simp only [Reader.extend]
    split <;> simp
  · by_cases hnil : pieces = []
    · rw [hnil, hempty.1 hnil]
      simp [Reader.extend, Reader.joined, Lexeme.textOf, l]
    · rw [Reader.joined_extend hnil, hjoined, Lexeme.textOf_append (mt hempty.2 hnil)]
      simp [l, Lexeme.chars]
  · rw [hrest] at hfollows
    rw [← htext] at hscan
    exact hfollows.snoc (skipped_of_token hgap).1 hscan hnext

/-- A token at the start of an item is its head, and the colon behind a head starts a value. -/
theorem spelled_stage (hgap : splitGap false p.rest = (gap, c :: rest))
    (hscan : scan? p.reader.stage.allows (c :: rest) = some cut)
    (hstep : p.reader.step gap ⟨cut.terminal, cut.text, p.here.after gap⟩ = some r')
    (h : Spelled past p) :
    r'.stage.Spelled (past ++ [⟨gap, cut.terminal, cut.text⟩]) cut.rest := by
  obtain ⟨⟨done, stage⟩, here, cs⟩ := p
  obtain ⟨hhere, -, hstage⟩ := h
  have hhead : (⟨cut.terminal, cut.text, here.after gap⟩ : Token) =
      Lexeme.token ⟨gap, cut.terminal, cut.text⟩ past := by
    rw [Lexeme.token, Location.after_append, ← hhere]
  by_cases hv : ∃ property pieces cursor s, stage = .value property pieces cursor s
  · obtain ⟨property, pieces, cursor, s, rfl⟩ := hv
    rcases step_value_cases hstep with ⟨cursor', hnext, rfl⟩ | ⟨-, -, ⟨-, rfl⟩ | ⟨-, rfl⟩⟩
    · exact spelled_value hstage hgap hscan hnext
    · exact trivial
    · exact Stage.spelled_close _ _ _ _
  · simp only [Reader.step] at hstep
    split at hstep
    case h_18 => exact absurd ⟨_, _, _, _, rfl⟩ hv
    all_goals cases hstep
    case h_11 | h_12 => exact ⟨past, _, rfl, hhead⟩
    case h_14 hcolon =>
      obtain ⟨before, l, rfl, htoken⟩ := hstage
      exact ⟨before, l, ⟨gap, cut.terminal, cut.text⟩, [], by simp, htoken, hcolon, by simp, rfl,
        .nil⟩
    case h_13 | h_17 => exact Stage.spelled_close _ _ _ _
    all_goals exact trivial

/-- What a lexeme adds to all that has been read comes from this lexeme and those before it. -/
theorem spelled_token (hgap : splitGap false p.rest = (gap, c :: rest))
    (hscan : scan? p.reader.stage.allows (c :: rest) = some cut)
    (hstep : p.reader.step gap ⟨cut.terminal, cut.text, p.here.after gap⟩ = some r')
    (h : Spelled past p) :
    Spelled (past ++ [⟨gap, cut.terminal, cut.text⟩])
      ⟨r', (p.here.after gap).after cut.text, cut.rest⟩ where
  here := by
    rw [h.here, ← Location.after_append, ← Location.after_append]
    simp [Lexeme.chars]
  stage := spelled_stage hgap hscan hstep h
  declared := by
    let l : Lexeme := ⟨gap, cut.terminal, cut.text⟩
    have hold : ∀ t v, (t, v) ∈ p.reader.declarations →
        ∃ d : Slice, past ++ [l] = d.lexemes ∧ d.Declares t v := by
      intro t v hmem
      obtain ⟨d, rfl, hd⟩ := h.declared t v hmem
      refine ⟨{ d with after := d.after ++ [l] }, by simp [Slice.lexemes, Slice.value], ?_⟩
      exact ⟨hd.property, hd.colon, hd.ending, hd.text, hd.follows⟩
    intro t v hmem
    rcases declarations_step hstep with hsame | ⟨property, pieces, cursor, s, hvalue, hc, ht, hnew⟩
    · exact hold t v (hsame ▸ hmem)
    · rw [hnew, List.mem_append, List.mem_singleton, Prod.mk.injEq] at hmem
      rcases hmem with hmem | ⟨rfl, rfl⟩
      · exact hold t v hmem
      · have hstage := h.stage
        rw [hvalue] at hstage
        obtain ⟨before, p₀, colon, value, rfl, hproperty, hcolon, -, hjoined, hfollows⟩ := hstage
        cases value with
        | nil =>
          -- a value that has no token yet cannot end
          cases hfollows
          cases hc
        | cons first others =>
          refine ⟨⟨before, p₀, colon, first, others, l, []⟩, ?_, ?_⟩
          · simp [Slice.lexemes, Slice.value, l]
          · exact ⟨hproperty, hcolon, ht, hjoined, _, _, hfollows, hc⟩

/-- Every declaration of a source is found among its tokens. -/
theorem exists_slice {source : List Char} {blocks : List Block} (h : outline source = .ok blocks)
    {t : Token} {v : List Char} (hmem : (t, v) ∈ Block.declarations blocks) :
    ∃ d : Slice, Tokens source d.lexemes ∧ d.Declares t v := by
  obtain ⟨ls, q, hpasses, hfinished, rfl, hend⟩ := exists_passes h
  have hstart : Spelled [] ⟨.start, .start, source⟩ := ⟨rfl, nofun, trivial⟩
  have hspelled := hpasses.preserves (fun hgap hscan hstep => spelled_token hgap hscan hstep) hstart
  obtain ⟨d, hd, hdeclares⟩ := hspelled.declared t v (List.mem_append_left _ hmem)
  rw [List.nil_append] at hd
  exact ⟨d, ⟨q, hd ▸ hpasses, hfinished, hend⟩, hdeclares⟩

end Source

/-! ### Entries -/

open Source

/-- The entry that a declaration makes. -/
def entryOf (d : Token × List Char) : Entry :=
  ⟨propertyOf d.1, String.ofList d.2, some d.1.location⟩

theorem Source.Slice.Declares.toList_value {d : Slice} {t : Token} {v : List Char}
    (h : d.Declares t v) : (entryOf (t, v)).value.toList = Lexeme.textOf d.value := by
  rw [← h.text]
  exact String.toList_ofList

def Member.entries : Member → List Entry
  | .rule r => entriesOf [r]
  | .entry e => [e]

theorem entries_map_entry (es : List Entry) :
    (es.map Member.entry).flatMap Member.entries = es := by
  induction es with
  | nil => rfl
  | cons e es ih => rw [List.map_cons, List.flatMap_cons, ih]; rfl

theorem entries_map_rule (rs : List Rule) :
    (rs.map Member.rule).flatMap Member.entries = entriesOf rs := by
  induction rs with
  | nil => rfl
  | cons r rs ih => rw [List.map_cons, List.flatMap_cons, ih, entriesOf_cons, Member.entries]

mutual

theorem entries_memberOf : (i : Item) → {m : Member} → memberOf i = .ok m →
    m.entries = i.declarations.map entryOf
  | .entry t v, m, h => by
    cases h
    rfl
  | .rule t items, m, h => by
    rw [memberOf, bind_eq_ok] at h
    obtain ⟨header, -, h⟩ := h
    obtain ⟨ms, hms, h⟩ := bind_eq_ok.1 h
    rw [Item.declarations, ← entries_membersOf items hms]
    split_ifs at h
    · obtain ⟨rs, hrs, h⟩ := bind_eq_ok.1 h
      cases h
      rw [eq_map_of_onlyRules hrs, entries_map_rule, Member.entries, entriesOf_nested]
    · obtain ⟨es, hes, h⟩ := bind_eq_ok.1 h
      cases h
      rw [eq_map_of_onlyEntries hes, entries_map_entry, Member.entries, entriesOf_plain]

theorem entries_membersOf : (items : List Item) → {ms : List Member} → membersOf items = .ok ms →
    ms.flatMap Member.entries = (Item.declarationsOf items).map entryOf
  | [], ms, h => by
    cases h
    rfl
  | i :: items, ms, h => by
    rw [membersOf, bind_eq_ok] at h
    obtain ⟨m, hm, h⟩ := h
    obtain ⟨others, hothers, h⟩ := bind_eq_ok.1 h
    cases h
    rw [List.flatMap_cons, entries_memberOf i hm, entries_membersOf items hothers,
      Item.declarationsOf, List.map_append]

end

/-- The entries of a block are its declarations. -/
theorem entries_styleOf {b : Block} {s : Style} (h : styleOf b = .ok s) :
    entriesOf s.rules = (Item.declarationsOf b.items).map entryOf := by
  rw [styleOf, bind_eq_ok] at h
  obtain ⟨ms, hms, h⟩ := h
  obtain ⟨rs, hrs, h⟩ := bind_eq_ok.1 h
  cases h
  rw [← entries_membersOf b.items hms, eq_map_of_onlyRules hrs, entries_map_rule]

/-- Every entry of a source is found among its tokens. -/
theorem exists_slice_of_entry {source : String} {styles : List Style}
    (h : parseStyles source = .ok styles) {s : Style} (hs : s ∈ styles) {e : Entry}
    (he : e ∈ entriesOf s.rules) :
    ∃ (d : Slice) (t : Token) (v : List Char),
      Tokens source.toList d.lexemes ∧ d.Declares t v ∧ e = entryOf (t, v) := by
  rw [parseStyles, bind_eq_ok] at h
  obtain ⟨blocks, houtline, hblocks⟩ := h
  obtain ⟨b, hb, hstyle⟩ := exists_of_mem_mapM hblocks hs
  rw [entries_styleOf hstyle, List.mem_map] at he
  obtain ⟨⟨t, v⟩, hmem, rfl⟩ := he
  have hdeclared : (t, v) ∈ Block.declarations blocks := List.mem_flatMap.2 ⟨b, hb, hmem⟩
  obtain ⟨d, htokens, hdeclares⟩ := exists_slice houtline hdeclared
  exact ⟨d, t, v, htokens, hdeclares, rfl⟩

end ScopedCss

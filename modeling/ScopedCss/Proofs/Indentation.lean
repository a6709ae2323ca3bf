import ScopedCss.Proofs.Outcomes
import ScopedCss.Proofs.Printing
import ScopedCss.Text.Blank

/-! Layouts of one stylesheet. The parameters of a template come from the rule tree alone, and what
is printed of a rule tree is, but for its blanks, put together from its names, properties and values
in the same way on every line and at every depth. So layouts differ in blanks only. -/
namespace ScopedCss

/-! ### Parameters -/

/-- The parameter for a class name, or the name if it has no slot. -/
def SlotTable.param (table : SlotTable) (n : String) : Except String Param :=
  match table.slot? n with
  | none => .error n
  | some i => .ok (.slot i)

/-- What a rule itself asks for: the slots of its header and then the values of its entries. -/
def Rule.params (table : SlotTable) (r : Rule) : Except String (List Param) :=
  (r.header.classnames.mapM table.param).map (· ++ r.entries.map fun e => .value e.value)

/-- What rules ask for, one after the other. -/
def paramsOf (table : SlotTable) (rules : List Rule) : Except String (List Param) :=
  (rules.mapM (Rule.params table)).map List.flatten

section Params
variable {table : SlotTable} {config : Config}

theorem paramsOf_append (rs rs' : List Rule) :
    paramsOf table (rs ++ rs') = do
      let first ← paramsOf table rs
      let others ← paramsOf table rs'
      return first ++ others := by
  rw [paramsOf, List.mapM_append, paramsOf, paramsOf]
  cases rs.mapM (Rule.params table) with
  | error e => rfl
  | ok first =>
    cases rs'.mapM (Rule.params table) with
    | error e => rfl
    | ok others => exact congrArg Except.ok List.flatten_append

theorem paramsOf_singleton (r : Rule) : paramsOf table [r] = r.params table := by
  rw [paramsOf, List.mapM_cons]
  cases r.params table with
  | error e => rfl
  | ok ps => exact congrArg Except.ok (List.append_nil ps)

theorem Template.params_ofParts (ps : List Part) :
    (Template.ofParts table config ps).map Template.params =
      (ps.filterMap Part.name?).mapM table.param := by
  induction ps with
  | nil => rfl
  | cons p ps ih =>
    cases p with
    | raw s =>
      refine Eq.trans ?_ ih
      rw [Template.ofParts]
      cases Template.ofParts table config ps <;> rfl
    | classname n =>
      show _ = (n :: ps.filterMap Part.name?).mapM table.param
      rw [List.mapM_cons, ← ih, SlotTable.param, Template.ofParts]
      cases table.slot? n with
      | none => rfl
      | some i => cases Template.ofParts table config ps <;> rfl

@[simp] theorem Template.params_literal (s : String) : (literal s).params = [] := rfl

theorem Template.params_ofEntries (config : Config) (depth : Nat) (es : List Entry) :
    (Template.ofEntries config depth es).params = es.map fun e => .value e.value := by
  induction es with
  | nil => rfl
  | cons e es ih =>
    have hentry : (Template.ofEntry config depth e).params = [.value e.value] := by
      unfold Template.ofEntry
      split <;> rfl
    rw [Template.ofEntries, Template.params_append, hentry, ih]
    rfl

mutual

/-- The parameters of a rule do not depend on the layout. -/
theorem Template.params_ofRule (table : SlotTable) (config : Config) (depth : Nat) : (r : Rule) →
    (Template.ofRule table config depth r).map Template.params = paramsOf table r.walk
  | .plain h es => by
    rw [Rule.walk, paramsOf_singleton, Rule.params, Rule.header, Header.classnames,
      ← Template.params_ofParts, Template.ofRule]
    cases Template.ofParts table config h.parts with
    | error n => rfl
    | ok t =>
      have hbody := params_ofEntries config depth es
      by_cases hpretty : config.pretty
      · refine Eq.trans (congrArg _ (if_pos hpretty)) (congrArg Except.ok ?_)
        simp [hbody, Rule.entries]
      · refine Eq.trans (congrArg _ (if_neg hpretty)) (congrArg Except.ok ?_)
        simp [hbody, Rule.entries]
  | .nested h rs => by
    -- a class name that is missing in the header is found before those in the body, as in the walk
    have hbody := Template.params_ofRules table config (depth + 1) rs
    rw [Rule.walk, ← List.singleton_append, paramsOf_append, ← hbody, paramsOf_singleton,
      Rule.params, Rule.header, Header.classnames, ← Template.params_ofParts, Template.ofRule]
    cases Template.ofParts table config h.parts with
    | error n => rfl
    | ok t =>
      cases Template.ofRules table config (depth + 1) rs with
      | error n => rfl
      | ok u => exact congrArg Except.ok (by simp [Rule.entries])

theorem Template.params_ofRules (table : SlotTable) (config : Config) (depth : Nat) :
    (rs : List Rule) →
      (Template.ofRules table config depth rs).map Template.params =
        paramsOf table (Rule.walkAll rs)
  | [] => rfl
  | r :: rs => by
    rw [Rule.walkAll, paramsOf_append, ← Template.params_ofRule table config depth r,
      ← Template.params_ofRules table config depth rs, Template.ofRules]
    cases Template.ofRule table config depth r with
    | error n => rfl
    | ok t => cases Template.ofRules table config depth rs <;> rfl

end

/-- What a table gives parameters for has all its class names there. -/
theorem SlotTable.covers_of_paramsOf {rules : List Rule} {ps : List Param}
    (h : paramsOf table (Rule.walkAll rules) = .ok ps) : table.Covers rules := by
  obtain ⟨pss, hpss, -⟩ := map_eq_ok.1 h
  intro q hq
  obtain ⟨r, hr, hq⟩ := List.mem_flatMap.1 hq
  obtain ⟨n, hn, rfl⟩ := List.mem_map.1 hq
  obtain ⟨_, hparams⟩ := exists_ok_of_mapM hpss hr
  obtain ⟨_, hslots, -⟩ := map_eq_ok.1 hparams
  obtain ⟨p, hp⟩ := exists_ok_of_mapM hslots hn
  by_contra hmissing
  have hnone : table.slot? n = none := List.idxOf?_eq_none_iff.2 hmissing
  rw [SlotTable.param, hnone] at hp
  cases hp

end Params

/-! ### Letters that are not blank -/

def Letter.isBlank : Letter → Bool
  | .char c => Text.isBlank c
  | .half _ => false

namespace Text

/-- The letters of a text that are not blank. -/
def solid (t : Text) : List Letter := t.letters.filter fun l => !l.isBlank

@[simp] theorem solid_append (t u : Text) : (t ++ u).solid = t.solid ++ u.solid := by
  rw [solid, letters_append, List.filter_append, solid, solid]

@[simp] theorem solid_string_append (s s' : String) :
    (ofString (s ++ s')).solid = (ofString s).solid ++ (ofString s').solid := by
  rw [← ofString_append, solid_append]

theorem solid_eq_nil {s : String} : (ofString s).solid = [] ↔ s.toList.all isBlank := by
  simp [solid, Letter.isBlank]

end Text

def Settings.hasBlankIndent (s : Settings) : Bool := s.indent.toList.all Text.isBlank

/-! ### Printing without blanks -/

namespace Press
variable {p p' : Press}

theorem solid_margin (hp : p.config.hasBlankIndent) (depth : Nat) :
    (Text.ofString (p.margin depth)).solid = [] := by
  induction depth with
  | zero => rfl
  | succ depth ih =>
    rw [margin]
    split
    · rw [Text.solid_string_append, ih, Text.solid_eq_nil.2 hp, List.append_nil]
    · rfl

/-- The letters of what is printed that are not blank. -/
def ink (t : Option Text) : Option (List Letter) := t.map Text.solid

theorem ink_append (a b : Option Text) :
    ink (do
      let x ← a
      let y ← b
      return x ++ y) = do
      let x ← ink a
      let y ← ink b
      return x ++ y := by
  cases a with
  | none => rfl
  | some x => cases b <;> simp [ink]

theorem ink_entry (hp : p.config.hasBlankIndent) (depth i : Nat) (e : Entry) :
    ink (p.entry depth i e) = do
      let v ← p.values[i]?
      return (Text.ofString e.property).solid ++ .char ':' :: (v.solid ++ [.char ';']) := by
  have hcolon : (Text.ofString ": ").solid = [.char ':'] := by decide
  have hline : (Text.ofString ";\n").solid = [.char ';'] := by decide
  have hstop : (Text.ofString ";").solid = [.char ';'] := by decide
  have hspace : (Text.ofString " ").solid = [] := by decide
  unfold entry
  cases p.values[i]? with
  | none => rfl
  | some v =>
    by_cases hpretty : p.config.pretty
    · simp [ink, hpretty, solid_margin hp, hcolon, hline]
    · simp [ink, hpretty, hcolon, hstop, hspace]

/-- A head and a body in braces. -/
def inkBlock (head body : Option (List Letter)) : Option (List Letter) := do
  let x ← head
  let y ← body
  return x ++ .char '\x7b' :: (y ++ [.char '\x7d'])

theorem ink_framed {before between after : String} (hbefore : (Text.ofString before).solid = [])
    (hbetween : (Text.ofString between).solid = [.char '\x7b'])
    (hafter : (Text.ofString after).solid = [.char '\x7d']) (head body : Option Text) :
    ink (do
      let x ← head
      let y ← body
      return before ++ x ++ between ++ y ++ after) = inkBlock (ink head) (ink body) := by
  cases head with
  | none => rfl
  | some x =>
    cases body with
    | none => rfl
    | some y => simp [ink, inkBlock, hbefore, hbetween, hafter]

theorem solid_closing (hp : p.config.hasBlankIndent) (depth : Nat) :
    (Text.ofString (p.margin depth ++ "\x7d\n")).solid = [.char '\x7d'] := by
  rw [Text.solid_string_append, solid_margin hp]
  decide

theorem ink_plain (hp : p.config.hasBlankIndent) (depth i : Nat) (h : Header) (es : List Entry) :
    ink (p.rule depth i (.plain h es)) =
      inkBlock (ink (p.parts h.parts)) (ink (p.entries depth i es)) := by
  rw [rule]
  by_cases hpretty : p.config.pretty
  · simp only [hpretty, if_true]
    exact ink_framed (solid_margin hp depth) (by decide) (solid_closing hp depth) _ _
  · -- a compact rule is framed too, by an empty text in front
    have hcompact := ink_framed (rfl : (Text.ofString "").solid = [])
      (by decide : (Text.ofString " \x7b").solid = _)
      (by decide : (Text.ofString " \x7d\n").solid = _) (p.parts h.parts) (p.entries depth i es)
    simpa [hpretty, Text.empty_append] using hcompact

theorem ink_nested (hp : p.config.hasBlankIndent) (depth i : Nat) (h : Header) (rs : List Rule) :
    ink (p.rule depth i (.nested h rs)) =
      inkBlock (ink (p.parts h.parts)) (ink (p.rules (depth + 1) i rs)) := by
  rw [rule]
  exact ink_framed (solid_margin hp depth) (by decide) (solid_closing hp depth) _ _

/-- Two presses that write the same names and values and indent with blanks. -/
structure Alike (p p' : Press) : Prop where
  names : p'.names = p.names
  values : p'.values = p.values
  indent : p.config.hasBlankIndent
  indent' : p'.config.hasBlankIndent

theorem Alike.parts (h : p.Alike p') (ps : List Part) : p'.parts ps = p.parts ps := by
  induction ps with
  | nil => rfl
  | cons part ps ih => cases part <;> simp only [Press.parts, ih, h.names]

theorem Alike.entries (h : p.Alike p') (depth depth' i : Nat) (es : List Entry) :
    ink (p'.entries depth' i es) = ink (p.entries depth i es) := by
  induction es generalizing i with
  | nil => rfl
  | cons e es ih =>
    rw [Press.entries, Press.entries, ink_append, ink_append, ih, ink_entry h.indent,
      ink_entry h.indent', h.values]

-- margins are blank, so the two depths need not be the same
mutual

/-- A rule is printed with the same letters in every layout, but for the blanks. -/
theorem Alike.rule (h : p.Alike p') (depth depth' i : Nat) : (r : Rule) →
    ink (p'.rule depth' i r) = ink (p.rule depth i r)
  | .plain header es => by
    rw [ink_plain h.indent, ink_plain h.indent', h.parts, h.entries depth depth' i es]
  | .nested header rs => by
    rw [ink_nested h.indent, ink_nested h.indent', h.parts,
      h.rules (depth + 1) (depth' + 1) i rs]

theorem Alike.rules (h : p.Alike p') (depth depth' i : Nat) : (rs : List Rule) →
    ink (p'.rules depth' i rs) = ink (p.rules depth i rs)
  | [] => rfl
  | r :: rs => by
    rw [Press.rules, Press.rules, ink_append, ink_append, h.rule depth depth' i r,
      h.rules depth depth' _ rs]

end

end Press

/-! ### Layouts -/

/-- The class names of a table as they are written with slots that count from a start. -/
def SlotTable.writtenNames (table : SlotTable) (c : Config) (start : Int) :
    List (String × String) :=
  CompiledStyle.classNames ⟨{}, table, .empty, c⟩ start

theorem SlotTable.numbers_writtenNames (table : SlotTable) (c : Config) (start : Int)
    (values : List Text) :
    Press.Numbers ⟨c, table.writtenNames c start, values⟩ table start :=
  CompiledStyle.numbers_classNames ⟨{}, table, .empty, c⟩ start values

section Assembled
variable {table : SlotTable} {c : Config} {rules : List Rule} {t : Template}

theorem Template.prints_assemble (h : Template.assemble table c rules = .ok t) {start : Int}
    {names : List (String × String)} {values : List Text}
    (hn : Press.Numbers ⟨c, names, values⟩ table start) :
    t.Prints start values ((entriesOf rules).map Entry.value) fun i =>
      Press.rules ⟨c, names, values⟩ 0 i rules := by
  have hparams := params_ofRules table c 0 rules
  rw [show ofRules table c 0 rules = _ from h] at hparams
  obtain ⟨t', ht', hprints⟩ := Press.prints_rules hn 0 rules
    (SlotTable.covers_of_paramsOf hparams.symm)
  cases h.symm.trans ht'
  exact hprints

theorem Template.expressions_assemble (h : Template.assemble table c rules = .ok t) :
    t.expressions = (entriesOf rules).map Entry.value :=
  (prints_assemble h (table.numbers_writtenNames c 0 [])).expressions_eq

/-- With a value for each entry there is a stylesheet. -/
theorem Template.exists_render (h : Template.assemble table c rules = .ok t) (start : Int)
    {values : List Text} (hlength : (entriesOf rules).length ≤ values.length) :
    ∃ text, t.render start values = .ok text := by
  cases hrender : t.render start values with
  | ok text => exact ⟨text, rfl⟩
  | error e =>
    rw [render_eq_error_iff, expressions_assemble h, List.getElem?_map,
      List.getElem?_eq_none hlength] at hrender
    cases hrender

end Assembled

/-- Layouts of a rule tree ask for the same parameters, whatever class names start with. The values
among them are those of the entries, depth first. With one start of class names and indents of
blanks, the rendered stylesheets have the same letters but for the blanks. -/
theorem layouts_render_alike (rules : List Rule) (c c' : Config) :
    (∃ t, Template.assemble (SlotTable.ofRules rules) c rules = .ok t) ∧
    ∀ table, (Template.assemble table c' rules).map Template.params =
        (Template.assemble table c rules).map Template.params ∧
      ∀ t t', Template.assemble table c rules = .ok t → Template.assemble table c' rules = .ok t' →
        t.expressions = (entriesOf rules).map Entry.value ∧
        t'.expressions = (entriesOf rules).map Entry.value ∧
        (c'.classPrefix = c.classPrefix → c.hasBlankIndent → c'.hasBlankIndent →
          ∀ start values, (entriesOf rules).length ≤ values.length → ∃ text text',
            t.render start values = .ok text ∧ t'.render start values = .ok text' ∧
              text'.solid = text.solid) := by
  refine ⟨?_, fun table => ⟨?_, fun t t' ht ht' => ?_⟩⟩
  · obtain ⟨t, ht, -⟩ := Press.prints_rules (SlotTable.numbers_writtenNames _ c 0 []) 0 rules
      (SlotTable.covers_ofRules rules)
    exact ⟨t, ht⟩
  · rw [Template.assemble, Template.assemble, Template.params_ofRules, Template.params_ofRules]
  refine ⟨Template.expressions_assemble ht, Template.expressions_assemble ht', ?_⟩
  intro hstarts hindent hindent' start values hlength
  obtain ⟨text, htext⟩ := Template.exists_render ht start hlength
  obtain ⟨text', htext'⟩ := Template.exists_render ht' start hlength
  refine ⟨text, text', htext, htext', ?_⟩
  -- both presses write the names of the first layout, which are those of the second one too
  have hnumbers := table.numbers_writtenNames c start values
  have hnumbers' : Press.Numbers ⟨c', table.writtenNames c start, values⟩ table start := by
    intro n
    rw [hstarts]
    exact hnumbers n
  have halike : Press.Alike ⟨c, table.writtenNames c start, values⟩
      ⟨c', table.writtenNames c start, values⟩ := ⟨rfl, rfl, hindent, hindent'⟩
  have hsame := halike.rules 0 0 0 rules
  rw [← (Template.prints_assemble ht hnumbers).render_eq 0,
    ← (Template.prints_assemble ht' hnumbers').render_eq 0, List.drop_zero, htext, htext'] at hsame
  exact Option.some.inj hsame

/-- An at-rule with a rule that has a value with a brace and a space in it, and an empty rule. -/
theorem layouts_render_alike_nested :
    let rules : List Rule :=
      [.nested ⟨[.raw "@media print"], none, true⟩
        [.plain ⟨[.classname "a", .raw ":hover"], none, false⟩ [⟨"--b", "x", none⟩]],
        .plain ⟨[.classname "a"], none, false⟩ []]
    let compact : Config := { classPrefix := "c-" }
    let pretty : Config := { classPrefix := "c-", pretty := true, indent := "\t" }
    let line : Text :=
      "@media print \x7b\n.c-7:hover \x7b --b: \x7b 1; \x7d\n\x7d\n.c-7 \x7b \x7d\n"
    let lines : Text :=
      "@media print \x7b\n\t.c-7:hover \x7b\n\t\t--b: \x7b 1;\n\t\x7d\n\x7d\n.c-7 \x7b\n\x7d\n"
    ∃ t t', Template.assemble (SlotTable.ofRules rules) compact rules = .ok t ∧
      Template.assemble (SlotTable.ofRules rules) pretty rules = .ok t' ∧
      t.expressions = ["x"] ∧ t'.expressions = ["x"] ∧
      t.render 7 ["\x7b 1"] = .ok line ∧ t'.render 7 ["\x7b 1"] = .ok lines ∧
      lines.solid = line.solid := by
  intro rules compact pretty line lines
  have htable : SlotTable.ofRules rules = ⟨[("a", none)]⟩ := by
    rw [SlotTable.ofRules_eq]
    show SlotTable.mk ((Check.sortNames ["a"]).map _) = _
    rw [Check.sortNames, List.mergeSort_singleton]
    rfl
  obtain ⟨t, ht, hline⟩ : ∃ t,
      Template.assemble (SlotTable.ofRules rules) compact rules = .ok t ∧
        t.render 7 ["\x7b 1"] = .ok line := bind_eq_ok.1 (by rw [htable]; decide +kernel)
  obtain ⟨t', ht', hlines⟩ : ∃ t',
      Template.assemble (SlotTable.ofRules rules) pretty rules = .ok t' ∧
        t'.render 7 ["\x7b 1"] = .ok lines := bind_eq_ok.1 (by rw [htable]; decide +kernel)
  obtain ⟨-, halike⟩ := layouts_render_alike rules compact pretty
  obtain ⟨hasks, hasks', hrenders⟩ := (halike (SlotTable.ofRules rules)).2 t t' ht ht'
  obtain ⟨text, text', htext, htext', hsolid⟩ :=
    hrenders rfl (by decide) (by decide) 7 ["\x7b 1"] (by decide)
  cases hline.symm.trans htext
  cases hlines.symm.trans htext'
  exact ⟨t, t', ht, ht', hasks, hasks', hline, hlines, hsolid⟩

end ScopedCss

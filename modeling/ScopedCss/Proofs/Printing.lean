import Mathlib.Data.String.Basic
import ScopedCss.Compile
import ScopedCss.Failure
import ScopedCss.Proofs.Filling
import ScopedCss.Proofs.FirstOccurrences

/-! Stylesheets printed straight from a rule tree, without a template between. Class names and
values are looked up where they are written: a class name in the names of an instance, a value by
the position of its entry in depth-first order. -/
namespace ScopedCss

/-- The entries of a rule list, depth first. -/
def entriesOf (rules : List Rule) : List Entry := (Rule.walkAll rules).flatMap Rule.entries

/-- What a rule tree is printed with. -/
structure Press where
  config : Config
  /-- The class names that are written for those of the tree. -/
  names : List (String × String)
  /-- The texts of the values. -/
  values : List Text

namespace Press

/-- The indentation of a line. -/
def margin (p : Press) : Nat → String
  | 0 => ""
  | depth + 1 => if p.config.pretty then margin p depth ++ p.config.indent else ""

def parts (p : Press) : List Part → Option Text
  | [] => some ""
  | .raw t :: ps => do
    let others ← parts p ps
    return t ++ others
  | .classname n :: ps => do
    let name ← p.names.lookup n
    let others ← parts p ps
    return ("." ++ name : String) ++ others

/-- The entry at a position. -/
def entry (p : Press) (depth i : Nat) (e : Entry) : Option Text := do
  let v ← p.values[i]?
  if p.config.pretty then
    return (p.margin (depth + 1) ++ e.property ++ ": " : String) ++ v ++ ";\n"
  else return (" " ++ e.property ++ ": " : String) ++ v ++ ";"

def entries (p : Press) (depth i : Nat) : List Entry → Option Text
  | [] => some ""
  | e :: es => do
    let first ← p.entry depth i e
    let others ← entries p depth (i + 1) es
    return first ++ others

mutual

/-- A rule whose first entry is at a position. -/
def rule (p : Press) (depth i : Nat) : Rule → Option Text
  | .plain h es => do
    let head ← p.parts h.parts
    let body ← p.entries depth i es
    if p.config.pretty then
      return p.margin depth ++ head ++ " \x7b\n" ++ body ++ (p.margin depth ++ "\x7d\n" : String)
    else return head ++ " \x7b" ++ body ++ " \x7d\n"
  | .nested h rs => do
    let head ← p.parts h.parts
    let body ← rules p (depth + 1) i rs
    return p.margin depth ++ head ++ " \x7b\n" ++ body ++ (p.margin depth ++ "\x7d\n" : String)

def rules (p : Press) (depth i : Nat) : List Rule → Option Text
  | [] => some ""
  | r :: rs => do
    let first ← rule p depth i r
    let others ← rules p depth (i + (entriesOf [r]).length) rs
    return first ++ others

end

/-- The stylesheet of a rule tree; none if a class name or a value is missing. -/
def sheet (p : Press) (rs : List Rule) : Option Text := p.rules 0 0 rs

end Press

/-! ### Templates that print -/

/-- A template that is well formed, asks for some expressions and, filled with the values from a
position on, is what is printed from that position. -/
structure Template.Prints (start : Int) (values : List Text) (t : Template)
    (expressions : List String) (print : Nat → Option Text) : Prop where
  holes : Template.holes? t.text.toList = some t.params.length
  expressions_eq : t.expressions = expressions
  render_eq : ∀ i, (t.render start (values.drop i)).toOption = print i

namespace Template

variable {start : Int} {values : List Text} {a b : Template} {es fs : List String}
  {f g : Nat → Option Text}

theorem Prints.append (ha : a.Prints start values es f) (hb : b.Prints start values fs g) :
    (a ++ b).Prints start values (es ++ fs) fun i => do
      let x ← f i
      let y ← g (i + es.length)
      return x ++ y where
  holes := by
    rw [text_append, String.toList_append, holes?_append ha.holes, hb.holes, params_append,
      List.length_append, Option.map_some]
  expressions_eq := by rw [expressions_append, ha.expressions_eq, hb.expressions_eq]
  render_eq := by
    intro i
    rw [render_append ha.holes, List.drop_drop, ha.expressions_eq, ← ha.render_eq i,
      ← hb.render_eq (i + es.length)]
    cases a.render start (values.drop i) with
    | error e => rfl
    | ok x => cases b.render start (values.drop (i + es.length)) <;> rfl

theorem prints_empty : empty.Prints start values [] fun _ => some "" where
  holes := rfl
  expressions_eq := rfl
  render_eq := fun _ => rfl

theorem prints_literal (s : String) :
    (literal s).Prints start values [] fun _ => some (s : Text) where
  holes := by simp [literal, holes?_doubleBraces]
  expressions_eq := rfl
  render_eq := by
    intro i
    have hf : (literal s).render start (values.drop i) =
        .ok (.ofLetters (fill (doubleBraces s.toList) [])) := by
      simp [literal, render, arguments, Except.map]
    rw [hf, fill_doubleBraces, ← Text.letters_ofString, Text.ofLetters_letters]
    rfl

theorem fill_hole (x : Text) : Text.ofLetters (fill hole [x]) = x := by
  rw [show fill hole [x] = x.letters by simp [hole, fill], Text.ofLetters_letters]

theorem prints_value (e : String) : (value e).Prints start values [e] fun i => values[i]? where
  holes := by simp [value, hole, holes?]
  expressions_eq := rfl
  render_eq := by
    intro i
    rw [← List.head?_drop]
    cases values.drop i with
    | nil => rfl
    | cons v vs => simp [value, render, arguments, Except.map, Except.toOption, fill_hole]

/-- The number that ends a class name. -/
theorem prints_slot (slot : Nat) :
    Prints start values ⟨String.ofList hole, [.slot slot]⟩ [] fun _ =>
      some (toString (start + slot) : String) where
  holes := by simp [hole, holes?]
  expressions_eq := rfl
  render_eq := by
    intro i
    simp [render, arguments, Except.map, Except.toOption, fill_hole]

theorem classname_eq_append (classPrefix : String) (slot : Nat) :
    classname classPrefix slot =
      literal ("." ++ classPrefix) ++ ⟨String.ofList hole, [.slot slot]⟩ := by
  have ht : (classname classPrefix slot).text =
      (literal ("." ++ classPrefix)).text ++ String.ofList hole := by
    rw [← String.toList_inj]
    simp [classname, literal, doubleBraces_cons]
  exact congrArg (Template.mk · [.slot slot]) ht

theorem prints_classname (classPrefix : String) (slot : Nat) :
    (classname classPrefix slot).Prints start values [] fun _ =>
      some ("." ++ (classPrefix ++ toString (start + slot)) : String) := by
  rw [classname_eq_append, ← String.append_assoc]
  exact (prints_literal _).append (prints_slot slot)

theorem Prints.of_eq (h : a.Prints start values es f) (he : es = fs) (hf : ∀ i, f i = g i) :
    a.Prints start values fs g := by
  obtain rfl : f = g := funext hf
  exact he ▸ h

/-- A head and a body with literal texts around them. -/
theorem Prints.framed {head : Option Text} (ha : a.Prints start values [] fun _ => head)
    (hb : b.Prints start values es g) (before between after : String) :
    (literal before ++ a ++ literal between ++ b ++ literal after).Prints start values es
      fun i => do
        let x ← head
        let y ← g i
        return before ++ x ++ between ++ y ++ after := by
  refine (((((prints_literal before).append ha).append (prints_literal between)).append
    hb).append (prints_literal after)).of_eq (by simp) fun i => ?_
  simp [Option.bind_assoc]

end Template

/-! ### Entries and class names of a tree -/

theorem entriesOf_cons (r : Rule) (rs : List Rule) :
    entriesOf (r :: rs) = entriesOf [r] ++ entriesOf rs := by
  simp [entriesOf, Rule.walkAll]

theorem entriesOf_plain (h : Header) (es : List Entry) : entriesOf [.plain h es] = es := by
  simp [entriesOf, Rule.walkAll, Rule.walk, Rule.entries]

theorem entriesOf_nested (h : Header) (rs : List Rule) :
    entriesOf [.nested h rs] = entriesOf rs := by
  simp [entriesOf, Rule.walkAll, Rule.walk, Rule.entries]

theorem classnameParts_nested (h : Header) (rs : List Rule) :
    classnameParts [.nested h rs] =
      h.classnames.map (fun n => (n, h.location)) ++ classnameParts rs := by
  rw [classnameParts, Rule.walkAll, Rule.walk, Rule.walkAll, List.append_nil, List.flatMap_cons]
  rfl

namespace SlotTable

/-- A table that has every class name of a rule list. -/
def Covers (table : SlotTable) (rules : List Rule) : Prop :=
  ∀ q ∈ classnameParts rules, q.1 ∈ table.names

variable {table : SlotTable} {h : Header} {r : Rule} {rs : List Rule}

theorem covers_cons : table.Covers (r :: rs) ↔ table.Covers [r] ∧ table.Covers rs := by
  simp only [Covers, classnameParts, Rule.walkAll, List.flatMap_append, List.append_nil,
    List.forall_mem_append]

theorem covers_plain {es : List Entry} :
    table.Covers [.plain h es] ↔ ∀ n ∈ h.classnames, n ∈ table.names := by
  simp [Covers, classnameParts, Rule.walkAll, Rule.walk, Rule.header]

theorem covers_nested :
    table.Covers [.nested h rs] ↔ (∀ n ∈ h.classnames, n ∈ table.names) ∧ table.Covers rs := by
  rw [Covers, classnameParts_nested, List.forall_mem_append, List.forall_mem_map, Covers]

theorem exists_slot {n : String} (hn : n ∈ table.names) : ∃ i, table.slot? n = some i := by
  rw [← Option.isSome_iff_exists, slot?, List.isSome_idxOf?]
  exact hn

/-- The table of a rule tree has all its class names. -/
theorem covers_ofRules (rules : List Rule) : (ofRules rules).Covers rules := by
  intro q hq
  rw [names_ofRules, Check.sortNames, List.mem_mergeSort, Check.mem_map_firstOccurrences]
  exact List.mem_map_of_mem hq

end SlotTable

/-! ### From the template of a tree to its stylesheet -/

namespace Press

/-- The press writes the class names of a table with slots that count from a start. -/
def Numbers (p : Press) (table : SlotTable) (start : Int) : Prop :=
  ∀ n, p.names.lookup n =
    (table.slot? n).map fun i : Nat => p.config.classPrefix ++ toString (start + i)

variable {p : Press} {table : SlotTable} {start : Int}

theorem pad_eq_margin (p : Press) (depth : Nat) : Template.pad p.config depth = p.margin depth := by
  unfold Template.pad
  induction depth with
  | zero => simp [margin]
  | succ depth ih =>
    rw [margin, ← ih]
    by_cases hp : p.config.pretty
    · simp only [hp, if_true, List.replicate_succ']
      simp [String.join_append]
    · simp [hp]

theorem prints_parts (hp : p.Numbers table start) {ps : List Part}
    (hc : ∀ n ∈ ps.filterMap Part.name?, n ∈ table.names) :
    ∃ t, Template.ofParts table p.config ps = .ok t ∧
      t.Prints start p.values [] fun _ => p.parts ps := by
  induction ps with
  | nil => exact ⟨.empty, rfl, Template.prints_empty⟩
  | cons part ps ih =>
    cases part with
    | raw s =>
      obtain ⟨t, ht, hprints⟩ := ih hc
      refine ⟨.literal s ++ t, by rw [Template.ofParts, ht]; rfl, ?_⟩
      exact (Template.prints_literal s).append hprints
    | classname n =>
      have hc : ∀ m ∈ n :: ps.filterMap Part.name?, m ∈ table.names := hc
      rw [List.forall_mem_cons] at hc
      obtain ⟨t, ht, hprints⟩ := ih hc.2
      obtain ⟨i, hi⟩ := SlotTable.exists_slot hc.1
      refine ⟨.classname p.config.classPrefix i ++ t, by rw [Template.ofParts, hi, ht]; rfl, ?_⟩
      refine ((Template.prints_classname _ i).append hprints).of_eq rfl fun _ => ?_
      rw [parts, hp n, hi]
      rfl

theorem prints_entry (p : Press) (start : Int) (depth : Nat) (e : Entry) :
    (Template.ofEntry p.config depth e).Prints start p.values [e.value] fun i =>
      p.entry depth i e := by
  unfold Template.ofEntry entry
  by_cases hp : p.config.pretty
  · simp only [hp, if_true]
    refine (((Template.prints_literal _).append (Template.prints_value _)).append
      (Template.prints_literal _)).of_eq rfl fun i => ?_
    simp [margin, hp, pad_eq_margin, Option.bind_assoc]
  · simp only [hp]
    refine (((Template.prints_literal _).append (Template.prints_value _)).append
      (Template.prints_literal _)).of_eq rfl fun i => ?_
    simp [Option.bind_assoc]

theorem prints_entries (p : Press) (start : Int) (depth : Nat) (es : List Entry) :
    (Template.ofEntries p.config depth es).Prints start p.values (es.map Entry.value) fun i =>
      p.entries depth i es := by
  induction es with
  | nil => exact Template.prints_empty
  | cons e es ih => exact (p.prints_entry start depth e).append ih

mutual

theorem prints_rule (hp : p.Numbers table start) (depth : Nat) :
    (r : Rule) → table.Covers [r] →
      ∃ t, Template.ofRule table p.config depth r = .ok t ∧
        t.Prints start p.values ((entriesOf [r]).map Entry.value) fun i => p.rule depth i r
  | .plain h es, hc => by
    obtain ⟨t, ht, hhead⟩ := prints_parts hp (SlotTable.covers_plain.1 hc)
    have hbody := p.prints_entries start depth es
    rw [Template.ofRule, ht, entriesOf_plain]
    by_cases hpretty : p.config.pretty
    · refine ⟨_, if_pos hpretty, (hhead.framed hbody _ _ _).of_eq rfl fun i => ?_⟩
      simp [rule, hpretty, pad_eq_margin]
    · refine ⟨_, if_neg hpretty, (hhead.framed hbody _ _ _).of_eq rfl fun i => ?_⟩
      simp [rule, hpretty, Template.pad, Text.empty_append]
  | .nested h rs, hc => by
    obtain ⟨hnames, hrules⟩ := SlotTable.covers_nested.1 hc
    obtain ⟨t, ht, hhead⟩ := prints_parts hp hnames
    obtain ⟨u, hu, hbody⟩ := prints_rules hp (depth + 1) rs hrules
    rw [Template.ofRule, ht, hu, entriesOf_nested]
    refine ⟨_, rfl, (hhead.framed hbody _ _ _).of_eq rfl fun i => ?_⟩
    rw [rule, pad_eq_margin]

theorem prints_rules (hp : p.Numbers table start) (depth : Nat) :
    (rs : List Rule) → table.Covers rs →
      ∃ t, Template.ofRules table p.config depth rs = .ok t ∧
        t.Prints start p.values ((entriesOf rs).map Entry.value) fun i => p.rules depth i rs
  | [], _ => ⟨.empty, rfl, Template.prints_empty⟩
  | r :: rs, hc => by
    obtain ⟨hfirst, hothers⟩ := SlotTable.covers_cons.1 hc
    obtain ⟨t, ht, htr⟩ := prints_rule hp depth r hfirst
    obtain ⟨u, hu, hur⟩ := prints_rules hp depth rs hothers
    rw [Template.ofRules, ht, hu, entriesOf_cons]
    refine ⟨t ++ u, rfl, (htr.append hur).of_eq List.map_append.symm fun i => ?_⟩
    rw [rules, List.length_map]

end

end Press

/-! ### Whole stylesheets -/

theorem lookup_zipIdx (names : List String) (write : Nat → String) (n : String) (first : Nat) :
    ((names.zipIdx first).map fun q => (q.1, write q.2)).lookup n =
      (names.idxOf? n).map fun i => write (first + i) := by
  induction names generalizing first with
  | nil => rfl
  | cons m names ih =>
    rw [List.zipIdx_cons, List.map_cons, List.lookup_cons, List.idxOf?_cons, ih]
    by_cases h : m = n
    · simp [h]
    · have hmn : (n == m) = false := by simpa using Ne.symm h
      have hs : ∀ i, write (first + 1 + i) = write (first + (i + 1)) := by
        intro i
        rw [Nat.add_right_comm, Nat.add_assoc]
      simp [h, hmn, hs, Function.comp_def]

/-- The names of an instance are those of its table, numbered from its start. -/
theorem CompiledStyle.numbers_classNames (c : CompiledStyle) (start : Int) (values : List Text) :
    (Press.mk c.config (c.classNames start) values).Numbers c.table start := by
  intro n
  have h := lookup_zipIdx c.table.names (fun i => c.config.classPrefix ++ toString (start + i)) n 0
  simp only [Nat.zero_add] at h
  exact h

/-- Filling the template of a rule tree gives what is printed from the tree itself, with the class
names of an instance and the values by position; it fails for the first entry without a value. -/
theorem render_assemble (signature : Signature) (config : Config) (rules : List Rule) (start : Int)
    (values : List Text) :
    let table := SlotTable.ofRules rules
    ∃ t, Template.assemble table config rules = .ok t ∧
      Template.holes? t.text.toList = some t.params.length ∧
      let names := CompiledStyle.classNames ⟨signature, table, t, config⟩ start
      (∀ text, t.render start values = .ok text ↔
        (Press.mk config names values).sheet rules = some text) ∧
      ((∃ text, t.render start values = .ok text) ↔ (entriesOf rules).length ≤ values.length) ∧
      ∀ e, (entriesOf rules)[values.length]? = some e →
        ∃ failure, (t.render start values).mapError Failure.missingValue = .error failure ∧
          failure.kind = "ValueError" ∧
          failure.message = "Missing value for expression " ++ Text.quote e.value := by
  intro table
  -- the names come from the table alone, so the template is not needed to have them
  let c : CompiledStyle := ⟨signature, table, .empty, config⟩
  obtain ⟨t, ht, hprints⟩ := Press.prints_rules (c.numbers_classNames start values) 0 rules
    (SlotTable.covers_ofRules rules)
  have hsheet := hprints.render_eq 0
  have herror (e : String) : t.render start values = .error e ↔
      ((entriesOf rules).map Entry.value)[values.length]? = some e := by
    rw [Template.render_eq_error_iff, hprints.expressions_eq]
  refine ⟨t, ht, hprints.holes, ?_, ?_, ?_⟩
  · intro text
    change _ ↔ Press.rules ⟨c.config, c.classNames start, values⟩ 0 0 rules = some text
    rw [← hsheet, List.drop_zero]
    cases t.render start values <;> simp [Except.toOption]
  · rw [← List.length_map Entry.value, ← List.getElem?_eq_none_iff]
    cases hr : t.render start values with
    | error e => simp [(herror e).1 hr]
    | ok text =>
      have hnone (e : String) : ((entriesOf rules).map Entry.value)[values.length]? ≠ some e := by
        rw [Ne, ← herror, hr]
        intro h
        cases h
      exact ⟨fun _ => Option.eq_none_iff_forall_ne_some.2 hnone, fun _ => ⟨text, rfl⟩⟩
  · intro e he
    have hr := (herror e.value).2 (by rw [List.getElem?_map, he]; rfl)
    exact ⟨.missingValue e.value, by rw [hr]; rfl, rfl, rfl⟩

end ScopedCss

import Mathlib.Data.List.Sort
import ScopedCss.Proofs.CheckedNames
import ScopedCss.Proofs.Outcomes
import ScopedCss.Proofs.Printing
import ScopedCss.Proofs.WellFormed

/-! Slots depend on which class names a rule tree has and on nothing else. The names are sorted, so
neither the order of rules nor how they are nested nor how often a name is used has a part in it.
Rules that change places therefore take their share of the stylesheet along as it is. -/
namespace ScopedCss

/-! ### Class names of a tree -/

/-- A rule that stands in a list of rules, or inside one of them at any depth. -/
inductive Rule.Inside (r : Rule) : List Rule → Prop
  | here {rs : List Rule} (h : r ∈ rs) : Inside r rs
  | deeper {header : Header} {children rs : List Rule} (h : .nested header children ∈ rs)
      (hr : Inside r children) : Inside r rs

theorem Rule.Inside.mono {r : Rule} {rs qs : List Rule} (h : r.Inside rs) (hsub : rs ⊆ qs) :
    r.Inside qs := by
  cases h with
  | here hr => exact .here (hsub hr)
  | deeper ho hr => exact .deeper (hsub ho) hr

mutual

theorem Rule.inside_of_mem_walk {r : Rule} : (outer : Rule) → r ∈ outer.walk → r.Inside [outer]
  | .plain h es, hr => by
    rw [Rule.walk] at hr
    exact .here hr
  | .nested h rs, hr => by
    rw [Rule.walk, List.mem_cons] at hr
    rcases hr with rfl | hr
    · exact .here List.mem_cons_self
    · exact .deeper List.mem_cons_self (inside_of_mem_walkAll rs hr)

theorem Rule.inside_of_mem_walkAll {r : Rule} : (rs : List Rule) → r ∈ Rule.walkAll rs →
    r.Inside rs
  | [], hr => by cases hr
  | outer :: rs, hr => by
    rw [Rule.walkAll, List.mem_append] at hr
    rcases hr with hr | hr
    · exact (inside_of_mem_walk outer hr).mono (by simp)
    · exact (inside_of_mem_walkAll rs hr).mono (List.subset_cons_self outer rs)

end

/-- Going through a tree finds all its rules. -/
theorem Rule.mem_walkAll_iff {r : Rule} {rs : List Rule} : r ∈ Rule.walkAll rs ↔ r.Inside rs := by
  refine ⟨inside_of_mem_walkAll rs, fun h => ?_⟩
  induction h with
  | @here rs h =>
    refine Rule.mem_walkAll.2 ⟨r, h, ?_⟩
    cases r <;> exact List.mem_cons_self
  | deeper h _ ih =>
    refine Rule.mem_walkAll.2 ⟨_, h, ?_⟩
    rw [Rule.walk]
    exact List.mem_cons_of_mem _ ih

/-- A class name that some header of a tree has, at any depth. -/
def Mentions (rules : List Rule) (n : String) : Prop :=
  ∃ r : Rule, r.Inside rules ∧ n ∈ r.header.classnames

theorem mentions_of_perm {rules others : List Rule} (h : others.Perm rules) (n : String) :
    Mentions others n ↔ Mentions rules n :=
  exists_congr fun _ => and_congr_left fun _ => ⟨(·.mono h.subset), (·.mono h.symm.subset)⟩

theorem mentions_iff {rules : List Rule} {n : String} :
    Mentions rules n ↔ n ∈ (classnameParts rules).map (·.1) := by
  simp [Mentions, classnameParts, List.map_flatMap, Rule.mem_walkAll_iff, Function.comp_def]

/-- Names that are all different are sorted into a strict order. -/
theorem Check.pairwise_sortNames {names : List String} (hnodup : names.Nodup) :
    (sortNames names).Pairwise (· < ·) := by
  have hsorted : (sortNames names).Pairwise (· ≤ ·) := by
    refine (List.pairwise_mergeSort ?_ ?_ _).imp of_decide_eq_true
    · intro a b c hab hbc
      exact decide_eq_true (le_trans (of_decide_eq_true hab) (of_decide_eq_true hbc))
    · intro a b
      simpa using le_total a b
  have hdistinct : (sortNames names).Nodup := (List.mergeSort_perm _ _).nodup_iff.2 hnodup
  exact (hsorted.and hdistinct).imp fun h => lt_of_le_of_ne h.1 h.2

namespace SlotTable

/-! ### First occurrences -/

theorem lookup_map_pair {β : Type} (n : String) (f : String → β) (names : List String) :
    (names.map fun m => (m, f m)).lookup n = if n ∈ names then some (f n) else none := by
  induction names with
  | nil => rfl
  | cons m names ih =>
    rw [List.map_cons, List.lookup_cons, ih]
    by_cases hm : n = m
    · simp [hm]
    · simp [hm, beq_eq_false_iff_ne.2 hm]

theorem lookup_classnames (n : String) (rs : List Rule) :
    (rs.flatMap fun r => r.header.classnames.map fun m => (m, r.header.location)).lookup n =
      (rs.find? fun r => decide (n ∈ r.header.classnames)).map (·.header.location) := by
  induction rs with
  | nil => rfl
  | cons r rs ih =>
    rw [List.flatMap_cons, List.lookup_append, ih, lookup_map_pair, List.find?_cons]
    by_cases hn : n ∈ r.header.classnames <;> simp [hn]

/-- The table keeps the location of the first header that has a name. -/
theorem location?_ofRules (rules : List Rule) (n : String) :
    (ofRules rules).location? n =
      ((Rule.walkAll rules).find? fun r => decide (n ∈ r.header.classnames)).bind
        (·.header.location) := by
  have hfirst : ((classnameParts rules).lookup n).join =
      ((Rule.walkAll rules).find? fun r => decide (n ∈ r.header.classnames)).bind
        (·.header.location) := by
    rw [classnameParts, lookup_classnames]
    cases (Rule.walkAll rules).find? fun r => decide (n ∈ r.header.classnames) <;> rfl
  rw [← hfirst, ← Check.lookup_firstOccurrences, location?, ofRules_eq, lookup_map_pair]
  split
  · rfl
  · rename_i habsent
    -- a name without an entry has no occurrence either
    rw [Check.sortNames, List.mem_mergeSort] at habsent
    have hnone : (Check.firstOccurrences (classnameParts rules)).lookup n = none := by
      refine List.lookup_eq_none_iff.2 fun p hp => ?_
      rw [bne_iff_ne]
      rintro rfl
      exact habsent (List.mem_map_of_mem hp)
    rw [hnone]

/-! ### Sorted names -/

theorem pairwise_names (rules : List Rule) : (ofRules rules).names.Pairwise (· < ·) := by
  rw [names_ofRules]
  exact Check.pairwise_sortNames (Check.nodup_firstOccurrences _)

theorem mem_names_ofRules {rules : List Rule} {n : String} :
    n ∈ (ofRules rules).names ↔ Mentions rules n := by
  rw [names_ofRules, Check.sortNames, List.mem_mergeSort, Check.mem_map_firstOccurrences,
    mentions_iff]

theorem length_names (t : SlotTable) : t.names.length = t.size := List.length_map _

theorem slot?_eq_some_iff {rules : List Rule} {n : String} {i : Nat} :
    (ofRules rules).slot? n = some i ↔ (ofRules rules).names[i]? = some n := by
  rw [slot?, List.idxOf?_eq_some_iff, List.getElem?_eq_some_iff]
  refine exists_congr fun hi => and_iff_left_of_imp ?_
  rintro rfl j hj heq
  have hne := List.pairwise_iff_getElem.1 (pairwise_names rules) j i (by omega) hi hj
  exact absurd heq (ne_of_lt hne)

theorem lt_of_getElem?_names {rules : List Rule} {m n : String} {i j : Nat}
    (hi : (ofRules rules).names[i]? = some m) (hj : (ofRules rules).names[j]? = some n)
    (hij : i < j) : m < n := by
  obtain ⟨hil, rfl⟩ := List.getElem?_eq_some_iff.1 hi
  obtain ⟨hjl, rfl⟩ := List.getElem?_eq_some_iff.1 hj
  exact List.pairwise_iff_getElem.1 (pairwise_names rules) i j hil hjl hij

/-- A table as a rule tree has to have it. -/
structure Canonical (table : SlotTable) (rules : List Rule) : Prop where
  mem_names : ∀ n, n ∈ table.names ↔ Mentions rules n
  /-- Every name has a slot, and nothing else has. -/
  slotted : ∀ n, n ∈ table.names ↔ ∃ i, table.slot? n = some i
  /-- The slots are the numbers below the size. -/
  onto : ∀ i, i < table.size ↔ ∃ n, table.slot? n = some i
  /-- Slots follow the order of the names by code points, so no two names share one. -/
  increasing : ∀ m n i j, table.slot? m = some i → table.slot? n = some j → (i < j ↔ m < n)
  getElem?_names : ∀ i n, table.names[i]? = some n ↔ table.slot? n = some i
  mem_slots : ∀ n i, (n, i) ∈ table.slots ↔ table.slot? n = some i
  /-- The location of a name is that of the first rule whose header has it. -/
  location : ∀ n ∈ table.names, ∃ before r after, Rule.walkAll rules = before ++ r :: after ∧
    (∀ q ∈ before, n ∉ q.header.classnames) ∧ n ∈ r.header.classnames ∧
      table.location? n = r.header.location

theorem canonical_ofRules (rules : List Rule) : (ofRules rules).Canonical rules where
  mem_names := fun _ => mem_names_ofRules
  slotted := by
    intro n
    simp only [slot?_eq_some_iff, List.mem_iff_getElem?]
  onto := by
    intro i
    simp only [slot?_eq_some_iff]
    rw [← length_names, ← Option.isSome_iff_exists, isSome_getElem?]
  increasing := by
    intro m n i j hi hj
    rw [slot?_eq_some_iff] at hi hj
    refine ⟨lt_of_getElem?_names hi hj, fun hmn => ?_⟩
    by_contra hij
    rcases Nat.lt_or_eq_of_le (Nat.le_of_not_lt hij) with hji | rfl
    · exact lt_asymm hmn (lt_of_getElem?_names hj hi hji)
    · exact hmn.ne (Option.some.inj (hi.symm.trans hj))
  getElem?_names := fun _ _ => slot?_eq_some_iff.symm
  mem_slots := by
    intro n i
    rw [slots, List.mem_zipIdx_iff_getElem?, slot?_eq_some_iff]
  location := by
    intro n hn
    obtain ⟨r, hr, hown⟩ := mem_names_ofRules.1 hn
    have hsome : ((Rule.walkAll rules).find? fun r => decide (n ∈ r.header.classnames)).isSome :=
      List.find?_isSome.2 ⟨r, Rule.mem_walkAll_iff.2 hr, decide_eq_true hown⟩
    obtain ⟨first, hfirst⟩ := Option.isSome_iff_exists.1 hsome
    obtain ⟨hfound, before, after, hsplit, hbefore⟩ := List.find?_eq_some_iff_append.1 hfirst
    refine ⟨before, first, after, hsplit, ?_, of_decide_eq_true hfound, ?_⟩
    · intro q hq
      simpa using hbefore q hq
    · rw [location?_ofRules, hfirst, Option.bind_some]

/-- Trees with the same class names have the same sorted names. -/
theorem names_congr {rules others : List Rule} (h : ∀ n, Mentions rules n ↔ Mentions others n) :
    (ofRules rules).names = (ofRules others).names := by
  refine (pairwise_names rules).eq_of_mem_iff (pairwise_names others) fun n => ?_
  rw [mem_names_ofRules, mem_names_ofRules, h]

theorem covers_of_mem {table : SlotTable} {rules : List Rule} (h : table.Covers rules) {r : Rule}
    (hr : r ∈ rules) : table.Covers [r] := by
  induction rules with
  | nil => cases hr
  | cons q rules ih =>
    obtain ⟨hfirst, hothers⟩ := covers_cons.1 h
    rcases List.mem_cons.1 hr with rfl | hr
    · exact hfirst
    · exact ih hothers hr

end SlotTable

/-! ### Parts of a stylesheet -/

namespace Template

variable {a b : SlotTable} {config : Config}

theorem ofParts_congr (h : a.slot? = b.slot?) (ps : List Part) :
    ofParts a config ps = ofParts b config ps := by
  induction ps with
  | nil => rfl
  | cons part ps ih => cases part <;> simp only [ofParts, h, ih]

mutual

theorem ofRule_congr (h : a.slot? = b.slot?) (depth : Nat) : (r : Rule) →
    ofRule a config depth r = ofRule b config depth r
  | .plain header es => by simp only [ofRule, ofParts_congr h]
  | .nested header rs => by simp only [ofRule, ofParts_congr h, ofRules_congr h (depth + 1) rs]

theorem ofRules_congr (h : a.slot? = b.slot?) (depth : Nat) : (rs : List Rule) →
    ofRules a config depth rs = ofRules b config depth rs
  | [] => rfl
  | r :: rs => by simp only [ofRules, ofRule_congr h depth r, ofRules_congr h depth rs]

end

/-- What is rendered does not depend on values that come after its own. -/
theorem arguments_append_values {start : Int} {ps : List Param} {values args : List Text}
    (h : arguments start ps values = .ok args) (more : List Text) :
    arguments start ps (values ++ more) = .ok args := by
  fun_induction arguments start ps values generalizing args with
  | case1 =>
    cases h
    rw [arguments]
  | case2 i ps values ih =>
    obtain ⟨own, hown, rfl⟩ := map_eq_ok.1 h
    rw [arguments, ih hown]
    rfl
  | case3 e ps v values ih =>
    obtain ⟨own, hown, rfl⟩ := map_eq_ok.1 h
    rw [List.cons_append, arguments, ih hown]
    rfl
  | case4 => cases h

theorem render_append_values {t : Template} {start : Int} {values : List Text} {text : Text}
    (h : t.render start values = .ok text) (more : List Text) :
    t.render start (values ++ more) = .ok text := by
  obtain ⟨args, hargs, rfl⟩ := map_eq_ok.1 h
  rw [render, arguments_append_values hargs more]
  rfl

/-- The part of a stylesheet that a rule makes, with the values of its own entries. -/
def chunk (table : SlotTable) (config : Config) (start : Int) (part : Rule × List Text) :
    Except String Text := do
  let t ← ofRule table config 0 part.1
  t.render start part.2

/-- A rule with one value for each of its entries. -/
def Supplied (part : Rule × List Text) : Prop := part.2.length = (entriesOf [part.1]).length

variable {table : SlotTable} {part : Rule × List Text} {parts : List (Rule × List Text)}

theorem exists_chunk (config : Config) (start : Int) (hc : table.Covers [part.1])
    (hs : Supplied part) :
    ∃ t text, ofRule table config 0 part.1 = .ok t ∧
      holes? t.text.toList = some t.params.length ∧ t.expressions.length = part.2.length ∧
        t.render start part.2 = .ok text := by
  let c : CompiledStyle := ⟨{}, table, .empty, config⟩
  obtain ⟨t, ht, hprints⟩ := Press.prints_rule (c.numbers_classNames start part.2) 0 part.1 hc
  have hlength : t.expressions.length = part.2.length := by
    rw [hprints.expressions_eq, List.length_map, hs]
  cases hrender : t.render start part.2 with
  | error e =>
    have hmissing := (render_eq_error_iff t start part.2 e).1 hrender
    rw [← hlength, List.getElem?_eq_none (Nat.le_refl _)] at hmissing
    cases hmissing
  | ok text => exact ⟨t, text, ht, hprints.holes, hlength, hrender⟩

/-- The stylesheet of a list of rules is made of their parts, one after another. -/
theorem render_parts {config : Config} {start : Int} {written : Rule × List Text → Text}
    (hc : table.Covers (parts.map (·.1))) (hs : ∀ part ∈ parts, Supplied part)
    (hw : ∀ part ∈ parts, chunk table config start part = .ok (written part)) :
    ∃ t, ofRules table config 0 (parts.map (·.1)) = .ok t ∧
      t.render start (parts.flatMap (·.2)) = .ok (Text.join (parts.map written)) := by
  induction parts with
  | nil => exact ⟨.empty, rfl, rfl⟩
  | cons part parts ih =>
    obtain ⟨hfirst, hothers⟩ := SlotTable.covers_cons.1 hc
    obtain ⟨t, text, ht, hholes, hlength, htext⟩ :=
      exists_chunk config start hfirst (hs part List.mem_cons_self)
    obtain ⟨u, hu, hrest⟩ := ih hothers (fun q hq => hs q (List.mem_cons_of_mem _ hq))
      fun q hq => hw q (List.mem_cons_of_mem _ hq)
    have hown : written part = text := by
      have hchunk := hw part List.mem_cons_self
      rw [chunk, ht] at hchunk
      exact (Except.ok.inj (htext.symm.trans hchunk)).symm
    refine ⟨t ++ u, by rw [List.map_cons, ofRules, ht, hu]; rfl, ?_⟩
    rw [List.flatMap_cons, render_append hholes, hlength, List.drop_left,
      render_append_values htext, hrest, List.map_cons, Text.join_cons, hown]
    rfl

/-- Rules in another order make the same parts of a stylesheet, in that order. -/
theorem exists_written (config : Config) (start : Int) (hs : ∀ part ∈ parts, Supplied part) :
    ∃ written : Rule × List Text → Text,
      (∀ part ∈ parts,
        chunk (.ofRules (parts.map (·.1))) config start part = .ok (written part)) ∧
      ∀ moved : List (Rule × List Text), moved.Perm parts →
        ∃ t, assemble (.ofRules (moved.map (·.1))) config (moved.map (·.1)) = .ok t ∧
          t.render start (moved.flatMap (·.2)) = .ok (Text.join (moved.map written)) := by
  have hcovers := SlotTable.covers_ofRules (parts.map (·.1))
  have htexts (part : Rule × List Text) : ∃ text, part ∈ parts →
      chunk (.ofRules (parts.map (·.1))) config start part = .ok text := by
    by_cases hpart : part ∈ parts
    · have hcovered := SlotTable.covers_of_mem hcovers (List.mem_map_of_mem hpart)
      obtain ⟨t, text, ht, -, -, htext⟩ := exists_chunk config start hcovered (hs part hpart)
      exact ⟨text, fun _ => by rw [chunk, ht]; exact htext⟩
    · exact ⟨"", fun h => absurd h hpart⟩
  choose written hwritten using htexts
  refine ⟨written, hwritten, fun moved hperm => ?_⟩
  have hrules := hperm.map Prod.fst
  -- the table of the moved rules knows the same slots, so their templates are the same
  have hslots : (SlotTable.ofRules (moved.map (·.1))).slot? =
      (SlotTable.ofRules (parts.map (·.1))).slot? := by
    funext n
    rw [SlotTable.slot?, SlotTable.slot?, SlotTable.names_congr (mentions_of_perm hrules)]
  refine render_parts (SlotTable.covers_ofRules _) (fun q hq => hs q (hperm.mem_iff.1 hq))
    fun q hq => ?_
  rw [chunk, ofRule_congr hslots]
  exact hwritten q (hperm.mem_iff.1 hq)

end Template

/-- Slots depend only on which class names a tree has. Its table lists them in code-point order,
each with its place as its slot and with the location of its first occurrence; trees with the same
class names have the same slots and names of instances; and rules that change places take along the
part of the stylesheet that they make, each part as it was. -/
theorem slots_canonical (rules : List Rule) :
    (SlotTable.ofRules rules).Canonical rules ∧
      (∀ others, (∀ n, Mentions others n ↔ Mentions rules n) →
        (SlotTable.ofRules others).slots = (SlotTable.ofRules rules).slots ∧
        ∀ signature signature' template template' config start,
          CompiledStyle.classNames ⟨signature', .ofRules others, template', config⟩ start =
            CompiledStyle.classNames ⟨signature, .ofRules rules, template, config⟩ start) ∧
      ∀ config start (parts : List (Rule × List Text)), parts.map (·.1) = rules →
        (∀ part ∈ parts, Template.Supplied part) →
        ∃ written : Rule × List Text → Text,
          (∀ part ∈ parts,
            Template.chunk (.ofRules rules) config start part = .ok (written part)) ∧
          ∀ moved : List (Rule × List Text), moved.Perm parts →
            ∃ t, Template.assemble (.ofRules (moved.map (·.1))) config (moved.map (·.1)) = .ok t ∧
              t.render start (moved.flatMap (·.2)) = .ok (Text.join (moved.map written)) := by
  refine ⟨SlotTable.canonical_ofRules rules, ?_, ?_⟩
  · intro others h
    have hslots : (SlotTable.ofRules others).slots = (SlotTable.ofRules rules).slots := by
      rw [SlotTable.slots, SlotTable.slots, SlotTable.names_congr h]
    refine ⟨hslots, fun signature signature' template template' config start => ?_⟩
    rw [CompiledStyle.classNames, CompiledStyle.classNames, hslots]
  · rintro config start parts rfl hs
    exact Template.exists_written config start hs

/-- A rule behind a nested one that shares its class name. Moved in front of it, each is written as
before, with the same slots. -/
theorem slots_canonical_swapped :
    let screen : Rule := .nested ⟨[.raw "@media print"], some ⟨1, 3⟩, true⟩
      [.plain ⟨[.classname "b", .raw " > ", .classname "a"], some ⟨1, 18⟩, false⟩
        [⟨"color", "theme.ink", none⟩]]
    let button : Rule := .plain ⟨[.classname "b"], some ⟨2, 3⟩, false⟩ [⟨"top", "0", none⟩]
    (SlotTable.ofRules [button, screen]).slots = [("a", 0), ("b", 1)] ∧
      (SlotTable.ofRules [button, screen]).slots = (SlotTable.ofRules [screen, button]).slots ∧
      (SlotTable.ofRules [screen, button]).location? "b" = some ⟨1, 18⟩ ∧
      ∃ t, Template.assemble (.ofRules [button, screen]) {} [button, screen] = .ok t ∧
        t.render 7 ["0", "red"] =
          .ok (".css-8 \x7b top: 0; \x7d\n" ++
            "@media print \x7b\n.css-8 > .css-7 \x7b color: red; \x7d\n\x7d\n" : String) := by
  intro screen button
  obtain ⟨-, hsame, hmoved⟩ := slots_canonical [screen, button]
  have hswap : [button, screen].Perm [screen, button] := .swap _ _ _
  obtain ⟨written, hwritten, hchunks⟩ := hmoved {} 7 [(screen, ["red"]), (button, ["0"])] rfl
    (by
      intro part hpart
      rcases List.mem_pair.1 hpart with rfl | rfl <;> rfl)
  obtain ⟨t, ht, hrender⟩ := hchunks [(button, ["0"]), (screen, ["red"])] (.swap _ _ _)
  have hnames : Check.sortNames ["b", "a"] = ["a", "b"] := by
    refine (Check.pairwise_sortNames (by decide)).eq_of_mem_iff (by decide) fun n => ?_
    rw [Check.sortNames, List.mem_mergeSort, List.mem_pair, List.mem_pair, or_comm]
  have htable : SlotTable.ofRules [screen, button] =
      ⟨[("a", some ⟨1, 18⟩), ("b", some ⟨1, 18⟩)]⟩ := by
    rw [SlotTable.ofRules_eq]
    show SlotTable.mk ((Check.sortNames ["b", "a"]).map _) = _
    rw [hnames]
    rfl
  rw [htable] at hwritten
  have hscreen : written (screen, ["red"]) =
      ("@media print \x7b\n.css-8 > .css-7 \x7b color: red; \x7d\n\x7d\n" : String) :=
    Except.ok.inj ((hwritten _ (by simp)).symm.trans (by decide +kernel))
  have hbutton : written (button, ["0"]) = (".css-8 \x7b top: 0; \x7d\n" : String) :=
    Except.ok.inj ((hwritten _ (by simp)).symm.trans (by decide +kernel))
  have hslots := (hsame _ (mentions_of_perm hswap)).1
  refine ⟨hslots.trans (by rw [htable]; rfl), hslots, by rw [htable]; rfl, t, ht, ?_⟩
  refine hrender.trans ?_
  rw [List.map_cons, List.map_cons, List.map_nil, hscreen, hbutton]
  rfl

end ScopedCss

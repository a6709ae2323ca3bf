import Mathlib.Data.List.TakeWhile
import ScopedCss.Proofs.Captures
import ScopedCss.Proofs.Outcomes
import ScopedCss.Proofs.Selectors

/-! What can be relied on in blocks that were read. A header comes from a name or from a literal,
and either way its parts meet where a selector can be cut; a body holds what its header asks for;
and a property stands in the source where its entry says it does, as a name or as a literal. -/
namespace ScopedCss

open Text (isWordChar)
open Source

/-! ### Headers -/

/-- Neither kind of part is empty, and each holds only what it may. -/
def Part.WellFormed : Part → Prop
  | .raw text => text ≠ "" ∧ '.' ∉ text.toList
  | .classname name => name ≠ "" ∧ ∀ c ∈ name.toList, isWordChar c

/-- How a part may stand directly behind another: literal texts do not touch, and one behind a class
name neither goes on with the name nor starts with a hyphen. -/
def Part.Meets : Part → Part → Prop
  | _, .classname _ => True
  | .raw _, .raw _ => False
  | .classname _, .raw text => ∀ c, text.toList.head? = some c → isWordChar c = false ∧ c ≠ '-'

structure Header.WellFormed (h : Header) : Prop where
  /-- The prelude of an at-rule is a single text. -/
  prelude : h.isAtRule → ∃ r, h.parts = [.raw (String.ofList ('@' :: r))]
  nonempty : h.isAtRule = false → h.parts ≠ []
  /-- Only the preludes of at-rules start with an at sign. -/
  start : h.isAtRule = false → h.text.toList.head? ≠ some '@'
  parts : h.isAtRule = false → ∀ p ∈ h.parts, p.WellFormed
  meets : h.isAtRule = false → h.parts.IsChain Part.Meets
  trimmed : Trimmed h.text.toList

namespace Selector

/-- A literal text at the front of a selector that is cut starts as the selector does. -/
theorem head?_of_split {cs : List Char} {text : String} {others : List Part}
    (h : split cs = .ok (.raw text :: others)) (hne : text ≠ "") :
    text.toList.head? = cs.head? := by
  have hnil : (Part.raw text).text.toList ≠ [] := by simpa [Part.text] using hne
  have htext := text_of_split h
  rw [List.flatMap_cons] at htext
  rw [← htext, List.head?_append_of_ne_nil _ hnil]
  rfl

/-- The parts that a selector is cut into are well formed and meet as they may. -/
theorem wellFormed_of_split {cs : List Char} {parts : List Part} (h : split cs = .ok parts) :
    (∀ p ∈ parts, p.WellFormed) ∧ parts.IsChain Part.Meets := by
  fun_induction split cs generalizing parts with
  | case1 =>
    cases h
    exact ⟨by simp, .nil⟩
  | case2 r | case3 r => cases h
  | case4 r name hname hhyphen =>
    rename_i ih
    obtain ⟨others, hothers, rfl⟩ := map_eq_ok.1 h
    obtain ⟨hparts, hmeets⟩ := ih hothers
    refine ⟨List.forall_mem_cons.2 ⟨⟨?_, fun c hc => ?_⟩, hparts⟩, ?_⟩
    · simpa using hname
    · rw [String.toList_ofList] at hc
      exact List.mem_takeWhile_imp hc
    · rcases others with _ | ⟨text | n, tail⟩
      · exact .singleton _
      · refine hmeets.cons_cons fun c hc => ?_
        rw [head?_of_split hothers (hparts _ List.mem_cons_self).1] at hc
        refine ⟨head?_dropWhile hc, ?_⟩
        rintro rfl
        exact hhyphen hc
      · exact hmeets.cons_cons trivial
  | case5 c r hc ih =>
    obtain ⟨others, hothers, rfl⟩ := map_eq_ok.1 h
    obtain ⟨hparts, hmeets⟩ := ih hothers
    refine ⟨List.forall_mem_cons.2 ⟨⟨by simp, ?_⟩, hparts⟩, ?_⟩
    · rw [String.toList_ofList, List.mem_cons, not_or]
      refine ⟨fun hdot => hc hdot.symm, fun hdot => ?_⟩
      simpa using List.mem_takeWhile_imp hdot
    · rcases others with _ | ⟨text | n, tail⟩
      · exact .singleton _
      · -- the text ends at a dot, and a literal text holds none
        obtain ⟨hne, hdot⟩ := hparts _ List.mem_cons_self
        have hnil : text.toList ≠ [] := by simpa using hne
        obtain ⟨d, more, htext⟩ := List.exists_cons_of_ne_nil hnil
        have hhead := head?_of_split hothers hne
        rw [htext] at hhead hdot
        have hd : d = '.' := by simpa using head?_dropWhile hhead.symm
        exact absurd (hd ▸ List.mem_cons_self) hdot
      · exact hmeets.cons_cons trivial

/-- What is read from a literal is well formed. -/
theorem wellFormed_of_parse {literal : String} {location : Option Location} {h : Header}
    (hparse : parse literal location = .ok h) : h.WellFormed := by
  have htext := text_of_parse hparse
  have htrimmed : Trimmed h.text.toList := htext ▸ trimmed_trim literal.toList
  rcases (parse_eq_ok_iff.1 hparse).2 with ⟨r, -, hparts, hat⟩ | ⟨c, r, hr, hc, hsplit, hat⟩
  · have hnot {p : Prop} (hno : h.isAtRule = false) : p := by
      rw [hat] at hno
      cases hno
    exact ⟨fun _ => ⟨r, hparts⟩, hnot, hnot, hnot, hnot, htrimmed⟩
  · obtain ⟨hparts, hmeets⟩ := wellFormed_of_split hsplit
    refine ⟨fun hno => ?_, fun _ hnil => ?_, fun _ hstart => ?_, fun _ => hparts, fun _ => hmeets,
      htrimmed⟩
    · rw [hat] at hno
      cases hno
    · have hcs := text_of_split hsplit
      rw [hnil] at hcs
      cases hcs
    · rw [htext, hr] at hstart
      exact hc (Option.some.inj hstart)

end Selector

theorem Header.Written.wellFormed {h : Header} (hh : h.Written) : h.WellFormed := by
  rcases hh with ⟨n, hne, hn, l, rfl⟩ | ⟨literal, location, hparse⟩
  · exact Selector.wellFormed_of_parse (Selector.parse_identifier hne hn l)
  · exact Selector.wellFormed_of_parse hparse

/-! ### Heads in outlines -/

namespace Source

variable {P : Token → Prop}

mutual

/-- All headers and properties in an item are tokens of a kind. -/
def Item.Headed (P : Token → Prop) : Item → Prop
  | .rule t items => P t ∧ Item.HeadedAll P items
  | .entry t _ => P t

def Item.HeadedAll (P : Token → Prop) : List Item → Prop
  | [] => True
  | i :: is => i.Headed P ∧ Item.HeadedAll P is

end

theorem Item.headedAll_iff {items : List Item} :
    Item.HeadedAll P items ↔ ∀ i ∈ items, i.Headed P := by
  induction items with
  | nil => simp [Item.HeadedAll]
  | cons i is ih => rw [Item.HeadedAll, ih, List.forall_mem_cons]

def Scope.Headed (P : Token → Prop) : Scope → Prop
  | .block _ items => ∀ i ∈ items, i.Headed P
  | .rule t items outer => P t ∧ (∀ i ∈ items, i.Headed P) ∧ outer.Headed P

def Stage.Headed (P : Token → Prop) : Stage → Prop
  | .item s | .separator s => s.Headed P
  | .head t s | .value t _ _ s => P t ∧ s.Headed P
  | _ => True

structure Reader.Headed (P : Token → Prop) (r : Reader) : Prop where
  done : ∀ b ∈ r.done, ∀ i ∈ b.items, i.Headed P
  stage : r.stage.Headed P

theorem Scope.Headed.add {s : Scope} {i : Item} (hs : s.Headed P) (hi : i.Headed P) :
    (s.add i).Headed P := by
  cases s with
  | block signature items => exact List.forall_mem_cons.2 ⟨hi, hs⟩
  | rule t items outer => exact ⟨hs.1, List.forall_mem_cons.2 ⟨hi, hs.2.1⟩, hs.2.2⟩

theorem Reader.headed_close {done : List Block} {s : Scope}
    (hdone : ∀ b ∈ done, ∀ i ∈ b.items, i.Headed P) (hs : s.Headed P) :
    (Reader.close done s).Headed P := by
  cases s with
  | block signature items =>
    refine ⟨fun b hb => ?_, trivial⟩
    rcases List.mem_append.1 hb with hold | hnew
    · exact hdone b hold
    · rw [List.mem_singleton.1 hnew]
      exact fun i hi => hs i (List.mem_reverse.1 hi)
  | rule t items outer =>
    obtain ⟨ht, hitems, houter⟩ := hs
    refine ⟨hdone, houter.add ⟨ht, Item.headedAll_iff.2 fun i hi => ?_⟩⟩
    exact hitems i (List.mem_reverse.1 hi)

/-- Only names and string literals become headers and properties. -/
theorem Reader.Headed.step {r r' : Reader} {gap : List Char} {t : Token} (h : r.Headed P)
    (ht : t.terminal = .name ∨ t.terminal = .string → P t) (hstep : r.step gap t = some r') :
    r'.Headed P := by
  obtain ⟨done, stage⟩ := r
  obtain ⟨hdone, hstage⟩ := h
  by_cases hv : ∃ property pieces c s, stage = .value property pieces c s
  · obtain ⟨property, pieces, c, s, rfl⟩ := hv
    have hadd := hstage.2.add (i := .entry property (Reader.joined pieces)) hstage.1
    rcases step_value_cases hstep with ⟨c', -, rfl⟩ | ⟨-, -, ⟨-, rfl⟩ | ⟨-, rfl⟩⟩
    · exact ⟨hdone, hstage⟩
    · exact ⟨hdone, hadd⟩
    · exact Reader.headed_close hdone hadd
  · simp only [Reader.step] at hstep
    split at hstep
    case h_18 => exact absurd ⟨_, _, _, _, rfl⟩ hv
    all_goals cases hstep
    case h_1 | h_10 => exact ⟨hdone, by simp [Stage.Headed, Scope.Headed]⟩
    case h_11 hname => exact ⟨hdone, ht (.inl hname), hstage⟩
    case h_12 hstring => exact ⟨hdone, ht (.inr hstring), hstage⟩
    case h_13 | h_17 => exact Reader.headed_close hdone hstage
    case h_15 => exact ⟨hdone, hstage.1, by simp, hstage.2⟩
    all_goals exact ⟨hdone, hstage⟩

/-- A name or a string literal that stands in a source where its location says. -/
structure Token.StandsIn (source : List Char) (t : Token) : Prop where
  place : ∃ before after, source = before ++ (t.text ++ after) ∧
    t.location = Location.start.after before
  text : t.terminal.Matches t.text
  kind : t.terminal = .name ∨ t.terminal = .string

theorem headed_readFrom {source : List Char} {r : Reader} {last here : Location} {cs : List Char}
    {blocks : List Block} (h : readFrom r last here cs = .ok blocks) {before : List Char}
    (hsource : source = before ++ cs) (hhere : here = Location.start.after before)
    (hr : r.Headed (Token.StandsIn source)) :
    ∀ b ∈ blocks, ∀ i ∈ b.items, i.Headed (Token.StandsIn source) := by
  refine readFrom_induction (motive := fun r _ here cs => ∀ before, source = before ++ cs →
    here = Location.start.after before → r.Headed (Token.StandsIn source) →
      ∀ b ∈ blocks, ∀ i ∈ b.items, i.Headed (Token.StandsIn source)) ?_ ?_ h before hsource hhere hr
  · rintro r _ here cs - - rfl before - - hr
    exact hr.done
  · intro r _ here cs gap c rest cut r' hgap hscan hstep _ ih before hsource hhere hr
    have hcs := splitGap_append false cs
    rw [hgap, ← (scan?_of hscan).append] at hcs
    have hplace : source = before ++ gap ++ (cut.text ++ cut.rest) := by
      rw [hsource, ← hcs, List.append_assoc]
    have hafter : here.after gap = Location.start.after (before ++ gap) := by
      rw [hhere, Location.after_append]
    refine ih (before ++ gap ++ cut.text) ?_ ?_ (hr.step (fun hkind => ?_) hstep)
    · rw [hplace, List.append_assoc (before ++ gap)]
    · rw [hafter, ← Location.after_append]
    · exact ⟨⟨before ++ gap, cut.rest, hplace, hafter⟩, (matches_of_scan? hscan).2, hkind⟩

end Source

/-! ### Blocks -/

/-- An entry whose property stands in a source where its location says, as a name, which gives a
property without underscores, or as a string literal. -/
def Entry.WrittenIn (source : List Char) (e : Entry) : Prop :=
  ∃ before w after, source = before ++ (w ++ after) ∧
    e.location = some (Location.start.after before) ∧
    (IsName w ∧ e.property.toList = w.map (fun c => if c = '_' then '-' else c) ∧
        '_' ∉ e.property.toList ∨
      Terminal.string.Matches w ∧ e.property.toList = unquote w)

def Rule.isNested : Rule → Bool
  | .plain _ _ => false
  | .nested _ _ => true

/-- A rule with a body that its header asks for. -/
structure Rule.WellFormed (source : List Char) (r : Rule) : Prop where
  body : r.isNested = r.header.isAtRule
  header : r.header.WellFormed
  entries : ∀ e ∈ r.entries, e.WrittenIn source

theorem Rule.mem_walkAll {r : Rule} {rs : List Rule} :
    r ∈ Rule.walkAll rs ↔ ∃ outer ∈ rs, r ∈ outer.walk := by
  induction rs with
  | nil => simp [Rule.walkAll]
  | cons outer rs ih => simp [Rule.walkAll, ih]

section members
variable {source : List Char}

theorem written_of_headerOf {t : Token} {h : Header} (ht : t.StandsIn source)
    (hheader : headerOf t = .ok h) : h.Written := by
  obtain ⟨-, hmatches, hkind⟩ := ht
  unfold headerOf at hheader
  split at hheader
  next => exact .inr ⟨_, _, hheader⟩
  next hnot =>
    cases hheader
    have hname := hkind.resolve_right hnot
    rw [hname] at hmatches
    have hwords := IsName.isWordChar hmatches
    obtain ⟨c, r, htext, -⟩ := hmatches
    refine .inl ⟨_, by simp [htext], fun c hc => hwords c (by simpa using hc), _, rfl⟩

theorem writtenIn_of_token {t : Token} (ht : t.StandsIn source) (value : List Char) :
    Entry.WrittenIn source ⟨propertyOf t, String.ofList value, some t.location⟩ := by
  obtain ⟨⟨before, after, hsource, hlocation⟩, hmatches, hkind⟩ := ht
  refine ⟨before, t.text, after, hsource, congrArg some hlocation, ?_⟩
  rcases hkind with hname | hstring
  · rw [hname] at hmatches
    have hproperty : (propertyOf t).toList = t.text.map fun c => if c = '_' then '-' else c := by
      simp [propertyOf, hname]
    refine .inl ⟨hmatches, hproperty, ?_⟩
    show '_' ∉ (propertyOf t).toList
    rw [hproperty]
    simp only [List.mem_map, not_exists, not_and]
    intro c _ hc
    split at hc
    next => cases hc
    next hnot => exact hnot hc
  · rw [hstring] at hmatches
    exact .inr ⟨hmatches, by simp [propertyOf, hstring]⟩

def Member.WellFormed (source : List Char) : Member → Prop
  | .rule r => ∀ inner ∈ r.walk, inner.WellFormed source
  | .entry e => e.WrittenIn source

mutual

/-- What is made of an item whose headers and properties stand in the source is well formed. -/
theorem wellFormed_memberOf : (i : Item) → {m : Member} → i.Headed (Token.StandsIn source) →
    memberOf i = .ok m → m.WellFormed source
  | .entry t v, m, hi, h => by
    cases h
    exact writtenIn_of_token hi v
  | .rule t items, m, hi, h => by
    obtain ⟨ht, hitems⟩ := hi
    rw [memberOf, bind_eq_ok] at h
    obtain ⟨header, hheader, h⟩ := h
    obtain ⟨ms, hms, h⟩ := bind_eq_ok.1 h
    have hwell := (written_of_headerOf ht hheader).wellFormed
    have hmembers := wellFormed_membersOf items hitems hms
    split_ifs at h with hat
    · obtain ⟨rs, hrs, h⟩ := bind_eq_ok.1 h
      cases h
      rw [eq_map_of_onlyRules hrs, List.forall_mem_map] at hmembers
      intro inner hinner
      rw [Rule.walk, List.mem_cons] at hinner
      rcases hinner with rfl | hinner
      · exact ⟨hat.symm, hwell, by simp [Rule.entries]⟩
      · obtain ⟨outer, houter, hwalk⟩ := Rule.mem_walkAll.1 hinner
        exact hmembers outer houter inner hwalk
    · obtain ⟨es, hes, h⟩ := bind_eq_ok.1 h
      cases h
      rw [eq_map_of_onlyEntries hes, List.forall_mem_map] at hmembers
      intro inner hinner
      rw [Rule.walk, List.mem_singleton] at hinner
      subst hinner
      exact ⟨by simpa [Rule.isNested, Rule.header] using hat, hwell, hmembers⟩

theorem wellFormed_membersOf : (items : List Item) → {ms : List Member} →
    Item.HeadedAll (Token.StandsIn source) items → membersOf items = .ok ms →
      ∀ m ∈ ms, m.WellFormed source
  | [], ms, _, h => by
    cases h
    simp
  | i :: items, ms, hitems, h => by
    rw [membersOf, bind_eq_ok] at h
    obtain ⟨m, hm, h⟩ := h
    obtain ⟨others, hothers, h⟩ := bind_eq_ok.1 h
    cases h
    exact List.forall_mem_cons.2 ⟨wellFormed_memberOf i hitems.1 hm,
      wellFormed_membersOf items hitems.2 hothers⟩

end

end members

/-- Everything that is read is well formed: every rule, however deep it stands, has the body and the
parts that its header asks for, and its entries stand in the source as they are given. -/
theorem parseStyles_wellFormed {source : String} {styles : List Style}
    (h : parseStyles source = .ok styles) :
    ∀ s ∈ styles, ∀ r ∈ Rule.walkAll s.rules, r.WellFormed source.toList := by
  obtain ⟨blocks, hread, hstyles⟩ := bind_eq_ok.1 h
  have hstart : Reader.start.Headed (Token.StandsIn source.toList) :=
    ⟨by simp [Reader.start], trivial⟩
  have hheaded := headed_readFrom hread (List.nil_append _).symm rfl hstart
  intro s hs r hr
  obtain ⟨b, hb, hstyle⟩ := exists_of_mem_mapM hstyles hs
  obtain ⟨ms, hms, hrest⟩ := bind_eq_ok.1 hstyle
  obtain ⟨rs, hrs, hrest⟩ := bind_eq_ok.1 hrest
  cases hrest
  have hmembers := wellFormed_membersOf b.items (Item.headedAll_iff.2 (hheaded b hb)) hms
  rw [eq_map_of_onlyRules hrs, List.forall_mem_map] at hmembers
  obtain ⟨outer, houter, hwalk⟩ := Rule.mem_walkAll.1 hr
  exact hmembers outer houter r hwalk

/-- Blanks around a prelude, a class name inside a selector, and an underscore in a name and in a
literal. -/
theorem parseStyles_wellFormed_media :
    parseStyles "\x7b \" @m \" \x7b \"a.b c\" \x7b m_x: 1, \"y_z\": 2 \x7d \x7d \x7d" =
      .ok [⟨{}, [.nested ⟨[.raw "@m"], some ⟨1, 3⟩, true⟩
        [.plain ⟨[.raw "a", .classname "b", .raw " c"], some ⟨1, 12⟩, false⟩
          [⟨"m-x", "1", some ⟨1, 22⟩⟩, ⟨"y_z", "2", some ⟨1, 30⟩⟩]]]⟩] ∧
    Rule.WellFormed ("\x7b \" @m \" \x7b \"a.b c\" \x7b m_x: 1, \"y_z\": 2 \x7d \x7d \x7d").toList
      (.plain ⟨[.raw "a", .classname "b", .raw " c"], some ⟨1, 12⟩, false⟩
        [⟨"m-x", "1", some ⟨1, 22⟩⟩, ⟨"y_z", "2", some ⟨1, 30⟩⟩]) := by
  have hparse : parseStyles "\x7b \" @m \" \x7b \"a.b c\" \x7b m_x: 1, \"y_z\": 2 \x7d \x7d \x7d" =
      .ok [⟨{}, [.nested ⟨[.raw "@m"], some ⟨1, 3⟩, true⟩
        [.plain ⟨[.raw "a", .classname "b", .raw " c"], some ⟨1, 12⟩, false⟩
          [⟨"m-x", "1", some ⟨1, 22⟩⟩, ⟨"y_z", "2", some ⟨1, 30⟩⟩]]]⟩] := by
    decide +kernel
  refine ⟨hparse, parseStyles_wellFormed hparse _ List.mem_cons_self _ ?_⟩
  simp [Rule.walkAll, Rule.walk]

end ScopedCss

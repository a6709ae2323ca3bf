import ScopedCss.Proofs.SlotOrder

/-!
What the checks find about class names. A name is looked at where it first occurs: two checks follow
the order of first occurrences, a third one sorts the names that occur more than once. Main
statement: each check finds exactly the names that offend it, each of them once, and puts every
finding at the place that the table of slots has for the name.
-/
namespace ScopedCss

open Text (quote isBindable)

/-! ### Occurrences in a tree -/

mutual

/-- How often the headers of a rule and of all rules inside it have a class name. -/
def Rule.uses (n : String) : Rule → Nat
  | .plain h _ => h.classnames.count n
  | .nested h rs => h.classnames.count n + usesAll n rs

/-- How often the headers of a tree have a class name. -/
def Rule.usesAll (n : String) : List Rule → Nat
  | [] => 0
  | r :: rs => uses n r + usesAll n rs

end

/-- The class names of a tree, as often as they occur. -/
def classnamesOf (rules : List Rule) : List String := (classnameParts rules).map (·.1)

theorem classnamesOf_eq_flatMap (rules : List Rule) :
    classnamesOf rules = (Rule.walkAll rules).flatMap (·.header.classnames) := by
  simp [classnamesOf, classnameParts, List.map_flatMap, Function.comp_def]

mutual

theorem Rule.count_walk (n : String) : (r : Rule) →
    (r.walk.flatMap (·.header.classnames)).count n = r.uses n
  | .plain h es => by simp [walk, uses, header]
  | .nested h rs => by
    rw [walk, uses, List.flatMap_cons, List.count_append, count_walkAll n rs]
    rfl

theorem Rule.count_walkAll (n : String) : (rs : List Rule) →
    ((walkAll rs).flatMap (·.header.classnames)).count n = usesAll n rs
  | [] => rfl
  | r :: rs => by
    rw [walkAll, usesAll, List.flatMap_append, List.count_append, count_walk n r,
      count_walkAll n rs]

end

/-- Going through a tree meets a class name as often as it is there. -/
theorem count_classnamesOf (n : String) (rules : List Rule) :
    (classnamesOf rules).count n = Rule.usesAll n rules := by
  rw [classnamesOf_eq_flatMap, Rule.count_walkAll]

namespace Check

/-! ### First occurrences -/

/-- One of two names has its first occurrence in a tree before the other one. -/
def Earlier (rules : List Rule) (a b : String) : Prop :=
  (classnamesOf rules).idxOf a < (classnamesOf rules).idxOf b

/-- The place that is kept with a name is that of its first occurrence. -/
theorem lookup_of_mem_firstOccurrences {qs : List (String × Option Location)}
    {q : String × Option Location} (h : q ∈ firstOccurrences qs) : qs.lookup q.1 = some q.2 := by
  rw [← lookup_firstOccurrences]
  exact lookup_eq_some_of_mem (nodup_firstOccurrences qs) h

theorem mem_names_firstOccurrences {rules : List Rule} {n : String} :
    n ∈ (firstOccurrences (classnameParts rules)).map (·.1) ↔ Mentions rules n := by
  rw [mem_map_firstOccurrences, mentions_iff]

end Check

/-- What the table has for a name is the place of its first occurrence. -/
theorem SlotTable.lookup_entries_ofRules {rules : List Rule} {n : String} {place : Option Location}
    (h : (classnameParts rules).lookup n = some place) :
    (ofRules rules).entries.lookup n = some place := by
  have hmentioned : n ∈ (ofRules rules).names := by
    rw [mem_names_ofRules, mentions_iff]
    exact List.mem_map_of_mem (f := (·.1)) (mem_of_lookup_eq_some h)
  rw [names_ofRules] at hmentioned
  rw [ofRules_eq, lookup_map_pair, if_pos hmentioned, Check.lookup_firstOccurrences, h]
  rfl

namespace Check

/-! ### Findings -/

/-- The findings are about exactly the class names of a tree that offend, one for each of them and
in an order. Each says what is to be said of its name, and stands at the place that the table of
slots has for it, which is that of the first occurrence. -/
def Reports (rules : List Rule) (order : String → String → Prop) (offends : String → Prop)
    (said : String → String) (ds : List Diagnostic) : Prop :=
  ∃ ns : List String, ns.Pairwise order ∧ (∀ n, n ∈ ns ↔ offends n) ∧
    List.Forall₂ (fun d n => d.classname = some n ∧ d.message = said n ∧
      (SlotTable.ofRules rules).entries.lookup n = some d.location ∧
      (classnameParts rules).lookup n = some d.location) ds ns

/-- A check that tells of the names that offend it, each of them once. -/
theorem reports_tellOnce (s : Style) {flag : String → Bool} {offends : String → Prop}
    {said : String → String} {finding : String × Option Location → Diagnostic}
    (hflag : ∀ n, flag n = true ↔ offends n) (habout : ∀ q, (finding q).classname = some q.1)
    (htells : ∀ q, (finding q).message = said q.1) (hstands : ∀ q, (finding q).location = q.2) :
    Reports s.rules (Earlier s.rules) (fun n => Mentions s.rules n ∧ offends n) said
      (tellOnce flag finding [] (classnameParts s.rules)) := by
  let first := firstOccurrences (classnameParts s.rules)
  rw [tellOnce_nil]
  refine ⟨(first.filter fun q => flag q.1).map (·.1), ?_, fun n => ?_, ?_⟩
  · exact (pairwise_firstOccurrences _).sublist (List.filter_sublist.map _)
  · simp only [← mem_names_firstOccurrences, ← hflag, List.mem_map, List.mem_filter]
    constructor
    · rintro ⟨q, ⟨hq, hoffends⟩, rfl⟩
      exact ⟨⟨q, hq, rfl⟩, hoffends⟩
    · rintro ⟨⟨q, hq, rfl⟩, hoffends⟩
      exact ⟨q, ⟨hq, hoffends⟩, rfl⟩
  · rw [List.forall₂_map_left_iff, List.forall₂_map_right_iff, List.forall₂_same]
    intro q hq
    have hfirst := lookup_of_mem_firstOccurrences (List.mem_filter.1 hq).1
    rw [habout, htells, hstands]
    exact ⟨rfl, rfl, SlotTable.lookup_entries_ofRules hfirst, hfirst⟩

theorem isReserved_iff {n : String} :
    isReserved n = true ↔ n ∈ reservedMembers ∨ ['_', '_'] <+: n.toList := by
  rw [isReserved, Bool.or_eq_true, List.contains_iff_mem, List.isPrefixOf_iff_prefix]

/-- Counts of different names are sorted by the names. -/
theorem pairwise_sortCounts {counts : List (String × Nat)}
    (hdistinct : (counts.map (·.1)).Nodup) : ((sortCounts counts).map (·.1)).Pairwise (· < ·) := by
  have hsorted : (sortCounts counts).Pairwise fun a b => a.1 < b.1 ∨ a.1 = b.1 ∧ a.2 ≤ b.2 := by
    refine (List.pairwise_mergeSort ?_ ?_ _).imp of_decide_eq_true
    · intro a b c hab hbc
      simp only [decide_eq_true_eq] at hab hbc ⊢
      rcases hab with hab | ⟨hab, hm⟩ <;> rcases hbc with hbc | ⟨hbc, hn⟩
      · exact .inl (lt_trans hab hbc)
      · exact .inl (hbc ▸ hab)
      · exact .inl (hab ▸ hbc)
      · exact .inr ⟨hab.trans hbc, hm.trans hn⟩
    · intro a b
      simp only [Bool.or_eq_true, decide_eq_true_eq]
      rcases lt_trichotomy a.1 b.1 with h | h | h
      · exact .inl (.inl h)
      · rcases le_total a.2 b.2 with hle | hle
        · exact .inl (.inr ⟨h, hle⟩)
        · exact .inr (.inr ⟨h.symm, hle⟩)
      · exact .inr (.inl h)
  have hdistinct : ((sortCounts counts).map (·.1)).Nodup :=
    ((List.mergeSort_perm _ _).map _).nodup_iff.2 hdistinct
  rw [List.pairwise_map]
  refine (hsorted.and (List.pairwise_map.1 hdistinct)).imp ?_
  rintro a b ⟨h | h, hne⟩
  · exact h
  · exact absurd h.1 hne

/-- What is counted more than once is a name that occurs twice, with how often it does. -/
theorem mem_repeated {s : Style} {n : String} {count : Nat} :
    (n, count) ∈ (sortCounts (Dict.tally ((classnameParts s.rules).map (·.1)))).filter
        (fun c => decide (1 < c.2)) ↔
      2 ≤ Rule.usesAll n s.rules ∧ count = Rule.usesAll n s.rules := by
  have hcount : ((classnameParts s.rules).map (·.1)).count n = Rule.usesAll n s.rules :=
    count_classnamesOf n s.rules
  have hmentioned : n ∈ (classnameParts s.rules).map (·.1) ↔ 0 < Rule.usesAll n s.rules := by
    rw [← hcount, List.count_pos_iff]
  rw [List.mem_filter, sortCounts, List.mem_mergeSort, Dict.mem_tally, hmentioned, hcount,
    decide_eq_true_iff]
  constructor
  · rintro ⟨⟨-, rfl⟩, htwice⟩
    exact ⟨htwice, rfl⟩
  · rintro ⟨htwice, rfl⟩
    exact ⟨⟨by omega, rfl⟩, htwice⟩

theorem reports_duplicateClassnames (s : Style) :
    Reports s.rules (· < ·) (fun n => 2 ≤ Rule.usesAll n s.rules)
      (fun n => "Classname " ++ quote n ++ " is referenced " ++
        toString (Rule.usesAll n s.rules) ++ " times; all references share one slot.")
      (duplicateClassnames s) := by
  let counts := sortCounts (Dict.tally ((classnameParts s.rules).map (·.1)))
  let repeated := counts.filter fun c => decide (1 < c.2)
  have hrepeated {c : String × Nat} (hc : c ∈ repeated) :
      2 ≤ Rule.usesAll c.1 s.rules ∧ c.2 = Rule.usesAll c.1 s.rules := mem_repeated.1 hc
  refine ⟨repeated.map (·.1), ?_, fun n => ?_, ?_⟩
  · exact (pairwise_sortCounts (Dict.nodup_keys_tally _)).sublist (List.filter_sublist.map _)
  · constructor
    · intro hn
      obtain ⟨c, hc, rfl⟩ := List.mem_map.1 hn
      exact (hrepeated hc).1
    · intro htwice
      exact List.mem_map.2 ⟨(n, Rule.usesAll n s.rules), mem_repeated.2 ⟨htwice, rfl⟩, rfl⟩
  · change List.Forall₂ _ (repeated.map _) _
    rw [List.forall₂_map_left_iff, List.forall₂_map_right_iff, List.forall₂_same]
    intro c hc
    obtain ⟨htwice, hcount⟩ := hrepeated hc
    have hmentioned : c.1 ∈ (firstOccurrences (classnameParts s.rules)).map (·.1) := by
      rw [mem_map_firstOccurrences, ← List.count_pos_iff]
      have := count_classnamesOf c.1 s.rules
      rw [classnamesOf] at this
      omega
    obtain ⟨q, hq, hname⟩ := List.mem_map.1 hmentioned
    have hfirst := lookup_of_mem_firstOccurrences hq
    rw [hname] at hfirst
    have hplace : ((Dict.ofPairs (classnameParts s.rules).reverse).lookup c.1).join = q.2 := by
      rw [lookup_ofPairs_reverse, lookup_firstOccurrences, hfirst, Option.join_some]
    dsimp only
    rw [hplace, hcount]
    exact ⟨rfl, rfl, SlotTable.lookup_entries_ofRules hfirst, hfirst⟩

end Check

/-- The three checks on class names, on every block. What is no name of a field is told, and what a
member of the class is called, in the order of first occurrences; what occurs more than once is told
in sorted order together with how often it occurs. -/
theorem classname_findings_exact (s : Style) :
    Check.Reports s.rules (Check.Earlier s.rules)
      (fun n => Mentions s.rules n ∧ isBindable n = false)
      (fun n => "Classname " ++ quote n ++ " is not a valid Python identifier.")
      (Check.classnameIdentifiers s) ∧
    Check.Reports s.rules (Check.Earlier s.rules)
      (fun n => Mentions s.rules n ∧ (n ∈ Check.reservedMembers ∨ ['_', '_'] <+: n.toList))
      (fun n => "Classname " ++ quote n ++ " is reserved by the generated class.")
      (Check.reservedClassnames s) ∧
    Check.Reports s.rules (· < ·) (fun n => 2 ≤ Rule.usesAll n s.rules)
      (fun n => "Classname " ++ quote n ++ " is referenced " ++
        toString (Rule.usesAll n s.rules) ++ " times; all references share one slot.")
      (Check.duplicateClassnames s) := by
  refine ⟨?_, ?_, Check.reports_duplicateClassnames s⟩
  · exact Check.reports_tellOnce s (fun n => .of_eq (Bool.not_eq_true' (isBindable n)))
      (fun _ => rfl) (fun _ => rfl) fun _ => rfl
  · exact Check.reports_tellOnce s (fun _ => Check.isReserved_iff) (fun _ => rfl) (fun _ => rfl)
      fun _ => rfl

end ScopedCss

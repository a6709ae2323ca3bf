import ScopedCss.Proofs.Outcomes
import ScopedCss.SlotTable

/-!
First occurrences. Three computations look for the place where a class name occurs first: the checks
pass over the names that they told of, the table of slots keeps the first pair of each name, and the
dictionary for repeated names lets pairs of the reversed row replace each other. All three find what
stands in one row, `firstOccurrences`.
-/
namespace ScopedCss

/-! ### Dictionaries -/

namespace Dict

variable {α β : Type} [BEq α] [LawfulBEq α]

theorem lookup_put (n k : α) (v : β) (d : List (α × β)) :
    (put k v d).lookup n = if n == k then some v else d.lookup n := by
  induction d with
  | nil => cases hn : n == k <;> simp [put, List.lookup_cons, hn]
  | cons e es ih =>
    by_cases he : e.1 = k
    · rw [put, if_pos (beq_iff_eq.2 he), List.lookup_cons, List.lookup_cons, he]
      cases n == k <;> rfl
    · rw [put, if_neg (by simpa using he), List.lookup_cons, List.lookup_cons, ih]
      by_cases hn : n = k
      · simp [hn, beq_eq_false_iff_ne.2 (Ne.symm he)]
      · simp [hn]

/-- A key that comes in once more takes no second place. -/
theorem keys_put (k : α) (v : β) (d : List (α × β)) :
    (put k v d).map (·.1) = if k ∈ d.map (·.1) then d.map (·.1) else d.map (·.1) ++ [k] := by
  induction d with
  | nil => simp [put]
  | cons e es ih =>
    by_cases he : e.1 = k
    · simp [put, he]
    · rw [put, if_neg (by simpa using he), List.map_cons, ih]
      by_cases hk : k ∈ es.map (·.1)
      · simp [hk, Ne.symm he]
      · simp [hk, Ne.symm he]

/-- The value of a key is that of the last pair with it. -/
theorem lookup_ofPairs (n : α) (ps : List (α × β)) :
    (ofPairs ps).lookup n = ps.reverse.lookup n := by
  have hfrom (d : List (α × β)) : (ps.foldl (fun d p => put p.1 p.2 d) d).lookup n =
      (ps.reverse.lookup n).or (d.lookup n) := by
    induction ps generalizing d with
    | nil => simp
    | cons p ps ih =>
      obtain ⟨k, v⟩ := p
      rw [List.foldl_cons, ih, lookup_put, List.reverse_cons, List.lookup_append,
        Option.or_assoc]
      congr 1
      cases hn : n == k <;> simp [List.lookup_cons, hn]
  rw [ofPairs, hfrom, List.lookup_nil, Option.or_none]

theorem lookup_tally (n : α) (ks : List α) :
    (tally ks).lookup n = if n ∈ ks then some (ks.count n) else none := by
  have hfrom (d : List (α × Nat)) :
      (ks.foldl (fun d k => put k ((d.lookup k).getD 0 + 1) d) d).lookup n =
        if n ∈ ks then some ((d.lookup n).getD 0 + ks.count n) else d.lookup n := by
    induction ks generalizing d with
    | nil => simp
    | cons k ks ih =>
      rw [List.foldl_cons, ih, lookup_put]
      by_cases hn : n = k
      · subst hn
        by_cases hmem : n ∈ ks
        · simp [hmem, Nat.add_assoc, Nat.add_comm]
        · simp [hmem, List.count_eq_zero_of_not_mem hmem]
      · simp [hn, List.count_cons_of_ne (Ne.symm hn)]
  rw [tally, hfrom, List.lookup_nil]
  simp

theorem nodup_keys_tally (ks : List α) : ((tally ks).map (·.1)).Nodup := by
  have hfrom {d : List (α × Nat)} (hd : (d.map (·.1)).Nodup) :
      ((ks.foldl (fun d k => put k ((d.lookup k).getD 0 + 1) d) d).map (·.1)).Nodup := by
    induction ks generalizing d with
    | nil => exact hd
    | cons k ks ih =>
      refine ih ?_
      rw [keys_put]
      split
      · exact hd
      · rename_i hk
        refine List.nodup_append.2 ⟨hd, by simp, ?_⟩
        rintro a ha b hb rfl
        rw [List.mem_singleton] at hb
        exact hk (hb ▸ ha)
  exact hfrom .nil

/-- The entries of a tally are the keys that occur, with how often they do. -/
theorem mem_tally {n : α} {count : Nat} {ks : List α} :
    (n, count) ∈ tally ks ↔ n ∈ ks ∧ count = ks.count n := by
  have hlookup := lookup_tally n ks
  constructor
  · intro hmem
    rw [lookup_eq_some_of_mem (nodup_keys_tally ks) hmem] at hlookup
    split at hlookup
    · exact ⟨‹_›, Option.some.inj hlookup⟩
    · cases hlookup
  · rintro ⟨hn, rfl⟩
    rw [if_pos hn] at hlookup
    exact mem_of_lookup_eq_some hlookup

end Dict

namespace Check

/-! ### The row of first occurrences -/

/-- The first occurrence of each name, in order. -/
def firstOccurrences : List (String × Option Location) → List (String × Option Location)
  | [] => []
  | p :: ps => p :: (firstOccurrences ps).filter (·.1 != p.1)

variable (qs : List (String × Option Location))

theorem mem_map_firstOccurrences (n : String) :
    n ∈ (firstOccurrences qs).map (·.1) ↔ n ∈ qs.map (·.1) := by
  induction qs with
  | nil => rfl
  | cons q qs ih =>
    rw [firstOccurrences, List.map_cons, List.map_cons, List.mem_cons, List.mem_cons, ← ih]
    by_cases hn : n = q.1
    · simp [hn]
    · simp [hn]

theorem nodup_firstOccurrences : ((firstOccurrences qs).map (·.1)).Nodup := by
  induction qs with
  | nil => exact .nil
  | cons q qs ih =>
    rw [firstOccurrences, List.map_cons, List.nodup_cons]
    exact ⟨by simp, ih.sublist (List.filter_sublist.map _)⟩

theorem lookup_firstOccurrences (n : String) :
    (firstOccurrences qs).lookup n = qs.lookup n := by
  induction qs with
  | nil => rfl
  | cons q qs ih =>
    rw [firstOccurrences, List.lookup_cons, List.lookup_cons]
    by_cases hn : n = q.1
    · simp [hn]
    · rw [lookup_filter_ne hn, ih]

/-- First occurrences stay in the order in which they are met. -/
theorem pairwise_firstOccurrences :
    ((firstOccurrences qs).map (·.1)).Pairwise fun a b =>
      (qs.map (·.1)).idxOf a < (qs.map (·.1)).idxOf b := by
  induction qs with
  | nil => exact .nil
  | cons q qs ih =>
    have hlater {n : String} (hn : n ∈ ((firstOccurrences qs).filter (·.1 != q.1)).map (·.1)) :
        ((q :: qs).map (·.1)).idxOf n = (qs.map (·.1)).idxOf n + 1 := by
      obtain ⟨p, hp, rfl⟩ := List.mem_map.1 hn
      have hne : p.1 ≠ q.1 := by simpa using (List.mem_filter.1 hp).2
      exact List.idxOf_cons_ne _ hne.symm
    rw [firstOccurrences]
    refine List.pairwise_cons.2 ⟨fun n hn => ?_, ?_⟩
    · rw [hlater hn, List.map_cons, List.idxOf_cons_self]
      exact Nat.succ_pos _
    · refine (ih.sublist (List.filter_sublist.map _)).imp_of_mem fun ha hb hab => ?_
      rw [hlater ha, hlater hb]
      exact Nat.succ_lt_succ hab

/-! ### The computations that agree on it -/

variable {qs}

/-- To leave out one more name, besides names that are left out already. -/
theorem filter_firstOccurrences_cons {keep : String × Option Location → Bool}
    {q : String × Option Location} (hq : ∀ p : String × Option Location, keep p → p.1 ≠ q.1) :
    ((firstOccurrences qs).filter (·.1 != q.1)).filter keep =
      (firstOccurrences qs).filter keep := by
  rw [List.filter_filter]
  refine List.filter_congr fun p _ => ?_
  by_cases hp : keep p = true
  · simp [hp, hq p hp]
  · simp [hp]

/-- The dictionary that keeps first values grows by the names it did not have. -/
theorem foldl_putNew (seen qs : List (String × Option Location)) :
    qs.foldl Dict.putNew seen =
      seen ++ (firstOccurrences qs).filter fun p => !seen.any (·.1 == p.1) := by
  induction qs generalizing seen with
  | nil => simp [firstOccurrences]
  | cons q qs ih =>
    rw [List.foldl_cons, ih, firstOccurrences, Dict.putNew]
    by_cases hq : seen.any (·.1 == q.1)
    · rw [if_pos hq, List.filter_cons_of_neg (by simp [hq]), filter_firstOccurrences_cons]
      rintro p hp heq
      rw [heq, hq] at hp
      cases hp
    · rw [if_neg hq, List.filter_cons_of_pos (by rw [Bool.eq_false_iff.2 hq]; rfl),
        List.append_assoc, List.filter_filter]
      refine congrArg (seen ++ q :: ·) (List.filter_congr fun p _ => ?_)
      simp [Bool.and_comm, bne, BEq.comm (a := q.1)]

/-- The dictionary of the table of slots. -/
theorem foldl_putNew_nil (qs : List (String × Option Location)) :
    qs.foldl Dict.putNew [] = firstOccurrences qs := by
  rw [foldl_putNew, List.nil_append]
  exact List.filter_eq_self.2 fun _ _ => rfl

/-- The loop of a check. -/
theorem tellOnce_eq (offends : String → Bool) (tell : String × Option Location → Diagnostic)
    (reported : List String) (qs : List (String × Option Location)) :
    tellOnce offends tell reported qs =
      ((firstOccurrences qs).filter fun p => !reported.contains p.1 && offends p.1).map tell := by
  induction qs generalizing reported with
  | nil => rfl
  | cons q qs ih =>
    rw [tellOnce, firstOccurrences]
    split
    · rename_i hpassed
      have hout : ¬ (!reported.contains q.1 && offends q.1) = true := by
        revert hpassed
        cases reported.contains q.1 <;> cases offends q.1 <;> decide
      rw [ih, List.filter_cons_of_neg (a := q) hout, filter_firstOccurrences_cons]
      rintro p hp heq
      rw [heq] at hp
      exact hout hp
    · rename_i htold
      have hin : (!reported.contains q.1 && offends q.1) = true := by
        revert htold
        cases reported.contains q.1 <;> cases offends q.1 <;> decide
      rw [ih, List.filter_cons_of_pos (a := q) hin, List.map_cons, List.filter_filter]
      refine congrArg (tell q :: List.map tell ·) (List.filter_congr fun p _ => ?_)
      by_cases hp : p.1 = q.1 <;> simp [hp]

theorem tellOnce_nil (offends : String → Bool) (tell : String × Option Location → Diagnostic)
    (qs : List (String × Option Location)) :
    tellOnce offends tell [] qs = ((firstOccurrences qs).filter fun p => offends p.1).map tell := by
  rw [tellOnce_eq]
  rfl

/-- The dictionary of the reversed row. -/
theorem lookup_ofPairs_reverse (n : String) (qs : List (String × Option Location)) :
    (Dict.ofPairs qs.reverse).lookup n = (firstOccurrences qs).lookup n := by
  rw [Dict.lookup_ofPairs, List.reverse_reverse, lookup_firstOccurrences]

end Check

theorem SlotTable.ofRules_eq (rules : List Rule) : ofRules rules =
    let first := Check.firstOccurrences (classnameParts rules)
    ⟨(Check.sortNames (first.map (·.1))).map fun n => (n, (first.lookup n).join)⟩ := by
  rw [ofRules, Check.foldl_putNew_nil]

theorem SlotTable.names_ofRules (rules : List Rule) : (ofRules rules).names =
    Check.sortNames ((Check.firstOccurrences (classnameParts rules)).map (·.1)) := by
  simp [ofRules_eq, names, Function.comp_def]

end ScopedCss

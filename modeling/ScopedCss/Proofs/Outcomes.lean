import Mathlib.Data.List.Forall2
import ScopedCss.Parse

/-! Results that may be failures. Going through a list stops at the first element that fails, so its
result is told by the results of the elements. -/
namespace ScopedCss

variable {ε α β : Type}

theorem map_eq_ok {x : Except ε α} {f : α → β} {b : β} :
    x.map f = .ok b ↔ ∃ a, x = .ok a ∧ f a = b := by
  cases x <;> simp [Except.map]

theorem bind_eq_ok {x : Except ε α} {f : α → Except ε β} {b : β} :
    (x >>= f) = .ok b ↔ ∃ a, x = .ok a ∧ f a = .ok b := by
  cases x <;> simp [bind, Except.bind]

theorem mapError_eq_ok {ε' : Type} {x : Except ε α} {f : ε → ε'} {a : α} :
    x.mapError f = .ok a ↔ x = .ok a := by
  cases x <;> simp [Except.mapError]

theorem mapM_eq_ok {f : α → Except ε β} {xs : List α} {ys : List β} :
    xs.mapM f = .ok ys ↔ List.Forall₂ (fun x y => f x = .ok y) xs ys := by
  induction xs generalizing ys with
  | nil => simp [pure, Except.pure, eq_comm]
  | cons x xs ih =>
    simp only [List.mapM_cons, bind_eq_ok, List.forall₂_cons_left_iff, ih]
    constructor
    · rintro ⟨y, hy, others, hothers, h⟩
      cases h
      exact ⟨y, others, hy, hothers, rfl⟩
    · rintro ⟨y, others, hy, hothers, rfl⟩
      exact ⟨y, hy, others, hothers, rfl⟩

/-- What is found under a name is one of the entries. -/
theorem mem_of_lookup_eq_some [BEq α] [LawfulBEq α] {entries : List (α × β)} {a : α} {b : β}
    (hfound : entries.lookup a = some b) : (a, b) ∈ entries := by
  obtain ⟨before, behind, rfl, -⟩ := List.lookup_eq_some_iff.1 hfound
  simp

theorem exists_of_mem_forall₂ {R : α → β → Prop} {xs : List α} {ys : List β}
    (h : List.Forall₂ R xs ys) {y : β} (hmember : y ∈ ys) : ∃ x ∈ xs, R x y := by
  induction h with
  | nil => cases hmember
  | cons hfirst _ ih =>
    rcases List.mem_cons.1 hmember with rfl | hmember
    · exact ⟨_, List.mem_cons_self, hfirst⟩
    · obtain ⟨x, hown, hx⟩ := ih hmember
      exact ⟨x, List.mem_cons_of_mem _ hown, hx⟩

theorem exists_of_mem_mapM {f : α → Except ε β} {xs : List α} {ys : List β}
    (h : xs.mapM f = .ok ys) {y : β} (hmember : y ∈ ys) : ∃ x ∈ xs, f x = .ok y :=
  exists_of_mem_forall₂ (mapM_eq_ok.1 h) hmember

theorem exists_ok_of_mapM {f : α → Except ε β} {xs : List α} {ys : List β}
    (h : xs.mapM f = .ok ys) {x : α} (hmember : x ∈ xs) : ∃ y, f x = .ok y := by
  obtain ⟨y, -, hy⟩ := exists_of_mem_forall₂ (mapM_eq_ok.1 h).flip hmember
  exact ⟨y, hy⟩

theorem mapM_cons_of_ok {f : α → Except ε β} {x : α} {y : β} (h : f x = .ok y) (xs : List α) :
    (x :: xs).mapM f = (xs.mapM f).map (y :: ·) := by
  rw [List.mapM_cons, h]
  cases xs.mapM f <;> rfl

theorem mapM_cons_of_error {f : α → Except ε β} {x : α} {e : ε} (h : f x = .error e)
    (xs : List α) : (x :: xs).mapM f = .error e := by
  rw [List.mapM_cons, h]
  rfl

/-! ### Looking up -/

theorem lookup_filter_ne [BEq α] [LawfulBEq α] {a b : α} (hne : a ≠ b) (ps : List (α × β)) :
    (ps.filter (·.1 != b)).lookup a = ps.lookup a := by
  induction ps with
  | nil => rfl
  | cons p ps ih =>
    by_cases hp : p.1 = b
    · have hother : (a == p.1) = false := by simpa [hp] using hne
      rw [List.filter_cons_of_neg (by simp [hp]), ih, List.lookup_cons, hother]
    · rw [List.filter_cons_of_pos (by simpa using hp), List.lookup_cons, List.lookup_cons, ih]

/-- Where no name stands twice, every entry is found. -/
theorem lookup_eq_some_of_mem [BEq α] [LawfulBEq α] {entries : List (α × β)} {a : α} {b : β}
    (hdistinct : (entries.map (·.1)).Nodup) (hmem : (a, b) ∈ entries) :
    entries.lookup a = some b := by
  induction entries with
  | nil => cases hmem
  | cons e es ih =>
    obtain ⟨hfresh, hdistinct⟩ := List.nodup_cons.1 hdistinct
    rcases List.mem_cons.1 hmem with rfl | hmem
    · simp
    · have hne : a ≠ e.1 := by
        rintro rfl
        exact hfresh (List.mem_map_of_mem (f := (·.1)) hmem)
      rw [List.lookup_cons, beq_eq_false_iff_ne.2 hne]
      exact ih hdistinct hmem

/-! ### Bodies of one kind of member -/

theorem eq_map_of_onlyEntries {owner : String} {ms : List Member} {es : List Entry}
    (h : onlyEntries owner ms = .ok es) : ms = es.map .entry := by
  induction ms generalizing es with
  | nil => cases h; rfl
  | cons m ms ih =>
    cases m with
    | rule r => cases h
    | entry e =>
      obtain ⟨others, hothers, rfl⟩ := map_eq_ok.1 h
      rw [ih hothers, List.map_cons]

theorem eq_map_of_onlyRules {owner : String} {ms : List Member} {rs : List Rule}
    (h : onlyRules owner ms = .ok rs) : ms = rs.map .rule := by
  induction ms generalizing rs with
  | nil => cases h; rfl
  | cons m ms ih =>
    cases m with
    | entry e => cases h
    | rule r =>
      obtain ⟨others, hothers, rfl⟩ := map_eq_ok.1 h
      rw [ih hothers, List.map_cons]

end ScopedCss

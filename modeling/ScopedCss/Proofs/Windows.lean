import Mathlib.Data.List.Nodup
import ScopedCss.Proofs.CompiledCalls

/-!
The windows of a provider. Classes are known by numbers, and a class that is mounted owns the slots
behind those of the classes mounted before it. A provider is consistent with its stylesheet if its
windows lie so, its index finds them, and the stylesheet is what the classes write there.
-/
namespace ScopedCss

variable (classes : Nat → StyleClass)

/-- The generator of the class with a number. -/
def generatorOf (n : Nat) : Generator := (Mountable.compiled n (classes n)).generator

/-- How many slots classes take together. -/
def slotsOf : List Nat → Int
  | [] => 0
  | n :: ns => (classes n).definition.slotCount + slotsOf ns

/-- The registrations of classes mounted one after the other, from a slot on. -/
def windows (start : Int) : List Nat → List Registration
  | [] => []
  | n :: ns =>
    let stop := start + (classes n).definition.slotCount
    ⟨generatorOf classes n, start, stop⟩ :: windows stop ns

@[simp] theorem length_windows (start : Int) (ns : List Nat) :
    (windows classes start ns).length = ns.length := by
  induction ns generalizing start with
  | nil => rfl
  | cons n ns ih => simp [windows, ih]

theorem windows_concat (start : Int) (ns : List Nat) (n : Nat) :
    windows classes start (ns ++ [n]) =
      windows classes start ns ++
        [⟨generatorOf classes n, start + slotsOf classes ns,
          start + slotsOf classes ns + (classes n).definition.slotCount⟩] := by
  induction ns generalizing start with
  | nil => simp [windows, slotsOf]
  | cons m ns ih =>
    rw [List.cons_append, windows, windows, ih]
    simp [slotsOf, Int.add_assoc]

theorem slotsOf_concat (ns : List Nat) (n : Nat) :
    slotsOf classes (ns ++ [n]) = slotsOf classes ns + (classes n).definition.slotCount := by
  induction ns with
  | nil => simp [slotsOf]
  | cons m ns ih =>
    rw [List.cons_append, slotsOf, ih, slotsOf]
    omega

theorem windows_generator (start : Int) (ns : List Nat) :
    (windows classes start ns).map (·.generator) = ns.map (generatorOf classes) := by
  induction ns generalizing start with
  | nil => rfl
  | cons n ns ih => simp [windows, ih]

theorem isWindow_of_mem_windows {start : Int} {ns : List Nat} {r : Registration}
    (hplain : ∀ n, (classes n).isPlain = true) (h : r ∈ windows classes start ns) :
    r.IsWindow := by
  induction ns generalizing start with
  | nil => cases h
  | cons n ns ih =>
    rcases List.mem_cons.1 h with rfl | h
    · exact ⟨classes n, rfl, hplain n, rfl⟩
    · exact ih h

namespace Provider

/-- The provider holds exactly these classes, in the order in which they were mounted. -/
structure Mounted (p : Provider) (ns : List Nat) : Prop where
  distinct : ns.Nodup
  registrations : p.registrations = windows classes 0 ns
  counter : p.counter = slotsOf classes ns
  index : ∀ identity k,
    p.index.lookup identity = some k ↔ ∃ n, identity = .compiled n ∧ ns[k]? = some n

variable {classes} {p : Provider} {ns : List Nat}

theorem mounted_fresh (backend : Nat) (theme : Theme) (onBus : Bool) :
    Mounted classes (fresh backend theme onBus) [] where
  distinct := .nil
  registrations := rfl
  counter := rfl
  index identity k := by simp [fresh]

/-- A class that is mounted is found with its window. -/
theorem Mounted.registered?_of_mem (h : Mounted classes p ns) {n : Nat} (hmember : n ∈ ns) :
    ∃ r, p.registered? (generatorOf classes n) = some r ∧ r ∈ p.registrations ∧
      r.generator = generatorOf classes n := by
  obtain ⟨k, hbound, hfound⟩ := List.mem_iff_getElem.1 hmember
  have hplace : ns[k]? = some n := by rw [List.getElem?_eq_getElem hbound, hfound]
  have hindexed : p.index.lookup (generatorOf classes n).identity = some k :=
    (h.index _ _).2 ⟨n, rfl, hplace⟩
  have hinside : k < p.registrations.length := by
    rw [h.registrations, length_windows]
    exact hbound
  refine ⟨p.registrations[k], ?_, List.getElem_mem hinside, ?_⟩
  · rw [registered?, hindexed, Option.bind_some, List.getElem?_eq_getElem hinside]
  · have hgenerators : (p.registrations.map (·.generator))[k]? =
        (ns.map (generatorOf classes))[k]? := by rw [h.registrations, windows_generator]
    rw [List.getElem?_map, List.getElem?_map, hplace, List.getElem?_eq_getElem hinside]
      at hgenerators
    simpa using hgenerators

theorem Mounted.lookup_of_notMem (h : Mounted classes p ns) {n : Nat} (habsent : n ∉ ns) :
    p.index.lookup (.compiled n) = none := by
  cases hfound : p.index.lookup (.compiled n) with
  | none => rfl
  | some k =>
    obtain ⟨m, hsame, hplace⟩ := (h.index _ _).1 hfound
    cases hsame
    exact absurd (List.mem_of_getElem? hplace) habsent

/-- A class that is not mounted is not found. -/
theorem Mounted.registered?_of_notMem (h : Mounted classes p ns) {n : Nat} (habsent : n ∉ ns) :
    p.registered? (generatorOf classes n) = none := by
  have hidentity : (generatorOf classes n).identity = .compiled n := rfl
  rw [registered?, hidentity, h.lookup_of_notMem habsent, Option.bind_none]

theorem Mounted.registered?_base (h : Mounted classes p ns) :
    p.registered? Mountable.base.generator = none := by
  have hidentity : Mountable.base.generator.identity = .base := rfl
  rw [registered?, hidentity]
  cases hfound : p.index.lookup .base with
  | none => rfl
  | some k =>
    obtain ⟨m, hsame, _⟩ := (h.index _ _).1 hfound
    cases hsame

/-- Mounting one more class opens a window behind all others. -/
theorem Mounted.register (h : Mounted classes p ns) {n : Nat} (habsent : n ∉ ns) {stop : Int}
    (hwidth : stop = p.counter + (classes n).definition.slotCount) :
    Mounted classes (({ p with counter := stop }).register (generatorOf classes n) p.counter stop)
      (ns ++ [n]) where
  distinct := by
    rw [List.nodup_append]
    refine ⟨h.distinct, List.nodup_singleton n, ?_⟩
    intro m hm k hk hsame
    rw [List.mem_singleton.1 hk] at hsame
    exact habsent (hsame ▸ hm)
  registrations := by
    show p.registrations ++ _ = _
    rw [windows_concat, h.registrations, hwidth, h.counter]
    simp
  counter := by
    show stop = _
    rw [slotsOf_concat, hwidth, h.counter]
  index identity k := by
    have hidentities : (generatorOf classes n).identity = .compiled n := rfl
    have hlength : p.registrations.length = ns.length := by rw [h.registrations, length_windows]
    simp only [Provider.register, hidentities, hlength, List.lookup_cons]
    by_cases hsame : identity = .compiled n
    · subst hsame
      simp only [beq_self_eq_true, Option.some.injEq, Identity.compiled.injEq, exists_eq_left']
      constructor
      · rintro rfl
        simp
      · intro hfound
        by_contra hother
        have hbefore : ns[k]? = some n := by
          rw [List.getElem?_append] at hfound
          split at hfound
          · exact hfound
          · rw [List.getElem?_singleton] at hfound
            split at hfound
            · omega
            · cases hfound
        exact habsent (List.mem_of_getElem? hbefore)
    · have hdistinct : (identity == Identity.compiled n) = false := by simpa using hsame
      rw [hdistinct]
      simp only [h.index]
      refine exists_congr fun m => and_congr_right fun hisM => ?_
      subst hisM
      rw [List.getElem?_append]
      split
      · rfl
      · rename_i hbeyond
        have habsentAt : ns[k]? = none := List.getElem?_eq_none (by omega)
        rw [habsentAt, List.getElem?_singleton]
        have hdifferent : n ≠ m := fun he => hsame (by rw [he])
        split <;> simp [hdifferent]

end Provider
end ScopedCss

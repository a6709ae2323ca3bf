import Mathlib
import ScopedCss.Json.Reader
import ScopedCss.Proofs.Outcomes
import ScopedCss.Theme

/-!
Data with the members of its objects in another order. Equality of data overlooks that order, the
types of numbers and the sign of zero. Main statements: equal data whose numbers are of the same
types and whose zeros have the same signs differs in the order of members only, what it is compared
with does not tell the order, and neither does its text if no object in it has two members. All this
is about objects whose members have distinct names, as those have that are read.

All of Mathlib is imported, since no part of it has the lemma that a double is packed again as it
was.
-/
namespace ScopedCss

open List (Forall₂)

/-! ### Doubles -/

section Doubles

open Float.Model (UnpackedFloat)

variable {x y : Float}

/-- The parts of a double determine it. -/
theorem float_eq_of_unpack (h : x.toModel.unpack = y.toModel.unpack) : x = y := by
  have hbits (f : Float) :
      UnpackedFloat.pack .binary64 f.toModel.unpack = f.toModel.toBits.toBitVec :=
    UnpackedFloat.pack_unpack_of_valid f.toModel.valid
  have hsame : x.toModel.toBits.toBitVec = y.toModel.toBits.toBitVec := by rw [← hbits, ← hbits, h]
  obtain ⟨⟨_, _⟩⟩ := x
  obtain ⟨⟨_, _⟩⟩ := y
  obtain rfl := UInt64.toBitVec_inj.1 hsame
  rfl

theorem unpack_of_isNaN (h : x.isNaN = true) : x.toModel.unpack = .notANumber := by
  change x.toModel.unpack.isNaN = true at h
  cases hparts : x.toModel.unpack with
  | notANumber => rfl
  | _ => rw [hparts] at h; cases h

theorem float_eq_of_isNaN (hx : x.isNaN = true) (hy : y.isNaN = true) : x = y :=
  float_eq_of_unpack (by rw [unpack_of_isNaN hx, unpack_of_isNaN hy])

theorem unpack_zero : (0.0 : Float).toModel.unpack = .zero .positive := rfl

theorem eq_of_compare_parts {m n : Nat} {e f : Int}
    (hsame : (compare e f).then (compare m n) = .eq) : m = n ∧ e = f := by
  obtain ⟨hexponents, hmantissas⟩ := Ordering.then_eq_eq.1 hsame
  exact ⟨Nat.compare_eq_eq.1 hmantissas, Int.compare_eq_eq.1 hexponents⟩

/-- Of the equal doubles only the two zeros are not one. -/
theorem float_eq_of_beq (hsame : (x == y) = true) (hnonzero : (x == 0.0) = false) : x = y := by
  apply float_eq_of_unpack
  change (x.toModel.unpack.compare y.toModel.unpack == some .eq) = true at hsame
  change (x.toModel.unpack.compare (0.0 : Float).toModel.unpack == some .eq) = false at hnonzero
  rw [unpack_zero] at hnonzero
  generalize x.toModel.unpack = a at hsame hnonzero ⊢
  generalize y.toModel.unpack = b at hsame ⊢
  have hsame : a.compare b = some .eq := eq_of_beq hsame
  cases a with
  | notANumber => cases hsame
  | zero s => cases hnonzero
  | infinity s =>
    cases b with
    | infinity t => cases s <;> cases t <;> first | rfl | cases hsame
    | _ => cases s <;> cases hsame
  | finite s m e _ =>
    cases b with
    | finite t n f _ =>
      cases s <;> cases t
      case negative.negative =>
        obtain ⟨rfl, rfl⟩ := eq_of_compare_parts (Ordering.swap_eq_eq.1 (Option.some.inj hsame))
        rfl
      case positive.positive =>
        obtain ⟨rfl, rfl⟩ := eq_of_compare_parts (Option.some.inj hsame)
        rfl
      all_goals cases hsame
    | infinity t => cases s <;> cases t <;> cases hsame
    | _ => cases s <;> cases hsame

end Doubles

/-! ### Members -/

theorem lookup_isSome_iff_mem {ms : List (α × β)} [BEq α] [LawfulBEq α] {a : α} :
    (ms.lookup a).isSome = true ↔ a ∈ ms.map (·.1) := by
  rw [List.lookup_isSome_iff, List.mem_map]
  constructor
  · rintro ⟨p, hmember, hsame⟩
    exact ⟨p, hmember, (eq_of_beq hsame).symm⟩
  · rintro ⟨p, hmember, rfl⟩
    exact ⟨p, hmember, beq_self_eq_true _⟩

namespace Json

/-! ### Conditions on data -/

mutual

/-- Whether no object has two members of one name. -/
def distinct : Json → Bool
  | .list items => distinctItems items
  | .object members => decide (members.map (·.1)).Nodup && distinctMembers members
  | _ => true

def distinctItems : List Json → Bool
  | [] => true
  | j :: js => distinct j && distinctItems js

def distinctMembers : List (Text × Json) → Bool
  | [] => true
  | (_, j) :: ms => distinct j && distinctMembers ms

end

mutual

/-- Whether what stands at the same places is of the same types, and zeros have the same signs. -/
def sameForm : Json → Json → Bool
  | .float x, .float y => x != 0.0 || decide (x = y)
  | .list as, .list bs => sameFormItems as bs
  | .object ms, .object ns => sameFormMembers ms ns
  | a, b => a.typeName == b.typeName

def sameFormItems : List Json → List Json → Bool
  | a :: as, b :: bs => sameForm a b && sameFormItems as bs
  | _, _ => true

/-- Members that are missing in the second list do not count. -/
def sameFormMembers : List (Text × Json) → List (Text × Json) → Bool
  | [], _ => true
  | (name, a) :: ms, ns =>
    (match ns.lookup name with
      | some b => sameForm a b
      | none => true) && sameFormMembers ms ns

end

mutual

/-- Whether the text of data tells an order of members. -/
def ordered : Json → Bool
  | .list items => orderedItems items
  | .object members => decide (1 < members.length) || orderedMembers members
  | _ => false

def orderedItems : List Json → Bool
  | [] => false
  | j :: js => ordered j || orderedItems js

def orderedMembers : List (Text × Json) → Bool
  | [] => false
  | (_, j) :: ms => ordered j || orderedMembers ms

end

theorem distinctItems_iff {items : List Json} :
    distinctItems items = true ↔ ∀ j ∈ items, j.distinct = true := by
  induction items with
  | nil => simp [distinctItems]
  | cons j js ih => simp [distinctItems, ih]

theorem distinctMembers_iff {members : Members} :
    distinctMembers members = true ↔ ∀ m ∈ members, m.2.distinct = true := by
  induction members with
  | nil => simp [distinctMembers]
  | cons m ms ih => simp [distinctMembers, ih]

theorem distinct_object {ms : Members} :
    (Json.object ms).distinct = true ↔ (ms.map (·.1)).Nodup ∧ ∀ m ∈ ms, m.2.distinct = true := by
  rw [distinct, Bool.and_eq_true, decide_eq_true_iff, distinctMembers_iff]

theorem sameItems_iff {as bs : List Json} :
    sameItems as bs = true ↔ Forall₂ (fun a b => sameItem a b = true) as bs := by
  induction as generalizing bs with
  | nil => cases bs <;> simp [sameItems]
  | cons a as ih =>
    cases bs with
    | nil => simp [sameItems]
    | cons b bs => rw [sameItems, Bool.and_eq_true, ih, List.forall₂_cons]; rfl

theorem sameMembers_iff {ms ns : Members} :
    sameMembers ms ns = true ↔
      ∀ m ∈ ms, ∃ b, ns.lookup m.1 = some b ∧ sameItem m.2 b = true := by
  induction ms with
  | nil => simp [sameMembers]
  | cons m ms ih =>
    rw [sameMembers, Bool.and_eq_true, ih, List.forall_mem_cons]
    refine and_congr_left' ?_
    cases ns.lookup m.1 with
    | none => simp
    | some b => simp [sameItem]

theorem sameForm_of_items {as bs : List Json} (hform : sameFormItems as bs = true)
    (i : Nat) (h : i < as.length) (h' : i < bs.length) :
    sameForm (as.get ⟨i, h⟩) (bs.get ⟨i, h'⟩) = true := by
  induction as generalizing bs i with
  | nil => cases h
  | cons a as ih =>
    cases bs with
    | nil => cases h'
    | cons b bs =>
      rw [sameFormItems, Bool.and_eq_true] at hform
      cases i with
      | zero => exact hform.1
      | succ i => exact ih hform.2 i _ _

theorem sameForm_of_members {ms ns : Members} (hform : sameFormMembers ms ns = true)
    {name : Text} {a b : Json} (hmember : (name, a) ∈ ms) (hfound : ns.lookup name = some b) :
    sameForm a b = true := by
  induction ms with
  | nil => cases hmember
  | cons m ms ih =>
    rw [sameFormMembers, Bool.and_eq_true] at hform
    rcases List.mem_cons.1 hmember with rfl | hmember
    · simpa [hfound] using hform.1
    · exact ih hform.2 hmember

/-! ### Another order -/

/-- The members of objects, at any depth, may stand in another order. -/
inductive Reordered : Json → Json → Prop
  | refl (j : Json) : Reordered j j
  | list {as bs : List Json} (hlength : as.length = bs.length)
      (hitems : ∀ i (h : i < as.length) (h' : i < bs.length),
        Reordered (as.get ⟨i, h⟩) (bs.get ⟨i, h'⟩)) :
      Reordered (.list as) (.list bs)
  | object {ms ns : Members} (hnames : (ms.map (·.1)).Perm (ns.map (·.1)))
      (hmembers : ∀ name v w, (name, v) ∈ ms → (name, w) ∈ ns → Reordered v w) :
      Reordered (.object ms) (.object ns)

namespace Reordered

/-- Objects of one member each. -/
theorem object_singleton {v w : Json} (name : Text) (h : Reordered v w) :
    Reordered (.object [(name, v)]) (.object [(name, w)]) := by
  refine .object (.refl [name]) fun _ v' w' hv hw => ?_
  obtain ⟨-, rfl⟩ := Prod.mk.inj (List.mem_singleton.1 hv)
  obtain ⟨-, rfl⟩ := Prod.mk.inj (List.mem_singleton.1 hw)
  exact h

theorem isNan_eq {a b : Json} (h : Reordered a b) : a.isNan = b.isNan := by
  cases h <;> rfl

section Members

variable {ms ns : Members}

theorem length_eq (h : Reordered (.object ms) (.object ns)) : ms.length = ns.length := by
  cases h with
  | refl => rfl
  | object hnames _ => simpa using hnames.length_eq

theorem lookup (h : Reordered (.object ms) (.object ns)) (name : Text) :
    Option.Rel Reordered (ms.lookup name) (ns.lookup name) := by
  cases h with
  | refl =>
    cases ms.lookup name with
    | none => exact .none
    | some v => exact .some (.refl v)
  | object hnames hmembers =>
    have hboth : (ms.lookup name).isSome = (ns.lookup name).isSome := by
      rw [Bool.eq_iff_iff, lookup_isSome_iff_mem, lookup_isSome_iff_mem]
      exact hnames.mem_iff
    cases hv : ms.lookup name with
    | none =>
      rw [hv] at hboth
      rw [Option.not_isSome_iff_eq_none.1 (ne_true_of_eq_false hboth.symm)]
      exact .none
    | some v =>
      rw [hv] at hboth
      obtain ⟨w, hw⟩ := Option.isSome_iff_exists.1 hboth.symm
      rw [hw]
      exact .some (hmembers name v w (mem_of_lookup_eq_some hv) (mem_of_lookup_eq_some hw))

end Members

/-! ### What a comparison tells -/

theorem sameItems_left {as as' : List Json} (bs : List Json)
    (hitems : Forall₂ (fun a a' => ∀ b, sameItem a b = sameItem a' b) as as') :
    sameItems as bs = sameItems as' bs := by
  induction hitems generalizing bs with
  | nil => rfl
  | cons hhead _ ih =>
    cases bs with
    | nil => rfl
    | cons b bs => rw [sameItems, sameItems, ih]; exact congrArg (· && _) (hhead b)

theorem sameItems_right (as : List Json) {bs bs' : List Json}
    (hitems : Forall₂ (fun b b' => ∀ a, sameItem a b = sameItem a b') bs bs') :
    sameItems as bs = sameItems as bs' := by
  induction hitems generalizing as with
  | nil => rfl
  | cons hhead _ ih =>
    cases as with
    | nil => rfl
    | cons a as => rw [sameItems, sameItems, ih]; exact congrArg (· && _) (hhead a)

theorem sameMembers_left {us vs ns : Members}
    (hnames : ∀ name ∈ vs.map (·.1), name ∈ us.map (·.1))
    (hitems : ∀ name v w, (name, v) ∈ us → (name, w) ∈ vs → ∀ b, sameItem v b = sameItem w b)
    (hsame : sameMembers us ns = true) : sameMembers vs ns = true := by
  rw [sameMembers_iff] at hsame ⊢
  rintro ⟨name, w⟩ hw
  obtain ⟨⟨_, v⟩, hv, rfl⟩ := List.mem_map.1 (hnames name (List.mem_map_of_mem (f := (·.1)) hw))
  obtain ⟨b, hfound, hequal⟩ := hsame _ hv
  exact ⟨b, hfound, by rw [← hitems _ v w hv hw b]; exact hequal⟩

theorem sameMembers_right {ms us vs : Members}
    (hnames : ∀ name ∈ us.map (·.1), name ∈ vs.map (·.1))
    (hitems : ∀ name v w, (name, v) ∈ us → (name, w) ∈ vs → ∀ a, sameItem a v = sameItem a w)
    (hsame : sameMembers ms us = true) : sameMembers ms vs = true := by
  rw [sameMembers_iff] at hsame ⊢
  rintro ⟨name, a⟩ hmember
  obtain ⟨v, hfound, hequal⟩ := hsame _ hmember
  have hv := mem_of_lookup_eq_some hfound
  obtain ⟨w, hthere⟩ := Option.isSome_iff_exists.1
    (lookup_isSome_iff_mem.2 (hnames _ (List.mem_map_of_mem (f := (·.1)) hv)))
  exact ⟨w, hthere, by rw [← hitems _ v w hv (mem_of_lookup_eq_some hthere) a]; exact hequal⟩

theorem same_left {a a' : Json} (h : Reordered a a') (b : Json) : a.same b = a'.same b := by
  induction h generalizing b with
  | refl => rfl
  | list hlength hitems ih =>
    cases b with
    | list bs =>
      refine sameItems_left bs (List.forall₂_iff_get.2 ⟨hlength, fun i h h' b => ?_⟩)
      rw [sameItem, sameItem, (hitems i h h').isNan_eq, ih i h h' b]
    | _ => rfl
  | @object ms ms' hnames hmembers ih =>
    cases b with
    | object ns =>
      have hlength := (Reordered.object hnames hmembers).length_eq
      have heach name v w (hv : (name, v) ∈ ms) (hw : (name, w) ∈ ms') b :
          sameItem v b = sameItem w b := by
        rw [sameItem, sameItem, (hmembers name v w hv hw).isNan_eq, ih name v w hv hw b]
      have hagree : sameMembers ms ns = sameMembers ms' ns := by
        rw [Bool.eq_iff_iff]
        exact ⟨sameMembers_left (fun _ h => hnames.mem_iff.2 h) heach,
          sameMembers_left (fun _ h => hnames.mem_iff.1 h)
            fun name w v hw hv b => (heach name v w hv hw b).symm⟩
      show (ms.length == ns.length && sameMembers ms ns) =
        (ms'.length == ns.length && sameMembers ms' ns)
      rw [hlength, hagree]
    | _ => rfl

theorem same_right (a : Json) {b b' : Json} (h : Reordered b b') : a.same b = a.same b' := by
  induction h generalizing a with
  | refl => rfl
  | list hlength hitems ih =>
    cases a with
    | list as =>
      refine sameItems_right as (List.forall₂_iff_get.2 ⟨hlength, fun i h h' a => ?_⟩)
      rw [sameItem, sameItem, (hitems i h h').isNan_eq, ih i h h' a]
    | _ => rfl
  | @object ns ns' hnames hmembers ih =>
    cases a with
    | object ms =>
      have hlength := (Reordered.object hnames hmembers).length_eq
      have heach name v w (hv : (name, v) ∈ ns) (hw : (name, w) ∈ ns') a :
          sameItem a v = sameItem a w := by
        rw [sameItem, sameItem, (hmembers name v w hv hw).isNan_eq, ih name v w hv hw a]
      have hagree : sameMembers ms ns = sameMembers ms ns' := by
        rw [Bool.eq_iff_iff]
        exact ⟨sameMembers_right (fun _ h => hnames.mem_iff.1 h) heach,
          sameMembers_right (fun _ h => hnames.mem_iff.2 h)
            fun name w v hw hv a => (heach name v w hv hw a).symm⟩
      show (ms.length == ns.length && sameMembers ms ns) =
        (ms.length == ns'.length && sameMembers ms ns')
      rw [hlength, hagree]
    | _ => rfl

/-! ### What a text tells -/

theorem displayItems_eq {as bs : List Json} (hplain : orderedItems as = false)
    (hitems : Forall₂ (fun a b => a.ordered = false → a.display = b.display) as bs) :
    displayItems as = displayItems bs := by
  induction hitems with
  | nil => rfl
  | cons hhead _ ih =>
    rw [orderedItems, Bool.or_eq_false_iff] at hplain
    rw [displayItems, displayItems, hhead hplain.1, ih hplain.2]

theorem display_eq {a b : Json} (h : Reordered a b) (hplain : a.ordered = false) :
    a.display = b.display := by
  induction h with
  | refl => rfl
  | list hlength _ ih =>
    rw [display, display, displayItems_eq hplain (List.forall₂_iff_get.2 ⟨hlength, ih⟩)]
  | @object ms ns hnames hmembers ih =>
    obtain ⟨hshort, hplain⟩ := Bool.or_eq_false_iff.1 hplain
    match ms, ns, (Reordered.object hnames hmembers).length_eq with
    | [], [], _ => rfl
    | [(name, v)], [(name', w)], _ =>
      obtain rfl : name = name' := by simpa using hnames
      have hinner : v.display = w.display :=
        ih name v w (List.mem_singleton_self _) (List.mem_singleton_self _)
          (by simpa [orderedMembers] using hplain)
      simp only [display, displayMembers, hinner]
    | _ :: _ :: _, _, _ => simp at hshort

end Reordered

/-! ### What equality leaves open -/

theorem beq_of_same_float {x y : Float} (hsame : (Numeric.float x).same (.float y) = true) :
    (x == y) = true := by
  simp only [Numeric.same, Numeric.compare?] at hsame
  split at hsame
  · cases hsame
  split at hsame
  · cases hsame
  split at hsame
  · assumption
  · cases hsame

section OfSame

variable {a b : Json}

/-- Equality of scalars of one form is identity. -/
theorem eq_of_same_scalar (hsame : a.same b = true) (hform : sameForm a b = true)
    (hnotList : ∀ items, a ≠ .list items) (hnotObject : ∀ members, a ≠ .object members) :
    a = b := by
  cases a with
  | list items => exact absurd rfl (hnotList items)
  | object members => exact absurd rfl (hnotObject members)
  | null => cases b <;> first | rfl | cases hform
  | bool p =>
    cases b with
    | bool q => cases p <;> cases q <;> first | rfl | cases hsame
    | _ => cases hform
  | int m =>
    cases b with
    | int n =>
      have hequal : some (compare m n) = some .eq := eq_of_beq hsame
      rw [Int.compare_eq_eq.1 (Option.some.inj hequal)]
    | _ => cases hform
  | float x =>
    cases b with
    | float y =>
      have hequal : (x == y) = true := beq_of_same_float hsame
      cases hzero : x == 0.0 with
      | false => rw [float_eq_of_beq hequal hzero]
      | true =>
        have hsigned : (x != 0.0 || decide (x = y)) = true := hform
        rw [show x = y by simpa [bne, hzero] using hsigned]
    | _ => cases hform
  | text s =>
    cases b with
    | text t => rw [eq_of_beq (show (s == t) = true from hsame)]
    | _ => cases hform

/-- What is no number equals only itself as an item. -/
theorem eq_of_isNan (ha : isNan a = true) (hb : isNan b = true) : a = b := by
  cases a with
  | float x =>
    cases b with
    | float y => rw [float_eq_of_isNaN (x := x) (y := y) ha hb]
    | _ => cases hb
  | _ => cases ha

end OfSame

/-- The names of members that are all among others, of the same number, are those of the others. -/
theorem names_perm {ms ns : Members} (hdistinct : (ms.map (·.1)).Nodup)
    (hlength : ms.length = ns.length) (hamong : ∀ m ∈ ms, m.1 ∈ ns.map (·.1)) :
    (ms.map (·.1)).Perm (ns.map (·.1)) := by
  have hsub : (ms.map (·.1)).Subperm (ns.map (·.1)) :=
    hdistinct.subperm fun name h => by
      obtain ⟨m, hmember, rfl⟩ := List.mem_map.1 h
      exact hamong m hmember
  exact hsub.perm_of_length_le (by simp [hlength])

/-- Equal data of one form differs in the order of members only. -/
theorem reordered_of_sameItem {a b : Json} (hda : a.distinct = true) (hdb : b.distinct = true)
    (hsame : sameItem a b = true) (hform : sameForm a b = true) : Reordered a b := by
  rcases Bool.or_eq_true_iff.1 hsame with hnan | hsame
  · rw [Bool.and_eq_true] at hnan
    rw [eq_of_isNan hnan.1 hnan.2]
    exact .refl b
  match a with
  | .list as =>
    cases b with
    | list bs =>
      have hitems : Forall₂ (fun a b => sameItem a b = true) as bs := sameItems_iff.1 hsame
      refine .list hitems.length_eq fun i h h' => ?_
      exact reordered_of_sameItem (distinctItems_iff.1 hda _ (as.get_mem _))
        (distinctItems_iff.1 hdb _ (bs.get_mem _)) (hitems.get h h')
        (sameForm_of_items hform i h h')
    | _ => cases hsame
  | .object ms =>
    cases b with
    | object ns =>
      obtain ⟨hdistinct, hdm⟩ := distinct_object.1 hda
      obtain ⟨hdistinct', hdn⟩ := distinct_object.1 hdb
      obtain ⟨hlength, hsame⟩ := Bool.and_eq_true_iff.1 hsame
      have hfound := sameMembers_iff.1 hsame
      refine .object (names_perm hdistinct (eq_of_beq hlength) ?_) ?_
      · intro m hmember
        obtain ⟨b, hthere, -⟩ := hfound m hmember
        exact lookup_isSome_iff_mem.1 (by rw [hthere]; rfl)
      · intro name v w hv hw
        obtain ⟨b, hthere, hsame⟩ := hfound _ hv
        obtain rfl : w = b := by
          rw [lookup_eq_some_of_mem hdistinct' hw] at hthere
          exact Option.some.inj hthere
        exact reordered_of_sameItem (hdm _ hv) (hdn _ hw)
          hsame (sameForm_of_members hform hv hthere)
    | _ => cases hsame
  | .null | .bool _ | .int _ | .float _ | .text _ =>
    rw [eq_of_same_scalar hsame hform (by rintro _ ⟨⟩) (by rintro _ ⟨⟩)]
    exact .refl b
termination_by sizeOf a
decreasing_by
  · have hsmaller := List.sizeOf_lt_of_mem (as.get_mem ⟨i, h⟩)
    rw [Json.list.sizeOf_spec]
    omega
  · have hsmaller := List.sizeOf_lt_of_mem hv
    rw [Prod.mk.sizeOf_spec] at hsmaller
    rw [Json.object.sizeOf_spec]
    omega

/-! ### Data that is read -/

theorem put_of_any {ms : Members} {name : Text} (value : Json)
    (hknown : ms.any (·.1 == name) = true) :
    (put ms name value).map (·.1) = ms.map (·.1) := by
  rw [put, if_pos hknown, List.map_map]
  refine List.map_congr_left fun m _ => ?_
  by_cases hsame : (m.1 == name) = true
  · simp only [Function.comp, hsame, if_true]
    exact (eq_of_beq hsame).symm
  · simp only [Function.comp, hsame]
    rfl

theorem distinct_put {ms : Members} (name : Text) {value : Json}
    (hbefore : (Json.object ms).distinct = true) (hown : value.distinct = true) :
    (Json.object (put ms name value)).distinct = true := by
  rw [distinct_object] at hbefore ⊢
  cases hknown : ms.any (·.1 == name) with
  | true =>
    refine ⟨by rw [put_of_any value hknown]; exact hbefore.1, fun m hmember => ?_⟩
    rw [put, if_pos hknown] at hmember
    obtain ⟨m', hmember', rfl⟩ := List.mem_map.1 hmember
    split
    · exact hown
    · exact hbefore.2 m' hmember'
  | false =>
    have hfresh : name ∉ ms.map (·.1) := by
      intro hlisted
      obtain ⟨m, hmember, rfl⟩ := List.mem_map.1 hlisted
      exact List.any_eq_false.1 hknown m hmember (beq_self_eq_true m.1)
    rw [put, hknown, if_neg Bool.false_ne_true]
    refine ⟨?_, fun m hmember => ?_⟩
    · rw [List.map_append]
      exact List.nodup_append.2 ⟨hbefore.1, List.nodup_singleton _, by
        rintro x hlisted y honly rfl
        obtain rfl := List.mem_singleton.1 honly
        exact hfresh hlisted⟩
    · rcases List.mem_append.1 hmember with hold | hnew
      · exact hbefore.2 m hold
      · obtain rfl := List.mem_singleton.1 hnew
        exact hown

theorem distinct_wholeNumber {negative : Bool} {digits : List Char} {j : Json}
    (hread : wholeNumber negative digits = .ok j) : j.distinct = true := by
  unfold wholeNumber at hread
  split at hread
  · cases hread
  · cases hread
    rfl

theorem distinct_number {negative : Bool} {cs r : List Char} {j : Json}
    (hread : number negative cs = .ok (j, r)) : j.distinct = true := by
  simp only [number] at hread
  -- whatever stands in front of the fraction and the exponent, the number is no container
  repeat' split at hread
  all_goals first
    | (cases hread
       rfl)
    | (obtain ⟨whole, hmade, hsame⟩ := map_eq_ok.1 hread
       cases hsame
       exact distinct_wholeNumber hmade)
    | cases hread

theorem distinct_literal {cs r : List Char} {j : Json} (hread : literal? cs = some (j, r)) :
    j.distinct = true := by
  obtain ⟨l, hlisted, hfound⟩ := List.exists_of_findSome?_eq_some hread
  obtain ⟨_, -, hsame⟩ := Option.map_eq_some_iff.1 hfound
  cases hsame
  exact (by decide +kernel : ∀ l ∈ literals, l.2.distinct = true) l hlisted

theorem distinct_of_steps (n : Nat) :
    (∀ cs j r, value n cs = .ok (j, r) → j.distinct = true) ∧
    (∀ before cs j r, (∀ b ∈ before, b.distinct = true) → items n before cs = .ok (j, r) →
      j.distinct = true) ∧
    ∀ before cs j r, (Json.object before).distinct = true → members n before cs = .ok (j, r) →
      j.distinct = true := by
  -- the three readers call each other with one step less, so they are taken together
  induction n with
  | zero =>
    refine ⟨fun _ _ _ h => ?_, fun _ _ _ _ _ h => ?_, fun _ _ _ _ _ h => ?_⟩ <;> cases h
  | succ n ih =>
    obtain ⟨hofValue, hofItems, hofMembers⟩ := ih
    refine ⟨fun cs j r hread => ?_, fun before cs j r hold hread => ?_,
      fun before cs j r hold hread => ?_⟩
    · unfold value at hread
      split at hread
      · obtain ⟨p, -, hsame⟩ := map_eq_ok.1 hread
        cases hsame
        rfl
      · split at hread
        · cases hread
          rfl
        · exact hofMembers [] _ j r (by decide) hread
      · split at hread
        · cases hread
          rfl
        · exact hofItems [] _ j r (by simp) hread
      · split at hread
        · rename_i hfound
          cases hread
          exact distinct_literal hfound
        · exact distinct_number hread
        · exact distinct_number hread
    · unfold items at hread
      obtain ⟨⟨v, r'⟩, hfirst, hread⟩ := bind_eq_ok.1 hread
      have hall : ∀ b ∈ v :: before, b.distinct = true :=
        List.forall_mem_cons.2 ⟨hofValue _ _ _ hfirst, hold⟩
      dsimp only at hread
      split at hread
      · exact hofItems _ _ j r hall hread
      · cases hread
        exact distinctItems_iff.2 fun b hmember => hall b (List.mem_reverse.1 hmember)
      · cases hread
    · unfold members at hread
      split at hread
      · obtain ⟨⟨name, r'⟩, -, hread⟩ := bind_eq_ok.1 hread
        dsimp only at hread
        split at hread
        · obtain ⟨⟨v, r''⟩, hfirst, hread⟩ := bind_eq_ok.1 hread
          have hall := distinct_put (.ofLetters name) hold (hofValue _ _ _ hfirst)
          dsimp only at hread
          split at hread
          · exact hofMembers _ _ j r hall hread
          · cases hread
            exact hall
          · cases hread
        · cases hread
      · cases hread

/-- No object that is read has two members of one name. -/
theorem distinct_of_parse {text : String} {j : Json} (hread : parse text = .ok j) :
    j.distinct = true := by
  unfold parse at hread
  obtain ⟨⟨v, r⟩, hwhole, hread⟩ := bind_eq_ok.1 hread
  dsimp only at hread
  split at hread
  · cases hread
    exact (distinct_of_steps _).1 _ _ _ hwhole
  · cases hread

end Json
end ScopedCss

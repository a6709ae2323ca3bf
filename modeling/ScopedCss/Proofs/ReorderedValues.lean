import ScopedCss.Proofs.Reordering
import ScopedCss.Value.Arithmetic
import ScopedCss.Value.Compare

/-!
Values that hold data with its members in another order. Every operation on values takes such values
to such values, with the same error if it fails; only a text may tell the order, and only the text
of a value in which some object has two members.
-/
namespace ScopedCss

open List (Forall₂)

/-! ### Outcomes -/

/-- Two outcomes are one error, or results in a relation. -/
inductive Agree {ε α β : Type} (R : α → β → Prop) : Except ε α → Except ε β → Prop
  | ok {a : α} {b : β} (hrelated : R a b) : Agree R (.ok a) (.ok b)
  | error (e : ε) : Agree R (.error e) (.error e)

namespace Agree

variable {ε α β γ δ : Type} {R : α → β → Prop} {S : γ → δ → Prop}

theorem of_eq {R : α → α → Prop} (hrefl : ∀ a, R a a) {x y : Except ε α} (hsame : x = y) :
    Agree R x y := by
  subst hsame
  cases x with
  | ok a => exact .ok (hrefl a)
  | error e => exact .error e

theorem eq {x y : Except ε α} (h : Agree Eq x y) : x = y := by
  cases h with
  | ok hrelated => rw [hrelated]
  | error e => rfl

theorem imp_of_ok {S : α → β → Prop} {x : Except ε α} {y : Except ε β} (h : Agree R x y)
    (himp : ∀ a b, x = .ok a → R a b → S a b) : Agree S x y := by
  cases h with
  | ok hrelated => exact .ok (himp _ _ rfl hrelated)
  | error e => exact .error e

theorem bind_of_ok {x : Except ε α} {y : Except ε β} {f : α → Except ε γ} {g : β → Except ε δ}
    (hfirst : Agree R x y) (hnext : ∀ a b, x = .ok a → R a b → Agree S (f a) (g b)) :
    Agree S (x >>= f) (y >>= g) := by
  cases hfirst with
  | ok hrelated => exact hnext _ _ rfl hrelated
  | error e => exact .error e

theorem bind {x : Except ε α} {y : Except ε β} {f : α → Except ε γ} {g : β → Except ε δ}
    (hfirst : Agree R x y) (hnext : ∀ a b, R a b → Agree S (f a) (g b)) :
    Agree S (x >>= f) (y >>= g) :=
  hfirst.bind_of_ok fun a b _ => hnext a b

theorem map {x : Except ε α} {y : Except ε β} {f : α → γ} {g : β → δ} (h : Agree R x y)
    (hnext : ∀ a b, R a b → S (f a) (g b)) : Agree S (x.map f) (y.map g) := by
  cases h with
  | ok hrelated => exact .ok (hnext _ _ hrelated)
  | error e => exact .error e

theorem mapError {x : Except ε α} {y : Except ε β} {ζ : Type} (f : ε → ζ) (h : Agree R x y) :
    Agree R (x.mapError f) (y.mapError f) := by
  cases h with
  | ok hrelated => exact .ok hrelated
  | error e => exact .error (f e)

theorem elim {x : Option α} {y : Option β} {d : Except ε γ} {e : Except ε δ}
    {f : α → Except ε γ} {g : β → Except ε δ} (hfound : Option.Rel R x y) (hnone : Agree S d e)
    (hsome : ∀ a b, R a b → Agree S (f a) (g b)) : Agree S (x.elim d f) (y.elim e g) := by
  cases hfound with
  | none => exact hnone
  | some hrelated => exact hsome _ _ hrelated

end Agree

namespace Value

/-! ### The relation -/

/-- The members of objects that a value holds, at any depth, may stand in another order. -/
inductive Reordered : Value → Value → Prop
  | refl (v : Value) : Reordered v v
  | list {as bs : List Value} (hlength : as.length = bs.length)
      (hitems : ∀ i (h : i < as.length) (h' : i < bs.length),
        Reordered (as.get ⟨i, h⟩) (bs.get ⟨i, h'⟩)) :
      Reordered (.list as) (.list bs)
  | tuple {as bs : List Value} (hlength : as.length = bs.length)
      (hitems : ∀ i (h : i < as.length) (h' : i < bs.length),
        Reordered (as.get ⟨i, h⟩) (bs.get ⟨i, h'⟩)) :
      Reordered (.tuple as) (.tuple bs)
  | dict {ms ns : Members} (hmembers : Json.Reordered (.object ms) (.object ns)) :
      Reordered (.dict ms) (.dict ns)
  | view {ms ns : Members} (hmembers : Json.Reordered (.object ms) (.object ns)) :
      Reordered (.view ms) (.view ns)
  | mapping {ms ns : Members} (hmembers : Json.Reordered (.object ms) (.object ns)) :
      Reordered (.theme (.mapping ms)) (.theme (.mapping ns))
  | derived (c : MappingClass) {ms ns : Members}
      (hmembers : Json.Reordered (.object ms) (.object ns)) :
      Reordered (.theme (.derived c ms)) (.theme (.derived c ns))
  | method {v w : Value} (hreceiver : Reordered v w) (name : String) :
      Reordered (.method v name) (.method w name)
  | record {fs gs : List (String × Value)} (className : String)
      (hnames : fs.map (·.1) = gs.map (·.1)) (hlength : fs.length = gs.length)
      (hvalues : ∀ i (h : i < fs.length) (h' : i < gs.length),
        Reordered (fs.get ⟨i, h⟩).2 (gs.get ⟨i, h'⟩).2) :
      Reordered (.record className fs) (.record className gs)

mutual

/-- Whether the text of a value tells an order of members. -/
def ordered : Value → Bool
  | .list items => orderedItems items
  | .tuple items => orderedItems items
  | .dict members => (Json.object members).ordered
  | .view members => (Json.object members).ordered
  | .theme (.mapping members) => (Json.object members).ordered
  | .theme (.derived _ members) => (Json.object members).ordered
  | .theme (.custom _ c) => c.ordered
  -- a method of a built-in type is shown by the type of what it was read from
  | .method receiver _ => !receiver.isPrimitive && ordered receiver
  | .record _ fields => orderedFields fields
  | _ => false

def orderedItems : List Value → Bool
  | [] => false
  | v :: vs => ordered v || orderedItems vs

def orderedFields : List (String × Value) → Bool
  | [] => false
  | (_, v) :: fs => ordered v || orderedFields fs

end

/-- Fields of the same names, their values in a relation one by one. -/
abbrev Fields (R : Value → Value → Prop) : List (String × Value) → List (String × Value) → Prop :=
  Forall₂ fun f g => f.1 = g.1 ∧ R f.2 g.2

namespace Fields

variable {R : Value → Value → Prop} {fs gs : List (String × Value)}

theorem lookup (h : Fields R fs gs) (name : String) :
    Option.Rel R (fs.lookup name) (gs.lookup name) := by
  induction h with
  | nil => exact .none
  | @cons f g _ _ hhead _ ih =>
    rw [List.lookup_cons, List.lookup_cons, ← hhead.1]
    cases name == f.1 with
    | true => exact .some hhead.2
    | false => exact ih

theorem names_eq (h : Fields R fs gs) : fs.map (·.1) = gs.map (·.1) := by
  induction h with
  | nil => rfl
  | cons hhead _ ih => rw [List.map_cons, List.map_cons, hhead.1, ih]

theorem zip {as bs : List Value} (names : List String) (hitems : Forall₂ R as bs) :
    Fields R (names.zip as) (names.zip bs) := by
  induction hitems generalizing names with
  | nil => rw [List.zip_nil_right]; exact .nil
  | cons hhead _ ih =>
    cases names with
    | nil => exact .nil
    | cons name names => exact .cons ⟨rfl, hhead⟩ (ih names)

theorem find? (h : Fields R fs gs) (p : String → Bool) :
    Option.Rel (fun f g => f.1 = g.1) (fs.find? fun f => p f.1) (gs.find? fun g => p g.1) := by
  induction h with
  | nil => exact .none
  | @cons f g _ _ hhead _ ih =>
    rw [List.find?_cons, List.find?_cons, ← hhead.1]
    cases p f.1 with
    | true => exact .some hhead.1
    | false => exact ih

end Fields

namespace Reordered

theorem list_of_forall₂ {as bs : List Value} (hitems : Forall₂ Reordered as bs) :
    Reordered (.list as) (.list bs) :=
  .list hitems.length_eq fun _ h h' => hitems.get h h'

theorem tuple_of_forall₂ {as bs : List Value} (hitems : Forall₂ Reordered as bs) :
    Reordered (.tuple as) (.tuple bs) :=
  .tuple hitems.length_eq fun _ h h' => hitems.get h h'

theorem record_of_fields {fs gs : List (String × Value)} (className : String)
    (hfields : Fields Reordered fs gs) : Reordered (.record className fs) (.record className gs) :=
  .record className hfields.names_eq hfields.length_eq fun _ h h' => (hfields.get h h').2

theorem forall₂_refl (items : List Value) : Forall₂ Reordered items items :=
  List.forall₂_same.2 fun v _ => .refl v

section Inversion

variable {w : Value}

theorem of_list {as : List Value} (h : Reordered (.list as) w) :
    ∃ bs, w = .list bs ∧ Forall₂ Reordered as bs := by
  cases h with
  | refl => exact ⟨as, rfl, forall₂_refl as⟩
  | list hlength hitems => exact ⟨_, rfl, List.forall₂_iff_get.2 ⟨hlength, hitems⟩⟩

theorem of_tuple {as : List Value} (h : Reordered (.tuple as) w) :
    ∃ bs, w = .tuple bs ∧ Forall₂ Reordered as bs := by
  cases h with
  | refl => exact ⟨as, rfl, forall₂_refl as⟩
  | tuple hlength hitems => exact ⟨_, rfl, List.forall₂_iff_get.2 ⟨hlength, hitems⟩⟩

theorem of_record {className : String} {fs : List (String × Value)}
    (h : Reordered (.record className fs) w) :
    ∃ gs, w = .record className gs ∧ Fields Reordered fs gs := by
  cases h with
  | refl => exact ⟨fs, rfl, List.forall₂_same.2 fun f _ => ⟨rfl, .refl f.2⟩⟩
  | @record _ gs _ hnames hlength hvalues =>
    refine ⟨gs, rfl, List.forall₂_iff_get.2 ⟨hlength, fun i h h' => ⟨?_, hvalues i h h'⟩⟩⟩
    have hsame := congrArg (·[i]?) hnames
    simpa [h, h'] using hsame

end Inversion

/-! ### What tells no order -/

variable {v w : Value}

theorem isPrimitive_eq (h : Reordered v w) : v.isPrimitive = w.isPrimitive := by
  cases h <;> rfl

theorem typeName_eq (h : Reordered v w) : v.typeName = w.typeName := by
  cases h with
  | method hreceiver name => rw [typeName, typeName, hreceiver.isPrimitive_eq]
  | _ => rfl

theorem numeric?_eq (h : Reordered v w) : v.numeric? = w.numeric? := by
  cases h <;> rfl

theorem integer?_eq (h : Reordered v w) : v.integer? = w.integer? := by
  cases h <;> rfl

theorem isNan_eq (h : Reordered v w) : v.isNan = w.isNan := by
  cases h <;> rfl

theorem isEmpty_eq {α β : Type} {as : List α} {bs : List β} (hlength : as.length = bs.length) :
    as.isEmpty = bs.isEmpty := by
  rw [Bool.eq_iff_iff, List.isEmpty_iff_length_eq_zero, List.isEmpty_iff_length_eq_zero, hlength]

theorem isTrue_eq (h : Reordered v w) : v.isTrue = w.isTrue := by
  cases h with
  | list hlength _ => exact congrArg not (isEmpty_eq hlength)
  | tuple hlength _ => exact congrArg not (isEmpty_eq hlength)
  | dict hmembers => exact congrArg not (isEmpty_eq hmembers.length_eq)
  | _ => rfl

theorem methodOwner_eq (h : Reordered v w) (name : String) :
    v.methodOwner name = w.methodOwner name := by
  cases h with
  | method hreceiver own => exact (Reordered.method hreceiver own).typeName_eq
  | _ => rfl

/-! ### Texts -/

theorem displayItems_eq {as bs : List Value} (hplain : orderedItems as = false)
    (hitems : Forall₂ (fun a b => a.ordered = false → a.display = b.display) as bs) :
    displayItems as = displayItems bs := by
  induction hitems with
  | nil => rfl
  | cons hhead _ ih =>
    rw [orderedItems, Bool.or_eq_false_iff] at hplain
    rw [displayItems, displayItems, hhead hplain.1, ih hplain.2]

theorem displayFields_eq {fs gs : List (String × Value)} (hplain : orderedFields fs = false)
    (hnames : fs.map (·.1) = gs.map (·.1))
    (hfields : Forall₂ (fun f g => f.2.ordered = false → f.2.display = g.2.display) fs gs) :
    displayFields fs = displayFields gs := by
  induction hfields with
  | nil => rfl
  | cons hhead _ ih =>
    rw [orderedFields, Bool.or_eq_false_iff] at hplain
    obtain ⟨hsame, hnames⟩ := List.cons_eq_cons.1 hnames
    dsimp only at hsame
    rw [displayFields, displayFields, hhead hplain.1, ih hplain.2 hnames, hsame]

theorem themeText_eq {ms ns : Members} (hmembers : Json.Reordered (.object ms) (.object ns))
    (hplain : (Json.object ms).ordered = false) :
    (Theme.mapping ms).display = (Theme.mapping ns).display :=
  congrArg (fun text => "MappingTheme(" ++ text ++ ")") (hmembers.display_eq hplain)

theorem display_eq (h : Reordered v w) (hplain : v.ordered = false) : v.display = w.display := by
  induction h with
  | refl => rfl
  | list hlength _ ih =>
    rw [ordered] at hplain
    rw [display, display, displayItems_eq hplain (List.forall₂_iff_get.2 ⟨hlength, ih⟩)]
  | tuple hlength _ ih =>
    rw [ordered] at hplain
    rw [display, display, displayItems_eq hplain (List.forall₂_iff_get.2 ⟨hlength, ih⟩)]
  | dict hmembers =>
    rw [ordered] at hplain
    simp only [display, hmembers.display_eq hplain]
  | view hmembers =>
    rw [ordered] at hplain
    rw [display, display, themeText_eq hmembers hplain]
  | mapping hmembers =>
    rw [ordered] at hplain
    rw [display, display, themeText_eq hmembers hplain]
  | derived _ hmembers =>
    rw [ordered] at hplain
    rw [display, display]
    exact congrArg Except.ok (themeText_eq hmembers hplain)
  | @method r _ hreceiver name ih =>
    rw [ordered] at hplain
    rw [display, display, hreceiver.typeName_eq, hreceiver.methodOwner_eq,
      ← hreceiver.isPrimitive_eq]
    cases hbuilt : r.isPrimitive with
    | true => rfl
    | false =>
      rw [hbuilt] at hplain
      rw [ih hplain]
  | record className hnames hlength _ ih =>
    rw [ordered] at hplain
    rw [display, display, displayFields_eq hplain hnames (List.forall₂_iff_get.2 ⟨hlength, ih⟩)]

theorem toText_eq (h : Reordered v w) (hplain : v.ordered = false) : v.toText = w.toText := by
  have hsame := h.display_eq hplain
  cases h with
  | refl => rfl
  | _ => exact congrArg (· >>= fun s => pure (Text.ofString s)) hsame

/-! ### Comparisons -/

theorem sameItems_left {as as' : List Value} (bs : List Value)
    (hitems : Forall₂ (fun a a' => a.isNan = a'.isNan ∧ ∀ b, a.same b = a'.same b) as as') :
    sameItems as bs = sameItems as' bs := by
  induction hitems generalizing bs with
  | nil => rfl
  | cons hhead _ ih =>
    cases bs with
    | nil => rfl
    | cons b bs => rw [sameItems, sameItems, ih, hhead.1, hhead.2]

theorem sameItems_right (as : List Value) {bs bs' : List Value}
    (hitems : Forall₂ (fun b b' => b.isNan = b'.isNan ∧ ∀ a : Value, a.same b = a.same b') bs bs') :
    sameItems as bs = sameItems as bs' := by
  induction hitems generalizing as with
  | nil => rfl
  | cons hhead _ ih =>
    cases as with
    | nil => rfl
    | cons a as => rw [sameItems, sameItems, ih, hhead.1, hhead.2]

theorem sameFields_eq (fs gs : List (String × Value)) :
    sameFields fs gs = sameItems (fs.map (·.2)) (gs.map (·.2)) := by
  induction fs generalizing gs with
  | nil => cases gs <;> rfl
  | cons f fs ih =>
    cases gs with
    | nil => rfl
    | cons g gs => rw [sameFields, ih]; rfl

theorem forall₂_values {R : Value → Value → Prop} {fs gs : List (String × Value)}
    (hlength : fs.length = gs.length)
    (hvalues : ∀ i (h : i < fs.length) (h' : i < gs.length),
      R (fs.get ⟨i, h⟩).2 (gs.get ⟨i, h'⟩).2) : Forall₂ R (fs.map (·.2)) (gs.map (·.2)) := by
  rw [List.forall₂_map_left_iff, List.forall₂_map_right_iff]
  exact List.forall₂_iff_get.2 ⟨hlength, hvalues⟩

theorem same_left (h : Reordered v w) (b : Value) : v.same b = w.same b := by
  induction h generalizing b with
  | refl => rfl
  | list hlength hitems ih =>
    cases b with
    | list bs =>
      exact sameItems_left bs (List.forall₂_iff_get.2
        ⟨hlength, fun i h h' => ⟨(hitems i h h').isNan_eq, ih i h h'⟩⟩)
    | _ => rfl
  | tuple hlength hitems ih =>
    cases b with
    | tuple bs =>
      exact sameItems_left bs (List.forall₂_iff_get.2
        ⟨hlength, fun i h h' => ⟨(hitems i h h').isNan_eq, ih i h h'⟩⟩)
    | _ => rfl
  | dict hmembers =>
    cases b with
    | dict ns => exact hmembers.same_left (.object ns)
    | _ => rfl
  | view => cases b <;> rfl
  | mapping =>
    cases b with
    | theme t => cases t <;> rfl
    | _ => rfl
  | derived =>
    cases b with
    | theme t => cases t <;> rfl
    | _ => rfl
  | method hreceiver name ih =>
    cases b with
    | method r own => exact congrArg (name == own && ·) (ih r)
    | _ => rfl
  | record className hnames hlength hvalues ih =>
    cases b with
    | record other gs =>
      refine congrArg (className == other && ·) ?_
      rw [sameFields_eq, sameFields_eq]
      exact sameItems_left _ (forall₂_values hlength
        fun i h h' => ⟨(hvalues i h h').isNan_eq, ih i h h'⟩)
    | _ => rfl

theorem same_right (a : Value) (h : Reordered v w) : a.same v = a.same w := by
  induction h generalizing a with
  | refl => rfl
  | list hlength hitems ih =>
    cases a with
    | list as =>
      exact sameItems_right as (List.forall₂_iff_get.2
        ⟨hlength, fun i h h' => ⟨(hitems i h h').isNan_eq, fun a => ih i h h' a⟩⟩)
    | _ => rfl
  | tuple hlength hitems ih =>
    cases a with
    | tuple as =>
      exact sameItems_right as (List.forall₂_iff_get.2
        ⟨hlength, fun i h h' => ⟨(hitems i h h').isNan_eq, fun a => ih i h h' a⟩⟩)
    | _ => rfl
  | dict hmembers =>
    cases a with
    | dict ms => exact hmembers.same_right (.object ms)
    | _ => rfl
  | view => cases a <;> rfl
  | mapping =>
    cases a with
    | theme t => cases t <;> rfl
    | _ => rfl
  | derived =>
    cases a with
    | theme t => cases t <;> rfl
    | _ => rfl
  | method hreceiver name ih =>
    cases a with
    | method r own => exact congrArg (own == name && ·) (ih r)
    | _ => rfl
  | record className hnames hlength hvalues ih =>
    cases a with
    | record other fs =>
      refine congrArg (other == className && ·) ?_
      rw [sameFields_eq, sameFields_eq]
      exact sameItems_right _ (forall₂_values hlength
        fun i h h' => ⟨(hvalues i h h').isNan_eq, fun a => ih i h h' a⟩)
    | _ => rfl

theorem same_eq {a b a' b' : Value} (ha : Reordered a a') (hb : Reordered b b') :
    a.same b = a'.same b' :=
  (ha.same_left b).trans (hb.same_right a')

theorem sameItem_eq {a b a' b' : Value} (ha : Reordered a a') (hb : Reordered b b') :
    sameItem a b = sameItem a' b' := by
  rw [sameItem, sameItem, ha.isNan_eq, hb.isNan_eq, ha.same_eq hb]

section Order

variable (op : CompareOp)

theorem orderItems_left {as as' : List Value} (bs : List Value)
    (hitems : Forall₂ (fun a a' => Reordered a a' ∧ ∀ b, order op a b = order op a' b) as as') :
    orderItems op as bs = orderItems op as' bs := by
  induction hitems generalizing bs with
  | nil => rfl
  | cons hhead _ ih =>
    cases bs with
    | nil => rfl
    | cons b bs => rw [orderItems, orderItems, hhead.1.sameItem_eq (.refl b), hhead.2, ih]

theorem orderItems_right (as : List Value) {bs bs' : List Value}
    (hitems : Forall₂ (fun b b' => Reordered b b' ∧ ∀ a, order op a b = order op a b') bs bs') :
    orderItems op as bs = orderItems op as bs' := by
  induction hitems generalizing as with
  | nil => rfl
  | cons hhead _ ih =>
    cases as with
    | nil => rfl
    | cons a as => rw [orderItems, orderItems, (Reordered.refl a).sameItem_eq hhead.1, hhead.2, ih]

theorem order_left (h : Reordered v w) (b : Value) : order op v b = order op w b := by
  induction h generalizing b with
  | list hlength hitems ih =>
    cases b with
    | list bs =>
      exact orderItems_left op bs (List.forall₂_iff_get.2
        ⟨hlength, fun i h h' => ⟨hitems i h h', ih i h h'⟩⟩)
    | _ => rfl
  | tuple hlength hitems ih =>
    cases b with
    | tuple bs =>
      exact orderItems_left op bs (List.forall₂_iff_get.2
        ⟨hlength, fun i h h' => ⟨hitems i h h', ih i h h'⟩⟩)
    | _ => rfl
  | method hreceiver name _ =>
    have hsame := (Reordered.method hreceiver name).typeName_eq
    cases b <;> exact congrArg (fun t => Except.error (EvalError.notOrdered op.text t _)) hsame
  | _ => cases b <;> rfl

theorem order_right (a : Value) (h : Reordered v w) : order op a v = order op a w := by
  induction h generalizing a with
  | list hlength hitems ih =>
    cases a with
    | list as =>
      exact orderItems_right op as (List.forall₂_iff_get.2
        ⟨hlength, fun i h h' => ⟨hitems i h h', fun a => ih i h h' a⟩⟩)
    | _ => rfl
  | tuple hlength hitems ih =>
    cases a with
    | tuple as =>
      exact orderItems_right op as (List.forall₂_iff_get.2
        ⟨hlength, fun i h h' => ⟨hitems i h h', fun a => ih i h h' a⟩⟩)
    | _ => rfl
  | method hreceiver name _ =>
    have hsame := (Reordered.method hreceiver name).typeName_eq
    cases a <;> exact congrArg (fun t => Except.error (EvalError.notOrdered op.text _ t)) hsame
  | _ => cases a <;> rfl

theorem compare_eq {a b a' b' : Value} (ha : Reordered a a') (hb : Reordered b b') :
    Value.compare op a b = Value.compare op a' b' := by
  have hordered : order op a b = order op a' b' := (ha.order_left op b).trans (order_right op a' hb)
  cases op with
  | eq => exact congrArg Except.ok (ha.same_eq hb)
  | ne => exact congrArg (fun same => Except.ok !same) (ha.same_eq hb)
  | _ => exact hordered

end Order

/-! ### Arithmetic -/

theorem repeatItems {as bs : List Value} (hitems : Forall₂ Reordered as bs) (n : Int) :
    Forall₂ Reordered (Value.repeatItems as n) (Value.repeatItems bs n) := by
  apply List.rel_flatten
  rw [List.forall₂_iff_get]
  refine ⟨by simp, fun i h h' => ?_⟩
  simpa using hitems

theorem repeatTimes {make make' : Int → Value} (isText : Bool) (length : Nat) (n : Int)
    (hmade : ∀ n, Reordered (make n) (make' n)) :
    Agree Reordered (Value.repeatTimes isText length n make)
      (Value.repeatTimes isText length n make') := by
  unfold Value.repeatTimes
  split_ifs
  · exact .ok (hmade 0)
  · exact .error _
  · exact .error _
  · exact .ok (hmade n)

theorem repeat?_count (v : Value) {c c' : Value} (h : Reordered c c') :
    v.repeat? c = v.repeat? c' := by
  simp only [repeat?, h.integer?_eq, h.typeName_eq]

theorem repeat? (h : Reordered v w) (count : Value) :
    Option.Rel (Agree Reordered) (v.repeat? count) (w.repeat? count) := by
  -- a list and a tuple are repeated as many times as the count says
  have htimes (n : Int) {as bs : List Value} (hlength : as.length = bs.length)
      {make make' : Int → Value} (hmade : ∀ n, Reordered (make n) (make' n)) :
      Agree Reordered
        (if n > maxCount ∨ n < -maxCount - 1 then .error (EvalError.overflow .count)
          else Value.repeatTimes false as.length n make)
        (if n > maxCount ∨ n < -maxCount - 1 then .error (EvalError.overflow .count)
          else Value.repeatTimes false bs.length n make') := by
    rw [hlength]
    split_ifs
    · exact .error _
    · exact repeatTimes false bs.length n hmade
  cases h with
  | refl =>
    cases v.repeat? count with
    | none => exact .none
    | some outcome => exact .some (.of_eq .refl rfl)
  | list hlength hitems =>
    have heach := List.forall₂_iff_get.2 ⟨hlength, hitems⟩
    refine .some ?_
    cases count.integer? with
    | none => exact .error _
    | some n => exact htimes n hlength fun n => list_of_forall₂ (repeatItems heach n)
  | tuple hlength hitems =>
    have heach := List.forall₂_iff_get.2 ⟨hlength, hitems⟩
    refine .some ?_
    cases count.integer? with
    | none => exact .error _
    | some n => exact htimes n hlength fun n => tuple_of_forall₂ (repeatItems heach n)
  | _ => exact .none

section Arith

variable {a b a' b' : Value} (ha : Reordered a a') (hb : Reordered b b')
include ha hb

theorem unsupported_eq (op : ArithOp) : unsupported op a b = unsupported op a' b' := by
  rw [unsupported, unsupported, ha.typeName_eq, hb.typeName_eq]

theorem repeat?_both : Option.Rel (Agree Reordered) (a.repeat? b) (a'.repeat? b') := by
  rw [← repeat?_count a' hb]
  exact ha.repeat? b

theorem mul : Agree Reordered (sequenceArith .mul a b) (sequenceArith .mul a' b') := by
  have hleft := ha.repeat?_both hb
  have hright := hb.repeat?_both ha
  simp only [sequenceArith, ha.unsupported_eq hb]
  generalize a.repeat? b = x at hleft ⊢
  generalize a'.repeat? b' = x' at hleft ⊢
  generalize b.repeat? a = y at hright ⊢
  generalize b'.repeat? a' = y' at hright ⊢
  cases hleft with
  | some hrelated => exact hrelated
  | none =>
    cases hright with
    | some hrelated => exact hrelated
    | none => exact .of_eq .refl rfl

theorem rem : Agree Reordered (sequenceArith .rem a b) (sequenceArith .rem a' b') := by
  have hsame := ha.unsupported_eq hb .rem
  cases a with
  | text s =>
    cases ha
    simp only [sequenceArith]
    split_ifs
    · exact .error _
    -- a text without percent signs takes nothing, so only whether a tuple is empty counts
    · cases hb with
      | @tuple as bs hlength _ =>
        match as, bs, hlength with
        | [], [], _ => exact .ok (.refl _)
        | _ :: _, _ :: _, _ => exact .error _
      | refl => exact .of_eq .refl rfl
      | method => exact .error _
      | record => exact .error _
      | _ => exact .ok (.refl _)
  | _ => cases ha <;> exact .of_eq .refl hsame

theorem add : Agree Reordered (sequenceArith .add a b) (sequenceArith .add a' b') := by
  have hsame := ha.unsupported_eq hb .add
  have hdiffer (kind : SequenceKind) :
      Agree Reordered (.error (EvalError.cannotConcatenate kind b.typeName))
        (.error (EvalError.cannotConcatenate kind b'.typeName)) := by
    rw [hb.typeName_eq]
    exact .error _
  cases a with
  | text s =>
    cases ha
    cases hb with
    | refl => exact .of_eq .refl rfl
    | _ => exact hdiffer .text
  | list as =>
    obtain ⟨as', rfl, hitems⟩ := ha.of_list
    cases b with
    | list bs =>
      obtain ⟨bs', rfl, hothers⟩ := hb.of_list
      exact .ok (list_of_forall₂ (List.rel_append hitems hothers))
    | _ => cases hb <;> exact hdiffer .list
  | tuple as =>
    obtain ⟨as', rfl, hitems⟩ := ha.of_tuple
    cases b with
    | tuple bs =>
      obtain ⟨bs', rfl, hothers⟩ := hb.of_tuple
      exact .ok (tuple_of_forall₂ (List.rel_append hitems hothers))
    | _ => cases hb <;> exact hdiffer .tuple
  | _ => cases ha <;> exact .of_eq .refl hsame

theorem arith (op : ArithOp) : Agree Reordered (Value.arith op a b) (Value.arith op a' b') := by
  have hsequences : Agree Reordered (sequenceArith op a b) (sequenceArith op a' b') := by
    cases op with
    | add => exact ha.add hb
    | mul => exact ha.mul hb
    | rem => exact ha.rem hb
    | _ => exact .of_eq .refl (ha.unsupported_eq hb _)
  rw [Value.arith, Value.arith, ← ha.numeric?_eq, ← hb.numeric?_eq]
  cases a.numeric? with
  | none => exact hsequences
  | some m =>
    cases b.numeric? with
    | none => exact hsequences
    | some n => exact .of_eq .refl rfl

end Arith

theorem signed_eq (negative : Bool) (h : Reordered v w) :
    v.signed negative = w.signed negative := by
  cases h with
  | method hreceiver own =>
    exact congrArg (fun t => Except.error (EvalError.noSign (if negative then "-" else "+") t))
      (Reordered.method hreceiver own).typeName_eq
  | _ => rfl

end Reordered

end Value
end ScopedCss

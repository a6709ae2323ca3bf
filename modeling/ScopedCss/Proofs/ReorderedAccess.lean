import ScopedCss.Proofs.ReorderedValues
import ScopedCss.Value.Access

/-!
Attributes, items and calls of values that hold data with its members in another order. What is read
or returned differs in the order of members only, and the errors are the same, as long as no text is
made that tells the order.
-/
namespace ScopedCss.Value

open List (Forall₂)

namespace Reordered

variable {v w : Value}

/-! ### Data -/

theorem ofItems_eq_map (items : List Json) : ofItems items = items.map ofJson := by
  induction items with
  | nil => rfl
  | cons j js ih => rw [ofItems, ih, List.map_cons]

theorem ofJson {a b : Json} (h : a.Reordered b) : Reordered (.ofJson a) (.ofJson b) := by
  induction h with
  | refl => exact .refl _
  | list hlength _ ih =>
    rw [Value.ofJson, Value.ofJson, ofItems_eq_map, ofItems_eq_map]
    apply list_of_forall₂
    rw [List.forall₂_map_left_iff, List.forall₂_map_right_iff]
    exact List.forall₂_iff_get.2 ⟨hlength, ih⟩
  | object hnames hmembers => exact .dict (.object hnames hmembers)

theorem wrap {a b : Json} (h : a.Reordered b) : Reordered (.wrap a) (.wrap b) := by
  cases h with
  | refl => exact .refl _
  | list hlength hitems => exact ofJson (.list hlength hitems)
  | object hnames hmembers => exact .view (.object hnames hmembers)

/-! ### Attributes and items -/

theorem classOf_eq (h : Reordered v w) : v.classOf = w.classOf := by
  cases h with
  | method hreceiver own =>
    exact congrArg ClassRef.builtin (Reordered.method hreceiver own).typeName_eq
  | record className hnames _ _ => exact congrArg (ClassRef.generated className) hnames
  | _ => rfl

theorem mappingAttribute {ms ns : Members} (h : Reordered v w)
    (hmembers : Json.Reordered (.object ms) (.object ns)) (name : String) :
    Agree Reordered (v.mappingAttribute ms name) (w.mappingAttribute ns name) := by
  unfold Value.mappingAttribute
  split_ifs
  · exact .ok (.method h name)
  · exact .ok (.dict hmembers)
  · exact .ok (.dict (hmembers.object_singleton _))
  · rw [h.classOf_eq]
    exact .ok (.refl _)
  · exact .error _
  · exact .error _
  · have hfound := hmembers.lookup (name : Text)
    generalize ms.lookup (name : Text) = x at hfound ⊢
    generalize ns.lookup (name : Text) = y at hfound ⊢
    cases hfound with
    | none => exact .error _
    | some h => exact .ok (wrap h)

theorem attribute? (h : Reordered v w) (name : String) :
    Option.Rel Reordered (v.attribute? name) (w.attribute? name) := by
  cases h with
  | refl =>
    cases v.attribute? name with
    | none => exact .none
    | some a => exact .some (.refl a)
  | method hreceiver own =>
    simp only [Value.attribute?]
    split_ifs
    · exact .some (.refl _)
    · exact .some hreceiver
    · exact .none
  | record className hnames hlength hvalues =>
    obtain ⟨gs, hsame, hfields⟩ := (Reordered.record className hnames hlength hvalues).of_record
    cases hsame
    exact hfields.lookup name
  | _ => exact .none

theorem builtinMethod? (h : Reordered v w) (name : String) :
    Option.Rel Reordered (v.builtinMethod? name) (w.builtinMethod? name) := by
  simp only [Value.builtinMethod?, h.isPrimitive_eq, h.typeName_eq]
  split_ifs
  · exact .some (.method h name)
  · exact .none

theorem attributeHolder_eq (h : Reordered v w) : v.attributeHolder = w.attributeHolder := by
  cases h with
  | method hreceiver own =>
    simp only [attributeHolder, hreceiver.isPrimitive_eq,
      (Reordered.method hreceiver own).typeName_eq]
  | _ => rfl

theorem mayHave_eq (h : Reordered v w) (name : String) : v.mayHave name = w.mayHave name := by
  cases h <;> rfl

theorem or_rel {x x' y y' : Option Value} (hfirst : Option.Rel Reordered x x')
    (hsecond : Option.Rel Reordered y y') : Option.Rel Reordered (x.or y) (x'.or y') := by
  cases hfirst with
  | none => exact hsecond
  | some h => exact .some h

/-- What is neither a mapping nor a class has the attributes of its type and its class. -/
theorem attributeOf_eq (v : Value) (name : String) (hnotMapping : v.members? = Option.none)
    (hnotClass : ∀ c, v ≠ .classRef c) :
    v.attributeOf name = ((v.attribute? name).or (v.builtinMethod? name)).elim
      (if name = "__class__" then .ok (.classRef v.classOf)
        else if v.mayHave name then .error .undescribed
        else .error (.noAttribute v.attributeHolder name)) .ok := by
  unfold Value.attributeOf
  split
  · cases hnotMapping
  · cases hnotMapping
  · cases hnotMapping
  · split
    · rename_i hfound
      rw [hfound]
      rfl
    · exact absurd rfl (hnotClass _)
    · rename_i hfound
      rw [hfound]
      rfl

theorem attributeOf_of_plain (h : Reordered v w) (name : String) (hv : v.members? = Option.none)
    (hw : w.members? = Option.none) (hv' : ∀ c, v ≠ .classRef c) (hw' : ∀ c, w ≠ .classRef c) :
    Agree Reordered (v.attributeOf name) (w.attributeOf name) := by
  rw [attributeOf_eq v name hv hv', attributeOf_eq w name hw hw', h.classOf_eq, h.mayHave_eq,
    h.attributeHolder_eq]
  exact .elim (or_rel (h.attribute? name) (h.builtinMethod? name)) (.of_eq .refl rfl)
    fun _ _ => .ok

theorem attributeOf (h : Reordered v w) (name : String) :
    Agree Reordered (v.attributeOf name) (w.attributeOf name) := by
  cases h with
  | refl => exact .of_eq .refl rfl
  | view hmembers => exact mappingAttribute (.view hmembers) hmembers name
  | mapping hmembers => exact mappingAttribute (.mapping hmembers) hmembers name
  | derived c hmembers => exact mappingAttribute (.derived c hmembers) hmembers name
  | list hlength hitems =>
    exact attributeOf_of_plain (.list hlength hitems) name rfl rfl (by rintro _ ⟨⟩) (by rintro _ ⟨⟩)
  | tuple hlength hitems =>
    exact attributeOf_of_plain (.tuple hlength hitems) name rfl rfl (by rintro _ ⟨⟩)
      (by rintro _ ⟨⟩)
  | dict hmembers =>
    exact attributeOf_of_plain (.dict hmembers) name rfl rfl (by rintro _ ⟨⟩) (by rintro _ ⟨⟩)
  | method hreceiver own =>
    exact attributeOf_of_plain (.method hreceiver own) name rfl rfl (by rintro _ ⟨⟩)
      (by rintro _ ⟨⟩)
  | record className hnames hlength hvalues =>
    exact attributeOf_of_plain (.record className hnames hlength hvalues) name rfl rfl
      (by rintro _ ⟨⟩) (by rintro _ ⟨⟩)

theorem unhashableItem?_eq {as bs : List Value}
    (hitems : Forall₂ (fun a b => unhashable? a = unhashable? b) as bs) :
    unhashableItem? as = unhashableItem? bs := by
  induction hitems with
  | nil => rfl
  | cons hhead _ ih => rw [unhashableItem?, unhashableItem?, hhead, ih]

theorem unhashableField?_eq {fs gs : List (String × Value)}
    (hfields : Forall₂ (fun f g => unhashable? f.2 = unhashable? g.2) fs gs) :
    unhashableField? fs = unhashableField? gs := by
  induction hfields with
  | nil => rfl
  | cons hhead _ ih => rw [unhashableField?, unhashableField?, hhead, ih]

theorem unhashable?_eq (h : Reordered v w) : unhashable? v = unhashable? w := by
  induction h with
  | tuple hlength _ ih =>
    exact unhashableItem?_eq (List.forall₂_iff_get.2 ⟨hlength, ih⟩)
  | record _ _ hlength _ ih =>
    exact unhashableField?_eq (List.forall₂_iff_get.2 ⟨hlength, ih⟩)
  | _ => rfl

theorem member_text (ms : Members) (t : Text) :
    Value.member ms (.text t) = (ms.lookup t).elim (.error (.noKey t.display)) .ok := by
  simp only [Value.member, unhashable?]
  cases ms.lookup t <;> rfl

/-- A key that is no text is missing, and the error shows it. -/
theorem member_of_ne_text (ms : Members) (hnotText : ∀ t, v ≠ .text t) :
    Value.member ms v =
      (unhashable? v).elim (v.display >>= fun key => .error (.noKey key))
        fun t => .error (.unhashable t) := by
  unfold Value.member
  split
  · rename_i hfound
    rw [hfound]
    rfl
  · exact absurd rfl (hnotText _)
  · rename_i hfound
    rw [hfound]
    rfl

theorem member_of_plain {ms ns : Members} (h : Reordered v w) (hplain : v.ordered = false)
    (hv : ∀ t, v ≠ .text t) (hw : ∀ t, w ≠ .text t) : Value.member ms v = Value.member ns w := by
  rw [member_of_ne_text ms hv, member_of_ne_text ns hw, h.unhashable?_eq, h.display_eq hplain]

theorem member {ms ns : Members} (hmembers : Json.Reordered (.object ms) (.object ns))
    (h : Reordered v w) (hplain : v.ordered = false) :
    Agree Json.Reordered (Value.member ms v) (Value.member ns w) := by
  by_cases htext : ∃ t, v = .text t
  · obtain ⟨t, rfl⟩ := htext
    cases h
    rw [member_text, member_text]
    exact .elim (hmembers.lookup t) (.error _) fun _ _ => .ok
  · have hv : ∀ t, v ≠ .text t := fun t hsame => htext ⟨t, hsame⟩
    have hw : ∀ t, w ≠ .text t := by
      rintro t rfl
      cases h
      exact hv t rfl
    exact .of_eq .refl (h.member_of_plain hplain hv hw)

theorem position_eq (kind : SequenceKind) (length : Nat) (h : Reordered v w) :
    position kind length v = position kind length w := by
  rw [position, position, h.integer?_eq, h.typeName_eq]

theorem nth {as bs : List Value} (kind : SequenceKind) (hitems : Forall₂ Reordered as bs)
    (h : Reordered v w) : Agree Reordered (Value.nth kind as v) (Value.nth kind bs w) := by
  rw [Value.nth, Value.nth, h.position_eq, hitems.length_eq]
  refine .bind (.of_eq (fun _ => rfl) rfl) ?_
  rintro i _ rfl
  apply Agree.ok
  by_cases hinside : i < as.length
  · rw [List.getD_eq_getElem _ _ hinside, List.getD_eq_getElem _ _ (hitems.length_eq ▸ hinside)]
    exact hitems.get hinside _
  · rw [List.getD_eq_default _ _ (by omega),
      List.getD_eq_default _ _ (by rw [← hitems.length_eq]; omega)]
    exact .refl _

theorem subscript {index index' : Value} (h : Reordered v w) (hi : Reordered index index')
    (hplain : index.ordered = false) :
    Agree Reordered (v.subscript index) (w.subscript index') := by
  have hread {ms ns : Members} (hmembers : Json.Reordered (.object ms) (.object ns)) :
      Agree Reordered ((Value.member ms index).map .wrap) ((Value.member ns index').map .wrap) :=
    (member hmembers hi hplain).map fun _ _ => wrap
  cases h with
  | view hmembers => exact hread hmembers
  | mapping hmembers => exact hread hmembers
  | derived c hmembers => exact hread hmembers
  | dict hmembers => exact (member hmembers hi hplain).map fun _ _ => ofJson
  | list hlength hitems => exact nth .list (List.forall₂_iff_get.2 ⟨hlength, hitems⟩) hi
  | tuple hlength hitems => exact nth .tuple (List.forall₂_iff_get.2 ⟨hlength, hitems⟩) hi
  | method hreceiver own =>
    have hsame := (Reordered.method hreceiver own).typeName_eq
    exact .of_eq .refl (congrArg (fun t => Except.error (EvalError.notSubscriptable t)) hsame)
  | record => exact .error _
  | refl =>
    cases v with
    | view ms => exact hread (.refl _)
    | theme t =>
      cases t with
      | mapping ms => exact hread (.refl _)
      | derived c ms => exact hread (.refl _)
      | _ => exact .error _
    | dict ms => exact (member (.refl _) hi hplain).map fun _ _ => ofJson
    | list items => exact nth .list (forall₂_refl items) hi
    | tuple items => exact nth .tuple (forall₂_refl items) hi
    | text t => exact .of_eq .refl (by simp only [Value.subscript, hi.position_eq])
    | classRef c => cases c <;> exact .error _
    | _ => exact .error _

end Reordered

/-! ### Arguments -/

section Arguments

variable {R : Value → Value → Prop} {args args' : List Value}
  {keywords keywords' : List (String × Value)}

/-- The values of so many parameters, one by one. -/
structure Bound (R : Value → Value → Prop) (count : Nat) (values values' : List (Option Value)) :
    Prop where
  length : values.length = count
  each : Forall₂ (Option.Rel R) values values'

variable (hitems : Forall₂ R args args') (hnamed : Fields R keywords keywords')
include hitems hnamed

/-- The values of parameters, whatever they are, come from the arguments and the keywords. -/
theorem bound_values (names : List String) (hfit : args.length ≤ names.length) :
    Bound R names.length (args.map some ++ (names.drop args.length).map fun n => keywords.lookup n)
      (args'.map some ++ (names.drop args.length).map fun n => keywords'.lookup n) where
  length := by
    rw [List.length_append, List.length_map, List.length_map, List.length_drop]
    omega
  each := by
    apply List.rel_append
    · rw [List.forall₂_map_left_iff, List.forall₂_map_right_iff]
      exact hitems.imp fun _ _ => .some
    · rw [List.forall₂_map_left_iff, List.forall₂_map_right_iff, List.forall₂_same]
      exact fun n _ => hnamed.lookup n

theorem bind_agree (p : Parameters) :
    Agree (Bound R p.names.length) (p.bind args keywords) (p.bind args' keywords') := by
  have hchecked : (keywords.forM fun k => p.checkKeyword args.length k.1) =
      keywords'.forM fun k => p.checkKeyword args.length k.1 := by
    have hbyName (ks : List (String × Value)) :
        (ks.forM fun k => p.checkKeyword args.length k.1) =
          (ks.map (·.1)).forM (p.checkKeyword args.length) :=
      List.forM_map.symm
    rw [hbyName, hbyName, hnamed.names_eq]
  unfold Parameters.bind
  rw [hchecked, ← hitems.length_eq, hnamed.names_eq]
  refine .bind (.of_eq (R := fun _ _ => True) (fun _ => trivial) rfl) fun _ _ _ => ?_
  split_ifs with hmany
  · exact .error _
  · dsimp only
    cases p.missing args.length (keywords'.map (·.1)) with
    | nil => exact .ok (bound_values hitems hnamed p.names (by omega))
    | cons => exact .error _

theorem textArguments_agree :
    Agree (Bound R 3) (textArguments args keywords) (textArguments args' keywords') := by
  have htaken (name : String) : (keywords.any fun k => k.1 == name) =
      keywords'.any fun k => k.1 == name := by
    have hbyName (ks : List (String × Value)) :
        (ks.any fun k => k.1 == name) = (ks.map (·.1)).any (· == name) := by
      rw [List.any_map]
      rfl
    rw [hbyName, hbyName, hnamed.names_eq]
  have hunknown := hnamed.find? fun name => !textNames.contains name
  simp only [textArguments, ← hitems.length_eq, hnamed.length_eq, htaken,
    ← Reordered.isEmpty_eq hitems.length_eq]
  split_ifs with hmany
  · exact .error _
  · cases textNames.zipIdx.find? _ with
    | some repeated => exact .error _
    | none =>
      dsimp only
      generalize (keywords.find? fun k => !textNames.contains k.1) = x at hunknown ⊢
      generalize (keywords'.find? fun k => !textNames.contains k.1) = y at hunknown ⊢
      cases hunknown with
      | none => exact .ok (bound_values hitems hnamed textNames (by omega))
      | @some k k' hsame =>
        obtain ⟨name, v⟩ := k
        obtain ⟨name', v'⟩ := k'
        obtain rfl : name = name' := hsame
        exact .error _

theorem arguments_agree (p : Parameters) :
    Agree (Bound R p.names.length) (arguments p args keywords) (arguments p args' keywords') :=
  (bind_agree hitems hnamed p).mapError _

end Arguments

/-! ### Calls -/

/-- In another order, which the text does not tell. -/
def Plain (v w : Value) : Prop := Reordered v w ∧ v.ordered = false

/-- Whether a call of a value makes a text of its arguments. -/
def makesText : Value → Bool
  | .function .pixels => true
  | .classRef .text => true
  | _ => false

section Texts

variable {args args' : List Value} {keywords keywords' : List (String × Value)}
  (hitems : Forall₂ Plain args args') (hnamed : Fields Plain keywords keywords')

include hitems hnamed in
theorem callPixels_eq : callPixels args keywords = callPixels args' keywords' := by
  apply Agree.eq
  refine (arguments_agree hitems hnamed _).bind fun values values' hbound => ?_
  match values, values', hbound with
  | [_], [_], ⟨_, .cons hgiven .nil⟩ =>
    cases hgiven with
    | none => exact .ok rfl
    | some hplain => exact .of_eq (fun _ => rfl) (congrArg (· >>= _) (hplain.1.toText_eq hplain.2))

theorem checkTextArgument_eq (name : String) {x y : Option Value} (h : Option.Rel Plain x y) :
    checkTextArgument name x = checkTextArgument name y := by
  cases h with
  | none => rfl
  | some hplain =>
    have hsame := hplain.1.typeName_eq
    cases hplain.1 with
    | refl => rfl
    | _ => exact congrArg (fun t => Except.error (TextFault.notText name t)) hsame

theorem isSome_eq {x y : Option Value} (h : Option.Rel Plain x y) : x.isSome = y.isSome := by
  cases h <;> rfl

include hitems hnamed in
theorem callText_eq : callText args keywords = callText args' keywords' := by
  apply Agree.eq
  refine ((textArguments_agree hitems hnamed).mapError _).bind fun values values' hbound => ?_
  match values, values', hbound with
  | [_, _, _], [_, _, _], ⟨_, .cons hobject (.cons hencoding (.cons herrors .nil))⟩ =>
    dsimp only
    rw [checkTextArgument_eq _ hencoding, checkTextArgument_eq _ herrors, isSome_eq hencoding,
      isSome_eq herrors]
    refine .of_eq (fun _ => rfl) (bind_congr fun _ => bind_congr fun _ => ?_)
    generalize (_ || _) = decoding
    cases hobject with
    | none => rfl
    | some hplain =>
      cases decoding with
      | false => exact congrArg (· >>= _) (hplain.1.toText_eq hplain.2)
      | true =>
        have hsame := hplain.1.typeName_eq
        cases hplain.1 with
        | refl => rfl
        | _ => exact congrArg (fun t => Except.error (EvalError.textCall (.cannotDecode t))) hsame

end Texts

namespace Reordered

variable {v w : Value}

theorem members? (h : Reordered v w) :
    Option.Rel (fun ms ns => Json.Reordered (.object ms) (.object ns)) v.members? w.members? := by
  cases h with
  | refl =>
    cases v.members? with
    | none => exact .none
    | some ms => exact .some (.refl _)
  | view hmembers => exact .some hmembers
  | mapping hmembers => exact .some hmembers
  | derived c hmembers => exact .some hmembers
  | _ => exact .none

theorem quickSame_left (h : Reordered v w) (other : Value) :
    quickSame v other = quickSame w other := by
  cases h with
  | refl => rfl
  | view hmembers | mapping hmembers | derived _ hmembers =>
    simp only [quickSame]
    cases other.members? with
    | none => rfl
    | some ns => exact hmembers.same_left _
  | _ => rfl

theorem quickSame_right (v : Value) {other other' : Value} (h : Reordered other other') :
    quickSame v other = quickSame v other' := by
  -- a mapping is compared through its members, as a view of them is
  have hviewed (ms : Members) : quickSame (.view ms) other = quickSame (.view ms) other' := by
    simp only [quickSame]
    have hright := h.members?
    generalize other.members? = y, other'.members? = y' at hright ⊢
    cases hright with
    | none => rfl
    | some hn => exact hn.same_right _
  cases v with
  | view ms => exact hviewed ms
  | theme t =>
    cases t with
    | empty => rfl
    | custom _ c => cases h <;> rfl
    | mapping ms | derived _ ms => exact hviewed ms
    | plain name => rfl
  | _ => rfl

theorem quickSame_eq {other other' : Value} (h : Reordered v w) (ho : Reordered other other') :
    quickSame v other = quickSame w other' :=
  (h.quickSame_left other).trans (quickSame_right w ho)

section Calls

variable {args args' : List Value} {keywords keywords' : List (String × Value)}
  (hitems : Forall₂ Reordered args args') (hnamed : Fields Reordered keywords keywords')
include hitems hnamed

theorem callClass (className : String) (fields : List String) :
    Agree Reordered (Value.callClass className fields args keywords)
      (Value.callClass className fields args' keywords') := by
  refine (arguments_agree (.cons (.refl .none) hitems) hnamed _).bind
    fun values values' hbound => ?_
  refine .ok (.record_of_fields className (.zip fields ?_))
  rw [List.forall₂_map_left_iff, List.forall₂_map_right_iff]
  refine (List.forall₂_drop 1 hbound.each).imp fun x y h => ?_
  cases h with
  | none => exact .refl _
  | some h => exact h

theorem callMethod (h : Reordered v w) (name : String) :
    Agree Reordered (v.callMethod name args keywords) (w.callMethod name args' keywords') := by
  unfold Value.callMethod
  rw [h.methodOwner_eq]
  dsimp only
  split
  · refine (arguments_agree (.cons h hitems) hnamed _).bind fun values values' hbound => ?_
    match values, values', hbound with
    | [_, _], [_, _], ⟨_, .cons _ (.cons hgiven .nil)⟩ =>
      cases hgiven with
      | none => exact .ok (.refl _)
      | some hother =>
        dsimp only
        rw [h.quickSame_eq hother]
        exact .ok (.refl _)
  · refine (arguments_agree (.cons h hitems) hnamed _).bind fun values values' hbound => ?_
    match values, values', hbound with
    | [_, _], [_, _], ⟨_, .cons _ (.cons hgiven .nil)⟩ =>
      cases hgiven with
      | none => exact .ok (.refl _)
      | @some v w h =>
        have hkept : Agree Reordered (pure v : Except EvalError Value) (pure w) := .ok h
        cases h with
        | dict hmembers => exact .ok (.view hmembers)
        | refl => cases v <;> exact .ok (.refl _)
        | _ => exact hkept
  · exact .error _

end Calls

theorem call {f g : Value} {args args' : List Value} {keywords keywords' : List (String × Value)}
    (h : Reordered f g) (hitems : Forall₂ Reordered args args')
    (hnamed : Fields Reordered keywords keywords')
    (hplain : f.makesText = true → Forall₂ Plain args args' ∧ Fields Plain keywords keywords') :
    Agree Reordered (f.call args keywords) (g.call args' keywords') := by
  cases h with
  | method hreceiver name => exact callMethod hitems hnamed hreceiver name
  | refl =>
    cases f with
    | function f =>
      cases f with
      | pixels =>
        obtain ⟨hitems, hnamed⟩ := hplain rfl
        exact .of_eq .refl (callPixels_eq hitems hnamed)
      | _ => exact .error _
    | classRef c =>
      cases c with
      | text =>
        obtain ⟨hitems, hnamed⟩ := hplain rfl
        exact .of_eq .refl (callText_eq hitems hnamed)
      | generated name fields => exact callClass hitems hnamed name fields
      | emptyTheme =>
        have htaken := arguments_agree (.cons (.refl .none) hitems) hnamed
          ⟨"EmptyTheme.__init__", ["self"], 0⟩
        exact (htaken.map (S := fun _ _ : Unit => True) fun _ _ _ => trivial).bind
          fun _ _ _ => .ok (.refl _)
      | _ => exact .error _
    | method receiver name => exact callMethod hitems hnamed (.refl receiver) name
    | _ => exact .error _
  | _ => exact .error _

end Reordered
end ScopedCss.Value

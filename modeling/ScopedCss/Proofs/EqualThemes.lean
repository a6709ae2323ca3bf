import ScopedCss.Proofs.ReorderedAccess
import ScopedCss.Proofs.Evolution

/-!
Stylesheets against equal themes. A provider that is given a theme equal to its own renders nothing
anew. Main statement: nothing is lost by that if the numbers of the two themes are of the same
types, zeros have the same signs, and the stylesheets tell no order of members: every class then
writes the same text against both, or fails with the same error. Equality alone does not do, since
it takes a whole number for a fraction, one zero for the other and one order of members for another,
and texts tell all of these apart.
-/
namespace ScopedCss

open List (Forall₂)
open Value (Reordered Plain)

namespace Expr

/-- Whether an expression has a value with a property. -/
def yields (s : Scope) (p : Value → Bool) (e : Expr) : Bool :=
  match e.eval s with
  | .ok v => p v
  | .error _ => false

mutual

/-- Whether an evaluation makes a text that tells an order of members: of a piece of a text, of a
key, or of an argument of what makes texts. -/
def showsOrder (s : Scope) : Expr → Bool
  | .list items => itemsShowOrder s items
  | .tuple items => itemsShowOrder s items
  | .joined pieces => itemsShowOrder s pieces || pieces.any (·.yields s Value.ordered)
  | .attribute e _ => showsOrder s e
  | .subscript e index =>
    showsOrder s e || showsOrder s index || index.yields s Value.ordered
  | .call f args _ =>
    showsOrder s f || itemsShowOrder s args ||
      f.yields s Value.makesText && args.any (·.yields s Value.ordered)
  | .sign _ e => showsOrder s e
  | .not e => showsOrder s e
  | .arith _ a b => showsOrder s a || showsOrder s b
  | .compare first _ others => showsOrder s first || itemsShowOrder s others
  | .and a b => showsOrder s a || a.yields s Value.isTrue && showsOrder s b
  | .or a b => showsOrder s a || !a.yields s Value.isTrue && showsOrder s b
  | .choice condition yes no =>
    showsOrder s condition ||
      if condition.yields s Value.isTrue then showsOrder s yes else showsOrder s no
  | _ => false

def itemsShowOrder (s : Scope) : List Expr → Bool
  | [] => false
  | e :: es => showsOrder s e || itemsShowOrder s es

end

theorem yields_eq {s : Scope} {e : Expr} {v : Value} (h : e.eval s = .ok v) (p : Value → Bool) :
    e.yields s p = p v := by
  rw [yields, h]

/-- Whether nothing is said about what an expression comes to. -/
def isUndescribed (s : Scope) (e : Expr) : Bool :=
  match e.eval s with
  | .error .undescribed => true
  | _ => false

section Agreement

variable {s : Scope} {t : Theme}

theorem lookup_agree (hthemes : Reordered (.ofTheme s.theme) (.ofTheme t)) (name : String) :
    Agree Reordered (s.lookup name) ({ s with theme := t }.lookup name) := by
  unfold Scope.lookup
  split
  · exact .ok hthemes
  · exact .of_eq .refl rfl

/-- Items of which none tells an order by its text. -/
theorem forall₂_plain {es : List Expr} {vs ws : List Value} (hevaluated : evalItems s es = .ok vs)
    (hplain : es.any (·.yields s Value.ordered) = false) (hitems : Forall₂ Reordered vs ws) :
    Forall₂ Plain vs ws := by
  induction es generalizing vs ws with
  | nil =>
    cases hevaluated
    cases hitems
    exact .nil
  | cons e es ih =>
    rw [List.any_cons, Bool.or_eq_false_iff] at hplain
    cases hfirst : e.eval s with
    | error _ => rw [evalItems, hfirst] at hevaluated; cases hevaluated
    | ok v =>
      cases hrest : evalItems s es with
      | error _ => rw [evalItems, hfirst, hrest] at hevaluated; cases hevaluated
      | ok us =>
        rw [evalItems, hfirst, hrest] at hevaluated
        cases hevaluated
        cases hitems with
        | cons hhead htail =>
          rw [yields_eq hfirst] at hplain
          exact .cons ⟨hhead, hplain.1⟩ (ih hrest hplain.2 htail)

mutual

/-- In another order of members a theme gives the same values but for that order. -/
theorem eval_agree (hthemes : Reordered (.ofTheme s.theme) (.ofTheme t)) (e : Expr)
    (hplain : e.showsOrder s = false) :
    Agree Reordered (e.eval s) (e.eval { s with theme := t }) := by
  match e with
  | .none | .bool _ | .int _ | .float _ | .text _ => exact .ok (.refl _)
  | .name n => exact lookup_agree hthemes n
  | .list items =>
    rw [showsOrder] at hplain
    exact (evalItems_agree hthemes items hplain).bind fun _ _ h => .ok (.list_of_forall₂ h)
  | .tuple items =>
    rw [showsOrder] at hplain
    exact (evalItems_agree hthemes items hplain).bind fun _ _ h => .ok (.tuple_of_forall₂ h)
  | .joined pieces =>
    rw [showsOrder, Bool.or_eq_false_iff] at hplain
    rw [eval, eval, evalPieces_eq hthemes pieces hplain.1 hplain.2]
    exact .of_eq .refl rfl
  | .attribute e n =>
    rw [showsOrder] at hplain
    exact (eval_agree hthemes e hplain).bind fun _ _ h => h.attributeOf n
  | .subscript e index =>
    simp only [showsOrder, Bool.or_eq_false_iff] at hplain
    refine (eval_agree hthemes e hplain.1.1).bind fun v w h => ?_
    refine (eval_agree hthemes index hplain.1.2).bind_of_ok fun i j hevaluated hi => ?_
    rw [yields_eq hevaluated] at hplain
    exact h.subscript hi hplain.2
  | .call f args keywords =>
    simp only [showsOrder, Bool.or_eq_false_iff] at hplain
    refine (eval_agree hthemes f hplain.1.1).bind_of_ok fun v w hcalled h => ?_
    refine (evalItems_agree hthemes args hplain.1.2).bind_of_ok fun vs ws hevaluated hitems => ?_
    rw [yields_eq hcalled] at hplain
    have hshown (htexts : v.makesText = true) : Forall₂ Plain vs ws :=
      forall₂_plain hevaluated (by simpa [htexts] using hplain.2) hitems
    rw [hitems.length_eq]
    exact h.call (List.forall₂_take _ hitems) (.zip keywords (List.forall₂_drop _ hitems))
      fun htexts => ⟨List.forall₂_take _ (hshown htexts),
        .zip keywords (List.forall₂_drop _ (hshown htexts))⟩
  | .sign negative e =>
    rw [showsOrder] at hplain
    refine (eval_agree hthemes e hplain).bind fun _ _ h => ?_
    rw [h.signed_eq]
    exact .of_eq .refl rfl
  | .not e =>
    rw [showsOrder] at hplain
    refine (eval_agree hthemes e hplain).bind fun _ _ h => ?_
    rw [h.isTrue_eq]
    exact .ok (.refl _)
  | .arith op a b =>
    rw [showsOrder, Bool.or_eq_false_iff] at hplain
    refine (eval_agree hthemes a hplain.1).bind fun _ _ ha => ?_
    exact (eval_agree hthemes b hplain.2).bind fun _ _ hb => ha.arith hb op
  | .compare first ops others =>
    rw [showsOrder, Bool.or_eq_false_iff] at hplain
    refine (eval_agree hthemes first hplain.1).bind fun _ _ h => ?_
    exact evalChain_agree hthemes h ops others hplain.2
  | .and a b =>
    rw [showsOrder, Bool.or_eq_false_iff] at hplain
    refine (eval_agree hthemes a hplain.1).bind_of_ok fun v w hevaluated h => ?_
    rw [yields_eq hevaluated] at hplain
    rw [← h.isTrue_eq]
    cases htrue? : v.isTrue with
    | true => exact eval_agree hthemes b (by simpa [htrue?] using hplain.2)
    | false => exact .ok h
  | .or a b =>
    rw [showsOrder, Bool.or_eq_false_iff] at hplain
    refine (eval_agree hthemes a hplain.1).bind_of_ok fun v w hevaluated h => ?_
    rw [yields_eq hevaluated] at hplain
    rw [← h.isTrue_eq]
    cases htrue? : v.isTrue with
    | true => exact .ok h
    | false => exact eval_agree hthemes b (by simpa [htrue?] using hplain.2)
  | .choice condition yes no =>
    rw [showsOrder, Bool.or_eq_false_iff] at hplain
    refine (eval_agree hthemes condition hplain.1).bind_of_ok fun v w hevaluated h => ?_
    rw [yields_eq hevaluated] at hplain
    rw [← h.isTrue_eq]
    cases htrue? : v.isTrue with
    | true => exact eval_agree hthemes yes (by simpa [htrue?] using hplain.2)
    | false => exact eval_agree hthemes no (by simpa [htrue?] using hplain.2)

theorem evalItems_agree (hthemes : Reordered (.ofTheme s.theme) (.ofTheme t)) (es : List Expr)
    (hplain : itemsShowOrder s es = false) :
    Agree (Forall₂ Reordered) (evalItems s es) (evalItems { s with theme := t } es) := by
  match es with
  | [] => exact .ok .nil
  | e :: es =>
    rw [itemsShowOrder, Bool.or_eq_false_iff] at hplain
    refine (eval_agree hthemes e hplain.1).bind fun v w h => ?_
    exact (evalItems_agree hthemes es hplain.2).bind fun vs ws hs => .ok (.cons h hs)

theorem evalPieces_eq (hthemes : Reordered (.ofTheme s.theme) (.ofTheme t)) (es : List Expr)
    (hplain : itemsShowOrder s es = false) (hshown : es.any (·.yields s Value.ordered) = false) :
    evalPieces s es = evalPieces { s with theme := t } es := by
  match es with
  | [] => rfl
  | e :: es =>
    rw [itemsShowOrder, Bool.or_eq_false_iff] at hplain
    rw [List.any_cons, Bool.or_eq_false_iff] at hshown
    rw [evalPieces, evalPieces, evalPieces_eq hthemes es hplain.2 hshown.2]
    apply Agree.eq
    refine (eval_agree hthemes e hplain.1).bind_of_ok fun v w hevaluated h => ?_
    rw [yields_eq hevaluated] at hshown
    rw [h.toText_eq hshown.1]
    exact .of_eq (fun _ => rfl) rfl

theorem evalChain_agree (hthemes : Reordered (.ofTheme s.theme) (.ofTheme t)) {v w : Value}
    (h : Reordered v w) (ops : List Value.CompareOp) (es : List Expr)
    (hplain : itemsShowOrder s es = false) :
    Agree Reordered (evalChain s v ops es) (evalChain { s with theme := t } w ops es) := by
  match ops, es with
  | [], [] | [], _ :: _ | _ :: _, [] => exact .ok (.refl _)
  | op :: ops, e :: es =>
    rw [itemsShowOrder, Bool.or_eq_false_iff] at hplain
    refine (eval_agree hthemes e hplain.1).bind fun v' w' h' => ?_
    rw [h.compare_eq op h']
    refine .bind (.of_eq (R := Eq) (fun _ => rfl) rfl) ?_
    rintro holds _ rfl
    cases holds with
    | false => exact .ok (.refl _)
    | true =>
      cases hlast : es.isEmpty with
      | true => exact .ok (.refl _)
      | false => exact evalChain_agree hthemes h' ops es hplain.2

end

end Agreement

end Expr

/-! ### Stylesheets -/

/-- Whether an argument tells an order of members or may do so, since nothing is said about it. -/
def LinkedArgument.showsOrder (s : Scope) : LinkedArgument → Bool
  | .slot _ => false
  | .value (.expr e) => e.showsOrder s || e.yields s Value.ordered || e.isUndescribed s
  | .value _ => true

/-- Whether a stylesheet against a theme tells an order of members, or may do so. -/
def StyleClass.showsOrder (c : StyleClass) (theme : Theme) (start : Int) : Bool :=
  c.arguments.any (·.showsOrder (c.scope theme start))

theorem LinkedArgument.isPlain_of_showsOrder {s : Scope} {a : LinkedArgument}
    (h : a.showsOrder s = false) : a.holds Code.isPlain = true := by
  cases a with
  | slot i => rfl
  | value code =>
    cases code with
    | expr e => rfl
    | _ => cases h

theorem LinkedArgument.plainValue_eq {s : Scope} {t : Theme}
    (hthemes : Reordered (.ofTheme s.theme) (.ofTheme t)) {a : LinkedArgument}
    (h : a.showsOrder s = false) : a.plainValue s = a.plainValue { s with theme := t } := by
  cases a with
  | slot i => rfl
  | value code =>
    cases code with
    | expr e =>
      simp only [showsOrder, Bool.or_eq_false_iff] at h
      obtain ⟨⟨hparts, hvalue⟩, -⟩ := h
      have hagree := (Expr.eval_agree hthemes e hparts).imp_of_ok (S := Plain)
        fun v w hevaluated hrelated => ⟨hrelated, by rw [← hvalue, Expr.yields_eq hevaluated]⟩
      exact (hagree.map fun v w hrelated => hrelated.1.toText_eq hrelated.2).eq
    | _ => cases h

theorem mapM_congr_of_mem {ε α β : Type} {f g : α → Except ε β} {as : List α}
    (h : ∀ a ∈ as, f a = g a) : as.mapM f = as.mapM g := by
  induction as with
  | nil => rfl
  | cons a as ih =>
    rw [List.mapM_cons, List.mapM_cons, h a List.mem_cons_self,
      ih fun b hb => h b (List.mem_cons_of_mem a hb)]

namespace StyleClass

/-- A class that tells no order of members does the same against themes that differ in it. -/
theorem call_eq (c : StyleClass) {theme theme' : Theme} (start : Int)
    (hthemes : Reordered (.ofTheme theme) (.ofTheme theme'))
    (hplain : c.showsOrder theme start = false) : c.call theme start = c.call theme' start := by
  have heach : ∀ a ∈ c.arguments, a.showsOrder (c.scope theme start) = false := by
    simpa [showsOrder] using hplain
  obtain ⟨hstill, hrunning⟩ := isPlain_iff.1 <|
    List.all_eq_true.2 fun a hmember => LinkedArgument.isPlain_of_showsOrder (heach a hmember)
  have hvalues : exec (c.arguments.mapM (argumentValue (c.scope theme start))) ⟨"", start⟩ =
      exec (c.arguments.mapM (argumentValue (c.scope theme' start))) ⟨"", start⟩ := by
    rw [exec_mapM_of_inactive hstill, exec_mapM_of_inactive hstill]
    exact Prod.ext (mapM_congr_of_mem fun a hmember =>
      LinkedArgument.plainValue_eq hthemes (heach a hmember)) rfl
  cases hwritten : c.writer with
  | some v => rw [call_of_writer hwritten, call_of_writer hwritten]
  | none =>
    rw [call_eq_body hwritten hrunning, call_eq_body hwritten hrunning, exec_body, exec_body,
      hvalues]

end StyleClass

/-! ### Providers -/

/-- Whether a mounted class tells an order of members. What is not compiled counts as telling it. -/
def Registration.showsOrder (theme : Theme) (r : Registration) : Bool :=
  match r.generator.body with
  | .compiled c => c.showsOrder theme r.start
  | _ => true

namespace Provider

variable {theme theme' : Theme} (hthemes : Reordered (.ofTheme theme) (.ofTheme theme'))
  (again : Step → Act Outcome)
include hthemes

theorem exec_replay_eq {r : Registration} (hplain : r.showsOrder theme = false) (s : Session) :
    exec (replay again theme r) s = exec (replay again theme' r) s := by
  unfold Registration.showsOrder at hplain
  split at hplain
  · rename_i c hbody
    have hcalled : exec (r.generator.call again theme .collected r.start) s =
        exec (r.generator.call again theme' .collected r.start) s := by
      rw [exec_call, exec_call, hbody, exec_run_compiled, exec_run_compiled,
        c.call_eq r.start hthemes hplain]
    exact exec_bind_congr hcalled fun _ _ _ => rfl
  · cases hplain

theorem exec_replayAll_eq {rs : List Registration} (hplain : ∀ r ∈ rs, r.showsOrder theme = false)
    (s : Session) : exec (replayAll again theme rs) s = exec (replayAll again theme' rs) s := by
  induction rs generalizing s with
  | nil => rfl
  | cons r rs ih =>
    have hfirst := exec_replay_eq hthemes again (hplain r (List.mem_cons_self ..)) s
    refine exec_bind_congr hfirst fun text t _ => exec_bind_congr ?_ fun _ _ _ => rfl
    exact ih (fun r hmember => hplain r (List.mem_cons_of_mem _ hmember)) t

theorem exec_renderWith_eq {i : Nat} {s : Session}
    (hplain : ∀ r ∈ (s.provider i).registrations, r.showsOrder theme = false) :
    exec (renderWith again i theme) s = exec (renderWith again i theme') s := by
  cases hbusy : (s.provider i).busy with
  | true =>
    rw [renderWith, renderWith, exec_exclusive_of_busy _ hbusy, exec_exclusive_of_busy _ hbusy]
  | false =>
    rw [renderWith, renderWith, exec_exclusive _ hbusy, exec_exclusive _ hbusy]
    have hkept : ((s.modifyProvider i fun p => { p with busy := true }).provider i).registrations =
        (s.provider i).registrations := by
      rw [Session.provider, Session.provider, Session.modifyProvider, List.getD_eq_getElem?_getD,
        List.getD_eq_getElem?_getD, List.getElem?_modify]
      cases s.providers[i]? <;> simp
    simp only [exec_get_bind, exec_replayAll_eq hthemes again (hkept ▸ hplain)]

end Provider

/-- Themes over equal data of one form differ in the order of members only. -/
theorem Theme.reordered_of_quickSame {a b : Members} (hda : (Json.object a).distinct = true)
    (hdb : (Json.object b).distinct = true)
    (hsame : (Theme.mapping a).quickSame? (.mapping b) = some true)
    (hform : (Json.object a).sameForm (.object b) = true) :
    Reordered (.ofTheme (.mapping a)) (.ofTheme (.mapping b)) := by
  refine .mapping (Json.reordered_of_sameItem hda hdb ?_ hform)
  exact Bool.or_eq_true_iff.2 (.inr (Option.some.inj hsame))

/-- Data that is read from texts has no member twice, so a class that tells no order of members does
the same against both. -/
theorem StyleClass.call_eq_of_parse (c : StyleClass) (start : Int) {first second : String}
    {a b : Members} (ha : Json.parse first = .ok (.object a))
    (hb : Json.parse second = .ok (.object b))
    (hsame : (Theme.mapping a).quickSame? (.mapping b) = some true)
    (hform : (Json.object a).sameForm (.object b) = true)
    (hplain : c.showsOrder (.mapping a) start = false) :
    c.call (.mapping a) start = c.call (.mapping b) start :=
  c.call_eq start (Theme.reordered_of_quickSame (Json.distinct_of_parse ha)
    (Json.distinct_of_parse hb) hsame hform) hplain

/-- A number and an object of two members. -/
def sizes : Members := [
  ("n", .float 0.5), ("m", .object [("x", .int 3), ("y", .list [.null])])]

/-- The same in another order. -/
def sizesReordered : Members := [
  ("m", .object [("y", .list [.null]), ("x", .int 3)]), ("n", .float 0.5)]

/-- A class with the value `t.m["x"] * t.n`. -/
def sized : StyleClass where
  definition := {
    name := "A"
    themeVar := "t"
    themeType := "T"
    fields := [("a", 0)]
    classPrefix := "css-"
    literals := [".css-\x7b\x7d \x7b\x7b width: \x7b\x7d; \x7d\x7d\n"]
    arguments := [.slot 0, .value "t.m[\"x\"] * t.n"]
    slotCount := 1 }
  arguments := [.slot 0, .value (.expr (.arith .mul
    (.subscript (.attribute (.name "t") "m") (.text "x")) (.attribute (.name "t") "n")))]
  globals := []

/-- The class alone on a provider. -/
def sizedAlone : Session where
  providers := [{
    backend := 0
    theme := .mapping sizes
    onBus := false
    registrations := [⟨(Mountable.compiled 1 sized).generator, 0, 1⟩] }]

/-- A whole number and a fraction, the two zeros, and an object in two orders: the values are equal,
but not their texts. -/
def equalValues : List (Json × Json) := [
  (.int 1, .float 1.0), (.float 0.0, .float (-0.0)),
  (.object [("x", .int 1), ("y", .int 1)], .object [("y", .int 1), ("x", .int 1)])]

end ScopedCss

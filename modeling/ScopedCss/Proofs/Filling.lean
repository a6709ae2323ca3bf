import ScopedCss.Proofs.Letters
import ScopedCss.Template

/-! Filling templates. A text is well formed when its braces pair up into holes and doubled braces.
The beginning of a well-formed text is filled on its own, whatever follows it, so a template made of
parts is filled part by part, each part with the values that those before it have left. -/
namespace ScopedCss.Template

/-- How many holes a text has; none if one of its braces is neither doubled nor half of a hole. -/
def holes? : List Char → Option Nat
  | [] => some 0
  | '{' :: '{' :: r => holes? r
  | '}' :: '}' :: r => holes? r
  | '{' :: '}' :: r => (holes? r).map (· + 1)
  | c :: r => if c = '{' ∨ c = '}' then none else holes? r

theorem holes?_cons {c : Char} (hc : ¬(c = '{' ∨ c = '}')) (r : List Char) :
    holes? (c :: r) = holes? r := by
  obtain ⟨ho, hs⟩ := not_or.1 hc
  rw [holes?.eq_5 c r (fun _ h => absurd h ho) (fun _ h => absurd h hs) (fun _ h => absurd h ho),
    if_neg hc]

theorem fill_cons {c : Char} (hc : ¬(c = '{' ∨ c = '}')) (r : List Char) (args : List Text) :
    fill (c :: r) args = .char c :: fill r args := by
  obtain ⟨ho, hs⟩ := not_or.1 hc
  rw [fill] <;> intros <;> contradiction

theorem holes?_append {a : List Char} {m : Nat} (ha : holes? a = some m) (b : List Char) :
    holes? (a ++ b) = (holes? b).map (m + ·) := by
  fun_induction holes? a generalizing m with
  | case1 => cases ha; simp
  | case2 r ih => simpa [holes?] using ih ha
  | case3 r ih => simpa [holes?] using ih ha
  | case4 r ih =>
    obtain ⟨k, hk, rfl⟩ := Option.map_eq_some_iff.1 ha
    simp only [List.cons_append, holes?, ih hk, Option.map_map]
    congr 1
    funext n
    simp only [Function.comp_apply]
    omega
  | case5 => cases ha
  | case6 c r _ _ _ hc ih => rw [List.cons_append, holes?_cons hc, ih ha]

/-- The beginning of a text takes the arguments of its own holes. -/
theorem fill_append {a : List Char} {own : List Text} (ha : holes? a = some own.length)
    (b : List Char) (more : List Text) :
    fill (a ++ b) (own ++ more) = fill a own ++ fill b more := by
  fun_induction holes? a generalizing own with
  | case1 =>
    obtain rfl : own = [] := List.length_eq_zero_iff.1 (Option.some.inj ha).symm
    rfl
  | case2 r ih => simpa [fill] using ih ha
  | case3 r ih => simpa [fill] using ih ha
  | case4 r ih =>
    obtain ⟨k, hk, hl⟩ := Option.map_eq_some_iff.1 ha
    cases own with
    | nil => simp at hl
    | cons x own =>
      obtain rfl : k = own.length := by simpa using hl
      simp [fill, ih hk]
  | case5 => cases ha
  | case6 c r _ _ _ hc ih => simp only [List.cons_append, fill_cons hc, ih ha]

/-! ### Doubled braces -/

theorem doubleBraces_cons (c : Char) (cs : List Char) :
    doubleBraces (c :: cs) = (if c = '{' ∨ c = '}' then [c, c] else [c]) ++ doubleBraces cs := rfl

theorem holes?_doubleBraces (cs : List Char) : holes? (doubleBraces cs) = some 0 := by
  induction cs with
  | nil => rfl
  | cons c cs ih =>
    rw [doubleBraces_cons]
    by_cases hc : c = '{' ∨ c = '}'
    · rw [if_pos hc]
      rcases hc with rfl | rfl <;> simpa [holes?] using ih
    · rw [if_neg hc, List.singleton_append, holes?_cons hc, ih]

theorem fill_doubleBraces (cs : List Char) : fill (doubleBraces cs) [] = cs.map .char := by
  induction cs with
  | nil => rfl
  | cons c cs ih =>
    rw [doubleBraces_cons]
    by_cases hc : c = '{' ∨ c = '}'
    · rw [if_pos hc]
      rcases hc with rfl | rfl <;> simpa [fill] using ih
    · rw [if_neg hc, List.singleton_append, fill_cons hc, ih, List.map_cons]

/-! ### Arguments -/

theorem expressions_append (a b : Template) :
    (a ++ b).expressions = a.expressions ++ b.expressions := by
  simp [expressions]

theorem expressions_slot (text : String) (i : Nat) (ps : List Param) :
    expressions ⟨text, .slot i :: ps⟩ = expressions ⟨text, ps⟩ := rfl

theorem expressions_value (text e : String) (ps : List Param) :
    expressions ⟨text, .value e :: ps⟩ = e :: expressions ⟨text, ps⟩ := rfl

theorem map_cons_bind (own others : Except String (List Text)) (x : Text) :
    (own.map (x :: ·)).bind (fun xs => others.map (xs ++ ·)) =
      (own.bind fun xs => others.map (xs ++ ·)).map (x :: ·) := by
  cases own <;> cases others <;> rfl

/-- The first parameters take the first values, one for each expression among them. -/
theorem arguments_append (start : Int) (a b : Template) (values : List Text) :
    arguments start (a ++ b).params values =
      (arguments start a.params values).bind fun own =>
        (arguments start b.params (values.drop a.expressions.length)).map (own ++ ·) := by
  obtain ⟨text, ps⟩ := a
  rw [params_append]
  induction ps generalizing values with
  | nil =>
    change arguments start b.params values = (arguments start b.params values).map ([] ++ ·)
    cases arguments start b.params values <;> rfl
  | cons p ps ih =>
    cases p with
    | slot i => rw [expressions_slot, List.cons_append, arguments, arguments, ih, map_cons_bind]
    | value e =>
      cases values with
      | nil => rfl
      | cons v values =>
        rw [expressions_value, List.cons_append, arguments, arguments, ih, List.length_cons,
          List.drop_succ_cons, map_cons_bind]

/-- What is missing is the first expression that no value is left for. -/
theorem arguments_eq_error_iff (start : Int) (t : Template) (values : List Text) (e : String) :
    arguments start t.params values = .error e ↔ t.expressions[values.length]? = some e := by
  obtain ⟨text, ps⟩ := t
  simp only []
  induction ps generalizing values with
  | nil => simp [arguments, expressions]
  | cons p ps ih =>
    cases p with
    | slot i =>
      rw [expressions_slot, ← ih, arguments]
      cases arguments start ps values <;> simp [Except.map]
    | value f =>
      rw [expressions_value]
      cases values with
      | nil => simp [arguments]
      | cons v values =>
        rw [arguments, List.length_cons, List.getElem?_cons_succ, ← ih]
        cases arguments start ps values <;> simp [Except.map]

theorem length_of_arguments {start : Int} {ps : List Param} {values args : List Text}
    (h : arguments start ps values = .ok args) : args.length = ps.length := by
  fun_induction arguments start ps values generalizing args with
  | case1 => cases h; rfl
  | case2 i ps values ih | case3 e ps v values ih =>
    cases hr : arguments start ps values with
    | error e => rw [hr] at h; cases h
    | ok own =>
      rw [hr] at h
      cases h
      rw [List.length_cons, List.length_cons, ih hr]
  | case4 => cases h

/-! ### Rendering -/

theorem render_eq_error_iff (t : Template) (start : Int) (values : List Text) (e : String) :
    t.render start values = .error e ↔ t.expressions[values.length]? = some e := by
  rw [← arguments_eq_error_iff start, render]
  cases arguments start t.params values <;> simp [Except.map]

/-- A template whose braces pair up is rendered before what follows it. -/
theorem render_append {a : Template} (ha : holes? a.text.toList = some a.params.length)
    (b : Template) (start : Int) (values : List Text) :
    (a ++ b).render start values =
      (a.render start values).bind fun x =>
        (b.render start (values.drop a.expressions.length)).map (x ++ ·) := by
  rw [render, render, render, arguments_append]
  cases hown : arguments start a.params values with
  | error e => rfl
  | ok own =>
    cases arguments start b.params (values.drop a.expressions.length) with
    | error e => rfl
    | ok more =>
      have hl : holes? a.text.toList = some own.length := by rw [ha, length_of_arguments hown]
      have hf := fill_append hl b.text.toList more
      refine congrArg Except.ok (Text.letters_injective ?_)
      rw [Text.letters_append, Text.letters_ofLetters, Text.letters_ofLetters,
        Text.letters_ofLetters, text_append, String.toList_append, hf]

end ScopedCss.Template

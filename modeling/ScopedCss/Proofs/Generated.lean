import Mathlib
import ScopedCss.Proofs.CompiledBlocks
import ScopedCss.Proofs.CompiledCalls
import ScopedCss.Proofs.Loading

/-!
Generated classes against the blocks they were compiled from. A class writes what the template of
its block renders with the values of its expressions, behind what the values themselves write, and
hands out the class names of its block. The values are evaluated in the order of the template. If
one of them fails, so does the call, and it leaves what the values did until then; values that only
compute do nothing, and then it leaves its sink and its counter as they were. All of this holds of
every language that values may be written in.

All of Mathlib is imported, for the equations by which the sources at the end are compiled.
-/
namespace ScopedCss

/-! ### Arguments -/

/-- A parameter of a template and the argument that was read for it inside a class. -/
inductive Param.ReadAs (language : Language) (owner : String) : Param → LinkedArgument → Prop where
  | slot (i : Nat) : ReadAs language owner (.slot i) (.slot i)
  | value {source : String} {code : Code} (hread : language.read? owner source = some code) :
    ReadAs language owner (.value source) (.value code)

/-- What fills the holes: the numbers of the slots, with values in order between them. -/
def Param.fillers (start : Int) : List Param → List Shown → List Shown
  | .slot i :: ps, vs => .ok (toString (start + i) : String) :: fillers start ps vs
  | .value _ :: ps, v :: vs => v :: fillers start ps vs
  | _, _ => []

theorem Shown.mapM_ok_cons (t : Text) (vs : List Shown) :
    (Except.ok t :: vs).mapM (id : Shown → Shown) = (vs.mapM id).map (t :: ·) :=
  mapM_cons_of_ok (f := id) rfl vs

theorem Shown.mapM_error_cons (e : EvalError) (vs : List Shown) :
    (Except.error e :: vs).mapM (id : Shown → Shown) = .error e :=
  mapM_cons_of_error (f := id) rfl vs

/-- The texts of the fillers are the arguments of the template. -/
theorem Param.mapM_fillers {start : Int} {ps : List Param} {text : String} {values : List Shown}
    {texts : List Text} (henough : (Template.expressions ⟨text, ps⟩).length = values.length)
    (hshown : values.mapM id = .ok texts) :
    ∃ args, Template.arguments start ps texts = .ok args ∧
      (fillers start ps values).mapM id = .ok args := by
  induction ps generalizing values texts with
  | nil => exact ⟨[], rfl, rfl⟩
  | cons p ps ih =>
    cases p with
    | slot i =>
      obtain ⟨args, hfilled, hsame⟩ := ih henough hshown
      refine ⟨(toString (start + i) : String) :: args, ?_, ?_⟩
      · rw [Template.arguments, hfilled]
        rfl
      · rw [fillers, Shown.mapM_ok_cons, hsame]
        rfl
    | value source =>
      rw [Template.expressions_value] at henough
      cases values with
      | nil => cases henough
      | cons v values =>
        cases v with
        | error e =>
          rw [Shown.mapM_error_cons] at hshown
          cases hshown
        | ok t =>
          rw [Shown.mapM_ok_cons] at hshown
          obtain ⟨others, hothers, rfl⟩ := map_eq_ok.1 hshown
          obtain ⟨args, hfilled, hsame⟩ := ih (Nat.succ.inj henough) hothers
          refine ⟨t :: args, ?_, ?_⟩
          · rw [Template.arguments, hfilled]
            rfl
          · rw [fillers, Shown.mapM_ok_cons, hsame]
            rfl

/-- A value without a text makes all fail, as it does without the slots between. -/
theorem Param.mapM_fillers_of_error {start : Int} {ps : List Param} {text : String}
    {values : List Shown} {e : EvalError}
    (henough : (Template.expressions ⟨text, ps⟩).length = values.length)
    (hfailed : values.mapM id = .error e) : (fillers start ps values).mapM id = .error e := by
  induction ps generalizing values with
  | nil =>
    obtain rfl : values = [] := List.length_eq_zero_iff.1 henough.symm
    cases hfailed
  | cons p ps ih =>
    cases p with
    | slot i =>
      rw [fillers, Shown.mapM_ok_cons, ih henough hfailed]
      rfl
    | value source =>
      rw [Template.expressions_value] at henough
      cases values with
      | nil => cases henough
      | cons v values =>
        rw [fillers]
        cases v with
        | error e' =>
          rw [Shown.mapM_error_cons] at hfailed ⊢
          exact hfailed
        | ok t =>
          rw [Shown.mapM_ok_cons] at hfailed ⊢
          cases hothers : values.mapM id with
          | ok others =>
            rw [hothers] at hfailed
            cases hfailed
          | error e' =>
            rw [hothers] at hfailed
            cases hfailed
            rw [ih (Nat.succ.inj henough) hothers]
            rfl

namespace StyleClass

/-! ### Values -/

/-- What the text of a value does in a class against a theme, with slots that count from a start: it
is read inside the class and then run. -/
def valueOf (cls : StyleClass) (language : Language) (theme : Theme) (start : Int)
    (source : String) : Doing Shown :=
  match language.read? cls.definition.name source with
  | some code => code.run (cls.scope theme start)
  | none => throw .undescribed

/-- The values of texts, evaluated one after the other up to the first that fails. -/
def valuesOf (cls : StyleClass) (language : Language) (theme : Theme) (start : Int)
    (sources : List String) : Doing (List Shown) :=
  sources.mapM (cls.valueOf language theme start)

/-- The value of a text that only computes. -/
def plainValueOf (cls : StyleClass) (language : Language) (theme : Theme) (start : Int)
    (source : String) : Except EvalError Shown :=
  match language.read? cls.definition.name source with
  | some code => code.value (cls.scope theme start)
  | none => .error .undescribed

/-- Whether texts are read inside a class as codes of a kind. -/
def Reads (cls : StyleClass) (language : Language) (kind : Code → Bool) (sources : List String) :
    Prop :=
  ∀ source ∈ sources, ∃ code, language.read? cls.definition.name source = some code ∧
    kind code = true

section
variable {cls : StyleClass} {language : Language} {theme : Theme} {start : Int}

theorem valueOf_of_read {source : String} {code : Code}
    (h : language.read? cls.definition.name source = some code) :
    cls.valueOf language theme start source =
      argumentValue (cls.scope theme start) (.value code) := by
  rw [valueOf, h]
  rfl

/-- Values that do not act come to their values and leave all as it is. -/
theorem exec_valuesOf_of_inactive {sources : List String}
    (h : cls.Reads language (!·.isActing) sources) (theme : Theme) (start : Int)
    (written : Text) :
    exec (cls.valuesOf language theme start sources) ⟨written, start⟩ =
      (sources.mapM (cls.plainValueOf language theme start), ⟨written, start⟩) := by
  refine exec_mapM_of_still fun source hsource => ?_
  obtain ⟨code, hread, hstill⟩ := h source hsource
  rw [valueOf_of_read hread, exec_argumentValue (a := .value code) hstill, plainValueOf, hread]
  rfl

theorem length_of_exec_valuesOf {sources : List String} {values : List Shown} {d after : Deeds}
    (h : exec (cls.valuesOf language theme start sources) d = (.ok values, after)) :
    sources.length = values.length := by
  rw [valuesOf] at h
  induction sources generalizing values d with
  | nil =>
    cases h
    rfl
  | cons source sources ih =>
    rw [exec_mapM_cons] at h
    split at h
    · split at h <;> cases h
      next hrest => exact congrArg (· + 1) (ih hrest)
    · cases h

/-- The arguments of a class do what the values of the template do, and the slots stand between
their values. -/
theorem exec_mapM_argumentValue {ps : List Param} {as : List LinkedArgument}
    (h : List.Forall₂ (Param.ReadAs language cls.definition.name) ps as) (text : String)
    (d : Deeds) :
    exec (as.mapM (argumentValue (cls.scope theme start))) d =
      let r := exec (cls.valuesOf language theme start (Template.expressions ⟨text, ps⟩)) d
      (r.1.map (Param.fillers start ps), r.2) := by
  induction h generalizing d with
  | nil => rfl
  | @cons p a ps as hfirst _ ih =>
    rw [exec_mapM_cons]
    cases hfirst with
    | slot i =>
      rw [Template.expressions_slot, exec_argumentValue_slot]
      dsimp only
      rw [ih d]
      rcases exec (cls.valuesOf language theme start (Template.expressions ⟨text, ps⟩)) d with
        ⟨e | values, t⟩ <;> rfl
    | value hread =>
      rw [Template.expressions_value, valuesOf, exec_mapM_cons, valueOf_of_read hread]
      rcases exec (argumentValue (cls.scope theme start) _) d with ⟨e | v, t⟩
      · rfl
      · dsimp only
        rw [ih t, ← valuesOf]
        rcases exec (cls.valuesOf language theme start (Template.expressions ⟨text, ps⟩)) t with
          ⟨e | values, u⟩ <;> rfl

end

theorem all_holds_of_readAs {cls : StyleClass} {language : Language} {ps : List Param}
    {as : List LinkedArgument}
    (h : List.Forall₂ (Param.ReadAs language cls.definition.name) ps as) (text : String)
    (kind : Code → Bool) :
    as.all (·.holds kind) = true ↔ cls.Reads language kind (Template.expressions ⟨text, ps⟩) := by
  induction h with
  | nil => simp [Reads, Template.expressions]
  | cons hfirst _ ih =>
    rw [List.all_cons, Bool.and_eq_true, ih]
    cases hfirst with
    | slot i => exact and_iff_right rfl
    | value hread =>
      rw [Template.expressions_value, Reads, Reads, List.forall_mem_cons, hread]
      simp [LinkedArgument.holds]

/-! ### Classes of compiled blocks -/

theorem linkArgument_value_eq_ok {language : Language} {owner source : String} {l : LinkedArgument}
    (h : linkArgument language owner (.value source) = .ok l) :
    ∃ code, language.read? owner source = some code ∧ l = .value code := by
  rw [linkArgument] at h
  cases hread : language.read? owner source with
  | none =>
    rw [hread] at h
    cases h
  | some code =>
    rw [hread] at h
    cases h
    exact ⟨code, rfl, rfl⟩

section
variable {language : Language} {c : CompiledStyle} {cls : StyleClass}
  (h : ReadFrom language (ClassDef.ofCompiled c) cls)
include h

theorem ReadFrom.readAs :
    List.Forall₂ (Param.ReadAs language cls.definition.name) c.template.params cls.arguments := by
  have hlinked := h.arguments
  rw [ClassDef.ofCompiled, List.forall₂_map_left_iff] at hlinked
  rw [h.definition]
  refine hlinked.imp fun p a hown => ?_
  cases p with
  | slot i =>
    cases hown
    exact .slot i
  | value source =>
    obtain ⟨code, hread, rfl⟩ := linkArgument_value_eq_ok hown
    exact .value hread

/-- The arguments of a class are of a kind if the expressions of its block are read as such. -/
theorem ReadFrom.all_holds (kind : Code → Bool) :
    cls.arguments.all (·.holds kind) = true ↔ cls.Reads language kind c.template.expressions :=
  all_holds_of_readAs h.readAs c.template.text kind

theorem ReadFrom.readable : cls.Reads language (fun _ => true) c.template.expressions := by
  rw [← h.all_holds]
  refine List.all_eq_true.2 fun a _ => ?_
  cases a <;> rfl

theorem ReadFrom.isSuspended_eq_false :
    cls.isSuspended = false ↔ cls.Reads language (!·.isSuspending) c.template.expressions := by
  rw [isSuspended, Bool.not_eq_false', h.all_holds]

theorem ReadFrom.exec_body (theme : Theme) (start : Int) :
    exec (cls.body theme start) ⟨"", start⟩ =
      match exec (cls.valuesOf language theme start c.template.expressions) ⟨"", start⟩ with
      | (.error e, after) => (.error e, after)
      | (.ok values, after) =>
        match (Param.fillers start c.template.params values).mapM id with
        | .error e => (.error e, after)
        | .ok args =>
          (.ok (), ⟨after.written ++ .ofLetters (Template.fill c.template.text.toList args),
            start + c.slotCount⟩) := by
  have hliterals : String.join cls.definition.literals = c.template.text := by
    rw [h.definition]
    exact ClassDef.join_literalsOf c.template.text
  have hslots : cls.definition.slotCount = c.slotCount := by
    rw [h.definition]
    rfl
  rw [StyleClass.exec_body, exec_mapM_argumentValue h.readAs c.template.text, hliterals, hslots]
  rcases exec (cls.valuesOf language theme start c.template.expressions) ⟨"", start⟩ with
    ⟨e | values, after⟩ <;> rfl

/-! ### Agreement -/

section
variable {theme : Theme} {start : Int} {values : List Shown} {after : Deeds}
  (hvalues : exec (cls.valuesOf language theme start c.template.expressions) ⟨"", start⟩ =
    (.ok values, after))
include hvalues

/-- With texts for all values a class writes what the template of its block renders. -/
theorem ReadFrom.exec_body_of_texts {texts : List Text} (hshown : values.mapM id = .ok texts) :
    ∃ css, c.template.render start texts = .ok css ∧
      exec (cls.body theme start) ⟨"", start⟩ =
        (.ok (), ⟨after.written ++ css, start + c.slotCount⟩) := by
  obtain ⟨args, hfilled, hsame⟩ := Param.mapM_fillers (length_of_exec_valuesOf hvalues) hshown
  refine ⟨.ofLetters (Template.fill c.template.text.toList args), ?_, ?_⟩
  · rw [Template.render, hfilled]
    rfl
  · rw [h.exec_body, hvalues]
    dsimp only
    rw [hsame]

theorem ReadFrom.exec_body_of_unprintable {e : EvalError} (hfailed : values.mapM id = .error e) :
    exec (cls.body theme start) ⟨"", start⟩ = (.error e, after) := by
  rw [h.exec_body, hvalues]
  dsimp only
  rw [Param.mapM_fillers_of_error (length_of_exec_valuesOf hvalues) hfailed]

end

theorem ReadFrom.exec_body_of_failed {theme : Theme} {start : Int} {e : EvalError} {after : Deeds}
    (hfailed : exec (cls.valuesOf language theme start c.template.expressions) ⟨"", start⟩ =
      (.error e, after)) :
    exec (cls.body theme start) ⟨"", start⟩ = (.error e, after) := by
  rw [h.exec_body, hfailed]

end

section
variable {language : Language} {c : CompiledStyle} {cls : StyleClass}
  (h : LoadedFrom language (ClassDef.ofCompiled c) cls)
include h

theorem LoadedFrom.fields_eq (start : Int) :
    cls.fields start = .ok ((c.classNames start).map fun f => (f.1, Text.ofString f.2)) := by
  have hlisted : cls.definition.fields = c.table.slots := by
    rw [h.definition]
    rfl
  simp only [fields, h.maker, hlisted, CompiledStyle.classNames, List.map_map]
  rw [mapM_eq_ok, List.forall₂_map_right_iff, List.forall₂_same]
  intro f hf
  rw [className, h.globals "str" (by decide), h.definition, ClassDef.classPrefix_ofCompiled hf]
  rfl

end

/-- A class does what the block that it was compiled from says, in every session and against every
theme, wherever its slots start. -/
structure Realizes (language : Language) (cls : StyleClass) (s : Style) (c : CompiledStyle) :
    Prop where
  name : cls.definition.name = c.signature.resultType
  readable : cls.Reads language (fun _ => true) c.template.expressions
  /-- Behind what its values write a class writes what its template renders with their texts. -/
  writes : cls.Reads language (!·.isSuspending) c.template.expressions →
    ∀ again number theme sink start session values texts after,
    exec (cls.valuesOf language theme start c.template.expressions) ⟨"", start⟩ =
      (.ok values, after) →
    values.mapM id = .ok texts →
    ∃ css, c.template.render start texts = .ok css ∧
      (Press.mk c.config (c.classNames start) texts).sheet s.rules = some css ∧
      exec ((Mountable.compiled number cls).generator.call again theme sink start) session =
        let r := Run.write ⟨start, "", session.countCall number⟩ sink (after.written ++ css)
        (.ok ⟨.ok (), start + c.slotCount, r.collected⟩, r.session)
  /-- A value may have no text, and then the template cannot be rendered with it. -/
  unprintable : cls.Reads language (!·.isSuspending) c.template.expressions →
    ∀ again number theme sink start session values e after,
    exec (cls.valuesOf language theme start c.template.expressions) ⟨"", start⟩ =
      (.ok values, after) →
    values.mapM id = .error e →
    exec ((Mountable.compiled number cls).generator.call again theme sink start) session =
      let r := Run.write ⟨start, "", session.countCall number⟩ sink after.written
      (.ok ⟨.error (.eval e), after.counter, r.collected⟩, r.session)
  fails : cls.Reads language (!·.isSuspending) c.template.expressions →
    ∀ again number theme sink start session e after,
    exec (cls.valuesOf language theme start c.template.expressions) ⟨"", start⟩ =
      (.error e, after) →
    exec ((Mountable.compiled number cls).generator.call again theme sink start) session =
      let r := Run.write ⟨start, "", session.countCall number⟩ sink after.written
      (.ok ⟨.error (.eval e), after.counter, r.collected⟩, r.session)
  /-- A class with a value that suspends writes nothing and takes no slots. -/
  suspended : ¬ cls.Reads language (!·.isSuspending) c.template.expressions →
    ∀ again number theme sink start session,
    exec ((Mountable.compiled number cls).generator.call again theme sink start) session =
      (.ok ⟨.ok (), start, ""⟩, session.countCall number)
  /-- Values that only compute come to their values and do nothing else. -/
  plain : cls.Reads language Code.isPlain c.template.expressions →
    cls.Reads language (!·.isSuspending) c.template.expressions ∧
    ∀ theme start, exec (cls.valuesOf language theme start c.template.expressions) ⟨"", start⟩ =
      (c.template.expressions.mapM (cls.plainValueOf language theme start), ⟨"", start⟩)
  fields : ∀ start, cls.fields start =
    .ok ((c.classNames start).map fun f => (f.1, Text.ofString f.2))
  fieldNames : ∀ start, (c.classNames start).map (·.1) = c.table.names

theorem LoadedFrom.realizes {language : Language} {config : Config} {s : Style} {c : CompiledStyle}
    {cls : StyleClass} (h : LoadedFrom language (ClassDef.ofCompiled c) cls)
    (hcompiled : c.From config s) : cls.Realizes language s c where
  name := by
    rw [h.definition]
    rfl
  readable := h.readable
  writes := by
    intro hrun again number theme sink start session values texts after hvalues hshown
    obtain ⟨css, hrendered, hbody⟩ := h.exec_body_of_texts hvalues hshown
    rw [← call_eq_body h.writer (h.isSuspended_eq_false.2 hrun)] at hbody
    exact ⟨css, hrendered, hcompiled.sheet_of_render hrendered,
      exec_call_compiled again rfl hbody sink session⟩
  unprintable := by
    intro hrun again number theme sink start session values e after hvalues hfailed
    have hbody := h.exec_body_of_unprintable hvalues hfailed
    rw [← call_eq_body h.writer (h.isSuspended_eq_false.2 hrun)] at hbody
    exact exec_call_compiled again rfl hbody sink session
  fails := by
    intro hrun again number theme sink start session e after hfailed
    have hbody := h.exec_body_of_failed hfailed
    rw [← call_eq_body h.writer (h.isSuspended_eq_false.2 hrun)] at hbody
    exact exec_call_compiled again rfl hbody sink session
  suspended := by
    intro hsuspends again number theme sink start session
    rw [← h.isSuspended_eq_false, Bool.not_eq_false] at hsuspends
    rw [exec_call_compiled again rfl (call_of_suspended h.writer hsuspends)]
    dsimp only
    rw [Run.write_empty]
    rfl
  plain := by
    intro hplain
    rw [← h.all_holds] at hplain
    obtain ⟨hstill, hrun⟩ := isPlain_iff.1 hplain
    exact ⟨h.isSuspended_eq_false.1 hrun, fun theme start =>
      exec_valuesOf_of_inactive ((h.all_holds _).1 hstill) theme start _⟩
  fields := h.fields_eq
  fieldNames := by
    intro start
    rw [CompiledStyle.classNames, SlotTable.slots, List.map_map]
    exact List.zipIdx_map_fst 0 c.table.names

end StyleClass

/-- Two blocks: a class name beside a value, and two class names in an at-rule, in a selector that
has a brace. The prefix has braces too. -/
def bracedBlocks : String :=
  "(t: T) -> A \x7b a \x7b b: t \x7d \x7d " ++
    "(u: U) -> B \x7b \"@m\" \x7b \"\x7b.c.b\" \x7b d: u \x7d \x7d \x7d"

/-- A value that writes to the sink itself. -/
def writingBlock : String := "(t: T) -> A \x7b a \x7b x: _css.write(\"boo\") \x7d \x7d"

end ScopedCss

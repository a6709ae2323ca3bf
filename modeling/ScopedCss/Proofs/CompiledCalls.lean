import Mathlib.Data.List.Forall2
import ScopedCss.Proofs.Exec
import ScopedCss.Proofs.Letters

/-!
Calls of compiled generators. A compiled class writes what its values write and then its stylesheet,
if none of its values fails. If its values do nothing but give values or fail, it writes all of its
text or none, and the slot behind its last one depends only on the slot that it starts from. So
replaying registrations of such classes changes nothing in a session but the counts of calls.
-/
namespace ScopedCss

/-! ### Values -/

@[simp] theorem Doing.exec_ofExcept {α : Type} (r : Except EvalError α) (d : Deeds) :
    exec (Doing.ofExcept r) d = (r, d) := by
  cases r <;> rfl

/-- Codes that do not act leave all as it is. -/
theorem Code.exec_run_of_inactive {c : Code} (h : c.isActing = false) (s : Scope) (d : Deeds) :
    exec (c.run s) d = (c.value { s with counter := d.counter }, d) := by
  cases c with
  | acting run => cases h
  | _ => simp only [run, exec_get_bind, Doing.exec_ofExcept]

theorem Code.isPlain_eq (c : Code) : c.isPlain = (!c.isActing && !c.isSuspending) := by
  cases c <;> rfl

/-- The value of an argument that does not act. -/
def LinkedArgument.plainValue (s : Scope) : LinkedArgument → Except EvalError Shown
  | .slot i => .ok (.ok (toString (s.start + i) : String))
  | .value c => c.value s

namespace StyleClass

theorem exec_argumentValue_slot (s : Scope) (i : Nat) (d : Deeds) :
    exec (argumentValue s (.slot i)) d = (.ok (.ok (toString (s.start + i) : String)), d) := rfl

/-- An argument that does not act comes to its value. -/
theorem exec_argumentValue {a : LinkedArgument} (h : a.holds (!·.isActing) = true) (s : Scope)
    (d : Deeds) : exec (argumentValue s a) d =
      (a.plainValue { s with counter := d.counter }, d) := by
  cases a with
  | slot i => rfl
  | value c =>
    have hstill : c.isActing = false := by simpa [LinkedArgument.holds] using h
    rw [argumentValue, Code.exec_run_of_inactive hstill]
    rfl

theorem exec_mapM_of_inactive {as : List LinkedArgument}
    (h : as.all (·.holds (!·.isActing)) = true) (s : Scope) (d : Deeds) :
    exec (as.mapM (argumentValue s)) d =
      (as.mapM (·.plainValue { s with counter := d.counter }), d) :=
  exec_mapM_of_still fun a ha => exec_argumentValue (List.all_eq_true.1 h a ha) s d

theorem isPlain_iff {c : StyleClass} :
    c.isPlain = true ↔ c.isInactive = true ∧ c.isSuspended = false := by
  rw [isInactive, isSuspended, Bool.not_eq_false', isPlain, List.all_eq_true, List.all_eq_true,
    List.all_eq_true, ← forall₂_and]
  refine forall₂_congr fun a _ => ?_
  cases a with
  | slot i => simp [LinkedArgument.holds]
  | value code => simp [LinkedArgument.holds, Code.isPlain_eq]

/-! ### The method that writes the stylesheet -/

theorem exec_body (c : StyleClass) (theme : Theme) (start : Int) (d : Deeds) :
    exec (c.body theme start) d =
      match exec (c.arguments.mapM (argumentValue (c.scope theme start))) d with
      | (.error e, t) => (.error e, t)
      | (.ok values, t) =>
        match values.mapM id with
        | .error e => (.error e, t)
        | .ok texts =>
          let css := Template.fill (String.join c.definition.literals).toList texts
          (.ok (), ⟨t.written ++ .ofLetters css, start + c.definition.slotCount⟩) := by
  rw [body, exec_bind]
  cases exec (c.arguments.mapM (argumentValue (c.scope theme start))) d with
  | mk r t =>
    cases r with
    | error e => rfl
    | ok values =>
      dsimp only
      rw [exec_bind, Doing.exec_ofExcept]
      cases values.mapM id <;> rfl

section
variable {c : StyleClass} {theme : Theme} {start : Int}

/-- If any of it fails, what the values did until then is all that was done. -/
theorem exec_body_of_error {d : Deeds} {e : EvalError}
    (h : (exec (c.body theme start) d).1 = .error e) :
    exec (c.body theme start) d =
      (.error e, (exec (c.arguments.mapM (argumentValue (c.scope theme start))) d).2) := by
  revert h
  rw [exec_body]
  rcases exec (c.arguments.mapM (argumentValue (c.scope theme start))) d with ⟨e' | values, t⟩
  · rintro ⟨⟩
    rfl
  · dsimp only
    cases values.mapM id <;> rintro ⟨⟩
    rfl

theorem call_of_writer {v : Value} (h : c.writer = some v) :
    c.call theme start = (.error (.notCallable v.typeName), ⟨"", start⟩) := by
  rw [call, h]
  rfl

theorem call_of_suspended (hwriter : c.writer = none) (h : c.isSuspended = true) :
    c.call theme start = (.ok (), ⟨"", start⟩) := by
  rw [call, hwriter, h]
  rfl

theorem call_eq_body (hwriter : c.writer = none) (h : c.isSuspended = false) :
    c.call theme start = exec (c.body theme start) ⟨"", start⟩ := by
  rw [call, hwriter, h]
  rfl

theorem generate_eq_ok {text : Text} {stop : Int} :
    c.generate theme start = .ok (text, stop) ↔ c.call theme start = (.ok (), ⟨text, stop⟩) := by
  rw [generate]
  rcases c.call theme start with ⟨⟨⟩ | ⟨⟨⟩⟩, deeds⟩ <;> simp [Except.map, Deeds.ext_iff]

theorem generate_eq_error {e : EvalError} :
    c.generate theme start = .error e ↔ (c.call theme start).1 = .error e := by
  rw [generate]
  rcases c.call theme start with ⟨⟨⟩ | ⟨⟨⟩⟩, deeds⟩ <;> simp [Except.map]

/-- A class that writes takes as many slots as it has class names. -/
theorem generate_stop (hrun : c.isSuspended = false) {text : Text} {stop : Int}
    (h : c.generate theme start = .ok (text, stop)) : stop = start + c.definition.slotCount := by
  rw [generate_eq_ok] at h
  cases hwriter : c.writer with
  | some v =>
    rw [call_of_writer hwriter] at h
    cases h
  | none =>
    rw [call_eq_body hwriter hrun, exec_body] at h
    split at h
    · cases h
    · split at h <;> cases h
      rfl

/-- A class whose values do nothing but give values or fail has done nothing when it fails. -/
theorem call_of_error (hstill : c.isInactive = true) {e : EvalError}
    (h : c.generate theme start = .error e) : c.call theme start = (.error e, ⟨"", start⟩) := by
  rw [generate_eq_error] at h
  cases hwriter : c.writer with
  | some v =>
    rw [call_of_writer hwriter] at h ⊢
    cases h
    rfl
  | none =>
    cases hrun : c.isSuspended with
    | true =>
      rw [call_of_suspended hwriter hrun] at h
      cases h
    | false =>
      rw [call_eq_body hwriter hrun] at h ⊢
      rw [exec_body_of_error h, exec_mapM_of_inactive hstill]

end
end StyleClass

/-! ### One call -/

/-- Writing nothing changes nothing. -/
theorem Session.modifyBackend_write_empty (s : Session) (b edition : Nat) :
    s.modifyBackend b (Backend.write edition (Text.ofString "")) = s := by
  have hstill : Backend.write edition (Text.ofString "") = id := by
    funext page
    cases page with
    | file name => rfl
    | memory css n => simp [Backend.write, Text.append_empty]
  rw [Session.modifyBackend, hstill, List.modify_id]

theorem Run.write_empty (r : Run) (sink : Sink) : r.write sink (Text.ofString "") = r := by
  cases sink with
  | collected => rw [write, Text.append_empty]
  | page b edition => rw [write, Session.modifyBackend_write_empty]

variable (again : Step → Act Outcome)

theorem exec_run_compiled (c : Call) (cls : StyleClass) (r : Run) :
    exec (Generator.Body.run again c (.compiled cls)) r =
      let called := cls.call c.theme r.counter
      (called.1.mapError .eval,
        { r.write c.sink called.2.written with counter := called.2.counter }) := by
  simp only [Generator.Body.run, exec_get_bind, exec_modify_bind]
  cases (cls.call c.theme r.counter).1 <;> rfl

theorem exec_call (g : Generator) (theme : Theme) (sink : Sink) (counter : Int) (s : Session) :
    exec (g.call again theme sink counter) s =
      let called := exec (g.body.run again ⟨theme, sink, s.callCount g.number + 1⟩)
        ⟨counter, "", s.countCall g.number⟩
      (.ok ⟨called.1, called.2.counter, called.2.collected⟩, called.2.session) := rfl

section
variable {g : Generator} {cls : StyleClass} {theme : Theme} {start : Int}

theorem exec_call_compiled (hbody : g.body = .compiled cls) {result : Except EvalError Unit}
    {deeds : Deeds} (h : cls.call theme start = (result, deeds)) (sink : Sink) (s : Session) :
    exec (g.call again theme sink start) s =
      let r := Run.write ⟨start, "", s.countCall g.number⟩ sink deeds.written
      (.ok ⟨result.mapError .eval, deeds.counter, r.collected⟩, r.session) := by
  rw [exec_call, hbody, exec_run_compiled, h]

theorem exec_call_of_error {e : EvalError} (hbody : g.body = .compiled cls)
    (hstill : cls.isInactive = true) (hfailed : cls.generate theme start = .error e) (sink : Sink)
    (s : Session) :
    exec (g.call again theme sink start) s =
      (.ok ⟨.error (.eval e), start, ""⟩, s.countCall g.number) := by
  rw [exec_call_compiled again hbody (StyleClass.call_of_error hstill hfailed)]
  dsimp only
  rw [Run.write_empty]
  rfl

theorem exec_call_of_ok {text : Text} {stop : Int} (hbody : g.body = .compiled cls)
    (hwrote : cls.generate theme start = .ok (text, stop)) (sink : Sink) (s : Session) :
    exec (g.call again theme sink start) s =
      let r := Run.write ⟨start, "", s.countCall g.number⟩ sink text
      (.ok ⟨.ok (), stop, r.collected⟩, r.session) :=
  exec_call_compiled again hbody (StyleClass.generate_eq_ok.1 hwrote) sink s

end

/-! ### Replays -/

namespace Registration

/-- The text of a mounted compiled class against a theme, within the slots that it owns. -/
def Writes (theme : Theme) (r : Registration) (text : Text) : Prop :=
  ∃ c, r.generator.body = .compiled c ∧ c.generate theme r.start = .ok (text, r.stop)

/-- A compiled class that owns as many slots as it has class names, and whose values do nothing but
give values or fail. -/
def IsWindow (r : Registration) : Prop :=
  ∃ c, r.generator.body = .compiled c ∧ c.isPlain = true ∧
    r.stop = r.start + c.definition.slotCount

end Registration

namespace Provider

open Registration

theorem exec_replay_of_writes {theme : Theme} {r : Registration} {text : Text}
    (h : r.Writes theme text) (s : Session) :
    exec (replay again theme r) s = (.ok text, s.countCall r.generator.number) := by
  obtain ⟨c, hbody, hwrote⟩ := h
  rw [replay, exec_bind_of_ok (exec_call_of_ok again hbody hwrote .collected s)]
  simp only [Run.write, Text.empty_append]
  rw [exec_bind_of_ok (exec_ofExcept_ok () _)]
  simp

theorem exec_replayAll_of_writes {theme : Theme} {rs : List Registration} {texts : List Text}
    (h : List.Forall₂ (Writes theme) rs texts) (s : Session) :
    ∃ calls, exec (replayAll again theme rs) s =
      (.ok (Text.join texts), { s with calls := calls }) := by
  induction h generalizing s with
  | nil => exact ⟨s.calls, rfl⟩
  | @cons r text rs texts hfirst _ ih =>
    obtain ⟨calls, hrest⟩ := ih (s.countCall r.generator.number)
    refine ⟨calls, ?_⟩
    rw [replayAll, exec_bind_of_ok (exec_replay_of_writes again hfirst s), exec_bind_of_ok hrest,
      Text.join_cons]
    rfl

/-- Replaying windows either gives all texts or fails, and only counts calls. -/
theorem replayAll_cases (theme : Theme) {rs : List Registration} (hwindows : ∀ r ∈ rs, r.IsWindow)
    (s : Session) :
    (∃ texts, List.Forall₂ (Writes theme) rs texts) ∨
      ∃ e calls, exec (replayAll again theme rs) s = (.error e, { s with calls := calls }) := by
  induction rs generalizing s with
  | nil => exact .inl ⟨[], .nil⟩
  | cons r rs ih =>
    obtain ⟨c, hbody, hplain, hwidth⟩ := hwindows r List.mem_cons_self
    obtain ⟨hstill, hrunning⟩ := StyleClass.isPlain_iff.1 hplain
    cases hrun : c.generate theme r.start with
    | error e =>
      refine .inr ⟨.eval e, (s.countCall r.generator.number).calls, ?_⟩
      rw [replayAll]
      apply exec_bind_of_error
      rw [replay, exec_bind_of_ok (exec_call_of_error again hbody hstill hrun .collected s)]
      rfl
    | ok p =>
      obtain ⟨text, stop⟩ := p
      have hfirst : r.Writes theme text := by
        refine ⟨c, hbody, ?_⟩
        rw [hrun, StyleClass.generate_stop hrunning hrun, hwidth]
      have hothers := ih (fun q hq => hwindows q (List.mem_cons_of_mem r hq))
        (s.countCall r.generator.number)
      rcases hothers with ⟨texts, hall⟩ | ⟨e, calls, hfailed⟩
      · exact .inl ⟨text :: texts, .cons hfirst hall⟩
      · refine .inr ⟨e, calls, ?_⟩
        rw [replayAll, exec_bind_of_ok (exec_replay_of_writes again hfirst s),
          exec_bind_of_error hfailed]
        rfl

end Provider
end ScopedCss

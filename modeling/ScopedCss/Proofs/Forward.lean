import ScopedCss.Proofs.Loading
import ScopedCss.Proofs.Scripts

/-!
Generators that never move a counter back. A call of such a generator ends at the slot where it
started or behind it, whether it fails or not. Classes whose values do nothing but give values or
fail are of this kind.
-/
namespace ScopedCss

/-! ### Classes and scripts -/

/-- No call of the class leaves the counter before the slot where it started. -/
def StyleClass.Forward (cls : StyleClass) : Prop :=
  ∀ theme start, start ≤ (cls.call theme start).2.counter

theorem StyleClass.forward_of_inactive {cls : StyleClass} (h : cls.isInactive = true) :
    cls.Forward := by
  intro theme start
  cases hran : cls.generate theme start with
  | error e => rw [call_of_error h hran]
  | ok p =>
    obtain ⟨text, stop⟩ := p
    rw [generate_eq_ok.1 hran]
    show start ≤ stop
    cases hsuspended : cls.isSuspended with
    | false =>
      rw [generate_stop hsuspended hran]
      omega
    | true =>
      rw [generate_eq_ok] at hran
      cases hwriter : cls.writer with
      | some v =>
        rw [call_of_writer hwriter] at hran
        cases hran
      | none =>
        rw [call_of_suspended hwriter hsuspended] at hran
        cases hran
        exact Int.le_refl start

section
variable (language : Language)

mutual

/-- Neither the action nor any script or class that comes of it moves a counter back. -/
def Action.Forward : Action → Prop
  | .write _ | .advanceByCalls => True
  | .rules _ count => 0 ≤ count
  | .advance slots => 0 ≤ slots
  | .onCall _ action | .attempt action => action.Forward
  | .react reaction => reaction.Forward

def Reaction.Forward : Reaction → Prop
  | .raise _ _ => True
  | .perform step => step.Forward

def Step.Forward : Step → Prop
  | .compile source globals settings _ =>
    ∀ cls ∈ StyleClass.madeFrom language source globals settings, cls.Forward
  | .define _ _ _ actions => Action.AllForward actions
  | .subscribe _ _ reactions _ => Reaction.AllForward reactions
  | _ => True

def Action.AllForward : List Action → Prop
  | [] => True
  | a :: as => a.Forward ∧ Action.AllForward as

def Reaction.AllForward : List Reaction → Prop
  | [] => True
  | r :: rs => r.Forward ∧ Reaction.AllForward rs

end

def Generator.Body.Forward : Generator.Body → Prop
  | .base => True
  | .compiled cls => cls.Forward
  | .script actions => Action.AllForward language actions

variable {language}

theorem Action.allForward_iff {as : List Action} :
    Action.AllForward language as ↔ ∀ a ∈ as, a.Forward language := by
  induction as with
  | nil => simp [Action.AllForward]
  | cons a as ih => simp [Action.AllForward, ih]

theorem Reaction.allForward_iff {rs : List Reaction} :
    Reaction.AllForward language rs ↔ ∀ r ∈ rs, r.Forward language := by
  induction rs with
  | nil => simp [Reaction.AllForward]
  | cons r rs ih => simp [Reaction.AllForward, ih]

theorem Action.forward_of_mem_steps {a : Action} (h : a.Forward language) {step : Step}
    (hasking : step ∈ a.steps) : step.Forward language := by
  induction a with
  | onCall number a ih => exact ih (by simpa [Action.Forward] using h) hasking
  | attempt a ih => exact ih (by simpa [Action.Forward] using h) hasking
  | react reaction =>
    cases reaction with
    | raise kind text => cases hasking
    | perform step' =>
      obtain rfl := List.mem_singleton.1 hasking
      simpa [Action.Forward, Reaction.Forward] using h
  | _ => cases hasking

theorem Generator.Body.forward_of_mem_steps {body : Generator.Body} (h : body.Forward language)
    {step : Step} (hasking : step ∈ body.steps) : step.Forward language := by
  cases body with
  | script actions =>
    obtain ⟨a, hmember, hasking⟩ := List.mem_flatMap.1 hasking
    exact Action.forward_of_mem_steps (Action.allForward_iff.1 h a hmember) hasking
  | _ => cases hasking

end

/-! ### Counters -/

section
variable {language : Language} {again : Step → Act Outcome} {start : Int}

theorem keeps_counter_action {c : Call} {a : Action} (h : a.Forward language) :
    Keeps (fun r : Run => start ≤ r.counter) (a.run again c) := by
  have hwritten (text : Text) : Keeps (fun r : Run => start ≤ r.counter)
      (modify (·.write c.sink text) : Running PUnit) := by
    refine keeps_modify fun r hr => ?_
    cases c.sink <;> exact hr
  have hadvanced {slots : Int} (hforth : 0 ≤ slots) : Keeps (fun r : Run => start ≤ r.counter)
      (modify (·.advance slots) : Running PUnit) :=
    keeps_modify fun r hr => Int.le_trans hr (Int.le_add_of_nonneg_right hforth)
  induction a with
  | write text => exact hwritten text
  | rules label count =>
    exact keeps_get_bind fun _ _ => Keeps.bind (hwritten _) fun _ =>
      hadvanced (by simpa [Action.Forward] using h)
  | advance slots => exact hadvanced (by simpa [Action.Forward] using h)
  | advanceByCalls => exact hadvanced (Int.natCast_nonneg _)
  | onCall number a ih =>
    rw [Action.run]
    split
    · exact ih (by simpa [Action.Forward] using h)
    · exact keeps_pure _
  | attempt a ih => exact (ih (by simpa [Action.Forward] using h)).tryCatch fun e => hwritten _
  | react reaction => exact fun r hr => hr

theorem keeps_counter_body {c : Call} {body : Generator.Body} (h : body.Forward language) :
    Keeps (fun r : Run => start ≤ r.counter) (body.run again c) := by
  cases body with
  | base => exact keeps_throw _
  | compiled cls =>
    intro r hr
    rw [exec_run_compiled]
    exact Int.le_trans hr (h c.theme r.counter)
  | script actions =>
    exact keeps_forM fun a hmember => keeps_counter_action (Action.allForward_iff.1 h a hmember)

end

/-! ### Calls -/

/-- Some call of the generator from a slot on came to this and ended at that slot. -/
def Generator.Ends (g : Generator) (start : Int) (result : Except Failure Unit) (stop : Int) :
    Prop :=
  ∃ again theme sink s collected t,
    exec (g.call again theme sink start) s = (.ok ⟨result, stop, collected⟩, t)

namespace Generator.Ends

variable {g : Generator} {start stop : Int} {result : Except Failure Unit}

theorem le (h : g.Ends start result stop) {language : Language}
    (hforward : g.body.Forward language) : start ≤ stop := by
  obtain ⟨again, theme, sink, s, collected, t, hran⟩ := h
  have hkept : Keeps (fun r : Run => start ≤ r.counter)
      (g.body.run again ⟨theme, sink, s.callCount g.number + 1⟩) := keeps_counter_body hforward
  rw [exec_call] at hran
  cases hran
  exact hkept ⟨start, "", s.countCall g.number⟩ (Int.le_refl start)

theorem width (h : g.Ends start (.ok ()) stop) {cls : StyleClass} (hbody : g.body = .compiled cls)
    (hrunning : cls.isSuspended = false) : stop = start + cls.definition.slotCount := by
  obtain ⟨again, theme, sink, s, collected, t, hran⟩ := h
  cases hcalled : cls.call theme start with
  | mk result deeds =>
    rw [exec_call_compiled again hbody hcalled] at hran
    cases result with
    | error e => cases hran
    | ok _ =>
      cases hran
      exact StyleClass.generate_stop hrunning (StyleClass.generate_eq_ok.2 hcalled)

end Generator.Ends

end ScopedCss

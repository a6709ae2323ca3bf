import ScopedCss.Proofs.Scripts
import ScopedCss.Proofs.Serving

/-!
A provider that is busy. Generators and listeners may ask things of it meanwhile, at any depth of
nesting, but all that comes of it is lines in the log, counts of calls, and events that tell of no
change.
-/
namespace ScopedCss

/-- The steps that ask something of the provider with a name. -/
def Step.concerns (id : String) : Step → Bool
  | .mountGenerator p _ => p == id
  | step => step.uses id

/-- The events that tell of no change: a style is mounted already, a theme is the same. -/
def Event.isReminder : Event → Bool
  | .styleReused _ _ | .themeUnchanged _ => true
  | _ => false

/-- A session that differs in nothing but what was logged and counted and in reminders that were
heard. -/
def Session.Alike (s t : Session) : Prop :=
  ∃ logs heard calls, t = { s with logs := logs, heard := s.heard ++ heard, calls := calls } ∧
    ∀ h ∈ heard, h.2.isReminder = true

namespace Session.Alike

variable {s t : Session}

theorem refl (s : Session) : s.Alike s :=
  ⟨s.logs, [], s.calls, by rw [List.append_nil], by simp⟩

theorem addLogs (h : s.Alike t) (lines : List LogLine) : s.Alike (t.addLogs lines) := by
  obtain ⟨logs, heard, calls, rfl, hreminders⟩ := h
  exact ⟨logs ++ lines, heard, calls, rfl, hreminders⟩

theorem hear (h : s.Alike t) (listener : String) {e : Event} (hreminder : e.isReminder = true) :
    s.Alike (t.hear listener e) := by
  obtain ⟨logs, heard, calls, rfl, hreminders⟩ := h
  refine ⟨logs, heard ++ [(listener, e)], calls, ?_, ?_⟩
  · simp [Session.hear]
  · intro h hmember
    rcases List.mem_append.1 hmember with hmember | hmember
    · exact hreminders h hmember
    · rw [List.mem_singleton.1 hmember]
      exact hreminder

theorem countCall (h : s.Alike t) (n : Nat) : s.Alike (t.countCall n) := by
  obtain ⟨logs, heard, calls, rfl, hreminders⟩ := h
  exact ⟨logs, heard, _, rfl, hreminders⟩

theorem provider (h : s.Alike t) (i : Nat) : t.provider i = s.provider i := by
  obtain ⟨_, _, _, rfl, -⟩ := h
  rfl

theorem backend (h : s.Alike t) (b : Nat) : t.backend b = s.backend b := by
  obtain ⟨_, _, _, rfl, -⟩ := h
  rfl

theorem files (h : s.Alike t) : t.files = s.files := by
  obtain ⟨_, _, _, rfl, -⟩ := h
  rfl

theorem listeners (h : s.Alike t) : t.listeners = s.listeners := by
  obtain ⟨_, _, _, rfl, -⟩ := h
  rfl

theorem providerIds (h : s.Alike t) : t.providerIds = s.providerIds := by
  obtain ⟨_, _, _, rfl, -⟩ := h
  rfl

end Session.Alike

/-- Whatever listeners ask for concerns the provider that has the name. -/
structure Session.Keeping (id : String) (i : Nat) (s : Session) : Prop where
  named : s.providerIds.lookup id = some i
  tame : ∀ entry ∈ s.listeners, ∀ step, .perform step ∈ entry.2 → step.concerns id = true

section
variable {again : Step → Act Outcome} {id : String} {i : Nat} {s : Session}
  (hkeeping : s.Keeping id i) (hbusy : (s.provider i).busy = true)
  (hnested : ∀ step : Step, step.concerns id = true → Keeps s.Alike (again step))

theorem keeps_alike_log (message : String) : Keeps s.Alike (Provider.log message) :=
  keeps_modify fun _ h => h.addLogs _

include hkeeping hnested in
theorem keeps_alike_tell {e : Event} (hreminder : e.isReminder = true) :
    Keeps s.Alike (Provider.tell again i e) := by
  refine keeps_tell_of (fun l t h => h.hear l hreminder)
    (fun t h entry hmember step hasking => ?_) i
  rw [h.listeners] at hmember
  exact hnested step (hkeeping.tame entry hmember step hasking)

include hkeeping hbusy hnested

/-- A generator that is mounted is found again, another one is refused. -/
theorem keeps_alike_mount (g : Generator) : Keeps s.Alike (Provider.mount again i g) := by
  intro t h
  cases hknown : (t.provider i).registered? g with
  | some r =>
    rw [Provider.exec_mount_of_registered again hknown]
    exact (Keeps.bind (keeps_alike_log _) fun _ =>
      Keeps.bind (keeps_alike_tell hkeeping hnested rfl) fun _ => keeps_pure _) t h
  | none =>
    rw [Provider.exec_mount_of_busy again hknown (by rw [h.provider, hbusy])]
    exact h

theorem keeps_alike_mountClass (m : Mountable) :
    Keeps s.Alike (Provider.mountClass again i m) := by
  refine Keeps.bind (keeps_alike_mount hkeeping hbusy hnested m.generator) fun start => ?_
  cases m with
  | base => exact keeps_throw _
  | compiled n c => exact keeps_ofExcept _

omit hkeeping hnested in
theorem exec_renderWith_of_alike {t : Session} (h : s.Alike t) (theme : Theme) :
    exec (Provider.renderWith again i theme) t = (.error .reentrant, t) :=
  Provider.exec_exclusive_of_busy _ (by rw [h.provider, hbusy])

/-- A theme that would have to be rendered is refused. -/
theorem keeps_alike_updateTheme (theme : Theme) :
    Keeps s.Alike (Provider.updateTheme again i theme) := by
  intro t h
  rcases Provider.updateTheme_cases again i theme t with
    ⟨e, hrefused⟩ | ⟨-, -, hunchanged⟩ | ⟨-, -, hrendered⟩
  · rw [hrefused]
    exact h
  · rw [hunchanged]
    exact (Keeps.bind (keeps_alike_log _) fun _ => keeps_alike_tell hkeeping hnested rfl) t h
  · rw [hrendered, exec_bind_of_error (exec_renderWith_of_alike hbusy h theme)]
    exact h

omit hkeeping hnested in
theorem keeps_alike_render : Keeps s.Alike (Provider.render again i) := by
  refine keeps_get_bind fun t _ u h => ?_
  rw [exec_renderWith_of_alike hbusy h]
  exact h

omit hbusy hnested in
theorem keeps_alike_providerNumber {α : Type} {f : Nat → Act α} (hf : Keeps s.Alike (f i)) :
    Keeps s.Alike (Step.providerNumber id >>= f) := by
  intro t h
  have hnamed : t.providerIds.lookup id = some i := by rw [h.providerIds, hkeeping.named]
  rw [exec_bind_of_ok (Step.exec_providerNumber hnamed)]
  exact hf t h

theorem keeps_alike_step {step : Step} (h : step.concerns id = true) :
    Keeps s.Alike (step.run again) := by
  have hknown (c : String) : Keeps s.Alike (Step.className c) :=
    keeps_get_bind fun _ _ => keeps_ofExcept _
  have hmounted := keeps_alike_mountClass hkeeping hbusy hnested
  cases step with
  | mount p c =>
    obtain rfl : p = id := by simpa [Step.concerns, Step.uses] using h
    exact keeps_alike_providerNumber hkeeping <| Keeps.bind (hknown c) fun m =>
      Keeps.bind (hmounted m) fun _ => keeps_pure _
  | useStyle p c =>
    obtain rfl : p = id := by simpa [Step.concerns, Step.uses] using h
    exact Keeps.bind (hknown c) fun m => keeps_alike_providerNumber hkeeping <|
      Keeps.bind (hmounted m) fun _ => keeps_pure _
  | same p c =>
    obtain rfl : p = id := by simpa [Step.concerns, Step.uses] using h
    exact keeps_alike_providerNumber hkeeping <| Keeps.bind (hknown c) fun m =>
      Keeps.bind (hmounted m) fun _ => Keeps.bind (hmounted m) fun _ => keeps_pure _
  | mountGenerator p g =>
    obtain rfl : p = id := by simpa [Step.concerns, Step.uses] using h
    exact keeps_alike_providerNumber hkeeping <|
      Keeps.bind (keeps_get_bind fun _ _ => keeps_ofExcept _) fun g =>
        Keeps.bind (keeps_alike_mount hkeeping hbusy hnested g) fun _ => keeps_pure _
  | updateTheme p theme =>
    obtain rfl : p = id := by simpa [Step.concerns, Step.uses] using h
    exact keeps_alike_providerNumber hkeeping <|
      Keeps.bind (keeps_alike_updateTheme hkeeping hbusy hnested theme) fun _ => keeps_pure _
  | render p =>
    obtain rfl : p = id := by simpa [Step.concerns, Step.uses] using h
    exact keeps_alike_providerNumber hkeeping <|
      Keeps.bind (keeps_alike_render hbusy) fun _ => keeps_pure _
  | _ => cases h

end

/-- Nothing comes of what is asked of a busy provider, at any depth of nesting. -/
theorem keeps_alike_perform {id : String} {i : Nat} {s : Session} (hkeeping : s.Keeping id i)
    (hbusy : (s.provider i).busy = true) (depth : Nat) {step : Step}
    (h : step.concerns id = true) : Keeps s.Alike (step.perform depth) := by
  induction depth generalizing step with
  | zero => exact keeps_throw _
  | succ depth ih => exact keeps_alike_step hkeeping hbusy (fun _ hinner => ih hinner) h

end ScopedCss

import ScopedCss.Proofs.Containment

/-!
Switches of the theme, whatever generators are mounted: they may write another text at every call,
fail behind any text, take other slots than before, and ask things of their provider. Main
statement: a switch changes the provider and its page together, or it changes neither of them.
-/
namespace ScopedCss

/-! ### Replays -/

/-- The texts that registrations write one after the other, each in its own slots from the first to
the last, and the session after them. -/
inductive Provider.Replays (again : Step → Act Outcome) (theme : Theme) :
    Session → List Registration → List Text → Session → Prop where
  | nil (s : Session) : Replays again theme s [] [] s
  | cons {s t u : Session} {r : Registration} {rs : List Registration} {text : Text}
      {texts : List Text}
      (hcalled : exec (r.generator.call again theme .collected r.start) s =
        (.ok ⟨.ok (), r.stop, text⟩, t))
      (hrest : Replays again theme t rs texts u) :
      Replays again theme s (r :: rs) (text :: texts) u

namespace Provider

variable {again : Step → Act Outcome} {theme : Theme} {s t : Session}

theorem called_of_replay {r : Registration} {text : Text}
    (h : exec (replay again theme r) s = (.ok text, t)) :
    exec (r.generator.call again theme .collected r.start) s = (.ok ⟨.ok (), r.stop, text⟩, t) := by
  obtain ⟨⟨result, counter, collected⟩, u, hcalled, hrest⟩ := exec_bind_eq_ok.1 h
  obtain ⟨_, v, hsucceeded, hrest⟩ := exec_bind_eq_ok.1 hrest
  cases result with
  | error e => cases hsucceeded
  | ok _ =>
    cases hsucceeded
    dsimp only at hrest
    split at hrest
    · cases hrest
    · rename_i hstopped
      cases hrest
      rw [hcalled, not_not.1 hstopped]

/-- All that is rendered is the texts of the registrations in their order. -/
theorem replays_of_replayAll {rs : List Registration} {css : Text}
    (h : exec (replayAll again theme rs) s = (.ok css, t)) :
    ∃ texts, css = Text.join texts ∧ Replays again theme s rs texts t := by
  induction rs generalizing s css with
  | nil =>
    cases h
    exact ⟨[], rfl, .nil _⟩
  | cons r rs ih =>
    obtain ⟨text, u, hfirst, hrest⟩ := exec_bind_eq_ok.1 h
    obtain ⟨css, v, hothers, hlast⟩ := exec_bind_eq_ok.1 hrest
    cases hlast
    obtain ⟨texts, rfl, hreplays⟩ := ih hothers
    exact ⟨text :: texts, (Text.join_cons text texts).symm,
      .cons (called_of_replay hfirst) hreplays⟩

/-- What is rendered was written while the provider was busy. -/
theorem replays_of_renderWith {i : Nat} {css : Text} (hi : i < s.providers.length)
    (h : exec (renderWith again i theme) s = (.ok css, t)) :
    ∃ texts u, css = Text.join texts ∧
      Replays again theme (s.modifyProvider i fun p => { p with busy := true })
        (s.provider i).registrations texts u := by
  cases hidle : (s.provider i).busy with
  | true =>
    rw [renderWith, exec_exclusive_of_busy _ hidle] at h
    cases h
  | false =>
    rw [exec_renderWith_of_idle again theme hi hidle] at h
    have hrendered : (exec (replayAll again theme (s.provider i).registrations)
        (s.modifyProvider i fun p => { p with busy := true })).1 = .ok css := congrArg Prod.fst h
    obtain ⟨texts, hjoined, hreplays⟩ := replays_of_replayAll (Prod.ext hrendered rfl)
    exact ⟨texts, _, hjoined, hreplays⟩

end Provider

/-! ### Rendering -/

/-- A generator that asks for something asks it of the provider that has the name, and so do the
listeners then. -/
def Generator.Bound (id : String) (i : Nat) (s : Session) (g : Generator) : Prop :=
  ∀ step ∈ g.body.steps, s.Keeping id i ∧ step.concerns id = true

theorem Generator.Bound.modifyProvider {id : String} {i : Nat} {s : Session} {g : Generator}
    (h : g.Bound id i s) (j : Nat) (f : Provider → Provider) :
    g.Bound id i (s.modifyProvider j f) := by
  intro step hasking
  obtain ⟨hkeeping, hconcerns⟩ := h step hasking
  exact ⟨⟨hkeeping.named, hkeeping.tame⟩, hconcerns⟩

section
variable {id : String} {i : Nat} {s t : Session} (depth : Nat) (theme : Theme)

/-- The mark that a provider is busy is all that is left to take back. -/
theorem Session.Alike.idle (hidle : (s.provider i).busy = false)
    (h : (s.modifyProvider i fun p => { p with busy := true }).Alike t) :
    s.Alike (t.modifyProvider i fun p => { p with busy := false }) := by
  obtain ⟨logs, heard, calls, rfl, hreminders⟩ := h
  refine ⟨logs, heard, calls, ?_, hreminders⟩
  exact Provider.modify_busy_eq_self
    (s := { s with logs := logs, heard := s.heard ++ heard, calls := calls }) hidle

/-- Collecting the text of a generator changes nothing, whatever the generator does. -/
theorem keeps_alike_call {g : Generator} (start : Int) (hbusy : (s.provider i).busy = true)
    (hbound : g.Bound id i s) :
    Keeps s.Alike (g.call (Step.perform depth) theme .collected start) := by
  refine keeps_call (fun n t h => h.countCall n) (fun _ _ h => h) (fun step hasking => ?_) theme _
  obtain ⟨hkeeping, hconcerns⟩ := hbound step hasking
  exact keeps_alike_perform hkeeping hbusy depth hconcerns

theorem keeps_alike_replayAll (hbusy : (s.provider i).busy = true) {rs : List Registration}
    (hbound : ∀ r ∈ rs, r.generator.Bound id i s) :
    Keeps s.Alike (Provider.replayAll (Step.perform depth) theme rs) :=
  Provider.keeps_replayAll fun r hmember => keeps_alike_call depth theme _ hbusy (hbound r hmember)

/-- A switch up to the point where the stylesheet is replaced: whatever the generators do, nothing
has changed by then. -/
theorem alike_renderWith (hi : i < s.providers.length)
    (hbound : ∀ r ∈ (s.provider i).registrations, r.generator.Bound id i s) :
    s.Alike (exec (Provider.renderWith (Step.perform depth) i theme) s).2 := by
  cases hidle : (s.provider i).busy with
  | true =>
    rw [Provider.renderWith, Provider.exec_exclusive_of_busy _ hidle]
    exact .refl s
  | false =>
    rw [Provider.exec_renderWith_of_idle _ theme hi hidle]
    have hbusy :
        ((s.modifyProvider i fun p => { p with busy := true }).provider i).busy = true := by
      rw [Session.provider_modifyProvider_self _ hi]
    exact Session.Alike.idle hidle (keeps_alike_replayAll depth theme hbusy
      (fun r hmember => (hbound r hmember).modifyProvider i _) _ (.refl _))

/-- Generators that ask for nothing let nobody hear anything. -/
theorem heard_renderWith (again : Step → Act Outcome) (hi : i < s.providers.length)
    (hsilent : ∀ r ∈ (s.provider i).registrations, r.generator.body.steps = []) :
    (exec (Provider.renderWith again i theme) s).2.heard = s.heard := by
  cases hidle : (s.provider i).busy with
  | true => rw [Provider.renderWith, Provider.exec_exclusive_of_busy _ hidle]
  | false =>
    rw [Provider.exec_renderWith_of_idle _ theme hi hidle]
    have hquiet : Keeps (fun t : Session => t.heard = s.heard)
        (Provider.replayAll again theme (s.provider i).registrations) := by
      refine Provider.keeps_replayAll fun r hmember => ?_
      exact keeps_call (fun _ _ h => h) (fun _ _ h => h) (by simp [hsilent r hmember]) theme _
    exact hquiet _ rfl

end

/-! ### Switching -/

/-- Every event can be told without a failure, and then neither the provider nor its page has
changed. -/
def Session.Calm (again : Step → Act Outcome) (i b : Nat) (s : Session) : Prop :=
  ∀ e t, t.bus = s.bus → t.listeners = s.listeners →
    let told := exec (Provider.tell again i e) t
    told.1 = .ok () ∧ told.2.provider i = t.provider i ∧ told.2.backend b = t.backend b

section
variable {again : Step → Act Outcome} {i b : Nat} {s t : Session}

theorem Session.Alike.calm (h : s.Alike t) (hcalm : s.Calm again i b) : t.Calm again i b := by
  obtain ⟨_, _, _, rfl, -⟩ := h
  exact hcalm

theorem Session.Alike.onPage (h : s.Alike t) (hplaced : OnPage i b s) : OnPage i b t := by
  obtain ⟨_, _, _, rfl, -⟩ := h
  exact ⟨hplaced.here, hplaced.stored, hplaced.backend⟩

theorem exec_callListeners_of_passive (again : Step → Act Outcome)
    (hpassive : ∀ entry ∈ s.listeners, entry.2 = []) (e : Event) (ls : List String) :
    ∃ heard, exec (callListeners again e ls) s = (.ok (), { s with heard := heard }) := by
  induction ls generalizing s with
  | nil => exact ⟨s.heard, rfl⟩
  | cons l ls ih =>
    have hidle : (s.listeners.lookup l).getD [] = [] := by
      cases hfound : s.listeners.lookup l with
      | none => rfl
      | some reactions =>
        exact hpassive (l, reactions) (mem_of_lookup_eq_some hfound)
    obtain ⟨heard, hrest⟩ := ih (s := s.hear l e) hpassive
    refine ⟨heard, ?_⟩
    rw [callListeners, exec_modify_bind, exec_get_bind]
    have hsame : (s.hear l e).listeners = s.listeners := rfl
    rw [hsame, hidle]
    exact hrest

/-- Telling an event to listeners that only hear comes to their having heard it. -/
theorem Provider.exec_tell_of_passive (again : Step → Act Outcome) (i : Nat)
    (hpassive : ∀ entry ∈ s.listeners, entry.2 = []) (e : Event) :
    ∃ heard, exec (Provider.tell again i e) s = (.ok (), { s with heard := heard }) := by
  rw [Provider.tell, exec_get_bind]
  split
  · obtain ⟨first, hall⟩ := exec_callListeners_of_passive again hpassive e (s.bus.listeners .all)
    obtain ⟨heard, htyped⟩ := exec_callListeners_of_passive again
      (s := { s with heard := first }) hpassive e (s.bus.listeners (.type e.typeName))
    refine ⟨heard, ?_⟩
    rw [announce, exec_get_bind, exec_bind_of_ok hall]
    exact htyped
  · exact ⟨s.heard, rfl⟩

/-- What is logged and told to listeners that only hear changes nothing else. -/
theorem Provider.exec_log_tell_of_passive (again : Step → Act Outcome) (i : Nat)
    (hpassive : ∀ entry ∈ s.listeners, entry.2 = []) (message : String) (e : Event) :
    ∃ logs heard, exec (do Provider.log message; Provider.tell again i e) s =
      (.ok (), { s with logs := logs, heard := heard }) := by
  obtain ⟨heard, htold⟩ := Provider.exec_tell_of_passive again i
    (s := s.addLogs [⟨.debug, Provider.logger, message⟩]) hpassive e
  refine ⟨s.logs ++ [⟨.debug, Provider.logger, message⟩], heard, ?_⟩
  rw [Provider.log, exec_modify_bind]
  exact htold

/-- Listeners that only hear let every event be told. -/
theorem Session.calm_of_passive (hpassive : ∀ entry ∈ s.listeners, entry.2 = []) :
    s.Calm again i b := by
  intro e t hbus hlisteners
  have hsilent : ∀ entry ∈ t.listeners, entry.2 = [] := by
    rw [hlisteners]
    exact hpassive
  obtain ⟨heard, htold⟩ := Provider.exec_tell_of_passive again i hsilent e
  dsimp only
  rw [htold]
  exact ⟨rfl, rfl, rfl⟩

end

/-- What a switch to a theme comes to. -/
inductive Provider.Switched (again : Step → Act Outcome) (theme : Theme) (i b : Nat)
    (s t : Session) : Except Failure Unit → Prop where
  | failed (e : Failure) (halike : s.Alike t)
      (hunheard : (∀ r ∈ (s.provider i).registrations, r.generator.body.steps = []) →
        t.heard = s.heard) :
      Switched again theme i b s t (.error e)
  | kept (hsame : (s.provider i).theme.quickSame? theme = some true)
      (hprovider : t.provider i = s.provider i) (hpage : t.backend b = s.backend b) :
      Switched again theme i b s t (.ok ())
  | replaced {css : Text} {count : Nat} {texts : List Text} {u : Session}
      (hdiffers : (s.provider i).theme.quickSame? theme = some false)
      (hbefore : s.backend b = .memory css count)
      (hreplays : Provider.Replays again theme
        (s.modifyProvider i fun p => { p with busy := true }) (s.provider i).registrations texts u)
      (hprovider : t.provider i = { s.provider i with theme := theme })
      (hpage : t.backend b = .memory (Text.join texts) (count + 1)) :
      Switched again theme i b s t (.ok ())

section
variable {again : Step → Act Outcome} {i b count : Nat} {theme : Theme} {s t : Session} {css : Text}
  (hcalm : s.Calm again i b)
include hcalm

theorem switched_of_same (hsame : (s.provider i).theme.quickSame? theme = some true) :
    let done := exec (Provider.tellUnchanged again i theme) s
    Provider.Switched again theme i b s done.2 done.1 := by
  obtain ⟨htold, hprovider, hpage⟩ := hcalm (.themeUnchanged theme)
    (s.addLogs [⟨.debug, Provider.logger, "Theme unchanged; stylesheet kept"⟩]) rfl rfl
  rw [Provider.tellUnchanged, Provider.log, exec_modify_bind]
  dsimp only
  rw [htold]
  exact .kept hsame hprovider hpage

/-- From the moment that all is rendered a switch cannot fail. -/
theorem exec_commit_of_calm (hplaced : OnPage i b s) (hmemory : s.backend b = .memory css count)
    (theme : Theme) (text : Text) :
    let done := exec (Provider.commit again i theme text) s
    done.1 = .ok () ∧ done.2.provider i = { s.provider i with theme := theme } ∧
      done.2.backend b = .memory text (count + 1) := by
  have hreplaced : exec (Provider.replaceAll b text) s =
      (.ok ⟨⟩, s.modifyBackend b fun _ => .memory text (count + 1)) := by
    simp only [Provider.replaceAll, exec_get_bind, hmemory, exec_modify]
  rw [Provider.commit, exec_get_bind, hplaced.backend, exec_bind_of_ok hreplaced]
  simp only [exec_modify_bind, Provider.tellReplaced, exec_get_bind, Provider.log]
  obtain ⟨-, hprovider, hpage⟩ := hplaced.change (f := fun p => { p with theme := theme })
    hplaced.backend fun _ => .memory text (count + 1)
  obtain ⟨htold, hkeptProvider, hkeptPage⟩ := hcalm _ (Session.addLogs (Session.modifyProvider
    (s.modifyBackend b fun _ => .memory text (count + 1)) i fun p => { p with theme := theme }) _)
    rfl rfl
  exact ⟨htold, hkeptProvider.trans hprovider, hkeptPage.trans hpage⟩

end

/-- A switch of the theme fails and changes nothing, or it finds that nothing changes, or it
replaces the page by what all generators write now, each in its own slots, and the theme with
it. -/
theorem updateTheme_switched (depth : Nat) {id : String} {i b count : Nat} (theme : Theme)
    {s : Session} {css : Text} (hplaced : OnPage i b s) (hmemory : s.backend b = .memory css count)
    (hbound : ∀ r ∈ (s.provider i).registrations, r.generator.Bound id i s)
    (hcalm : s.Calm (Step.perform depth) i b) :
    let done := exec (Provider.updateTheme (Step.perform depth) i theme) s
    Provider.Switched (Step.perform depth) theme i b s done.2 done.1 := by
  dsimp only
  rcases Provider.updateTheme_cases (Step.perform depth) i theme s with
    ⟨e, hrefused⟩ | ⟨-, hsame, hunchanged⟩ | ⟨-, hdiffers, hrendered⟩
  · rw [hrefused]
    exact .failed e (.refl s) fun _ => rfl
  · rw [hunchanged]
    exact switched_of_same hcalm hsame
  · have halike := alike_renderWith depth theme hplaced.here hbound
    have hunheard := heard_renderWith theme (Step.perform depth) hplaced.here
    rw [hrendered]
    cases hran : exec (Provider.renderWith (Step.perform depth) i theme) s with
    | mk result t =>
      rw [hran] at halike hunheard
      cases result with
      | error e =>
        rw [exec_bind_of_error hran]
        exact .failed e halike hunheard
      | ok text =>
        rw [exec_bind_of_ok hran]
        obtain ⟨hdone, hprovider, hpage⟩ := exec_commit_of_calm (halike.calm hcalm)
          (halike.onPage hplaced) ((halike.backend b).trans hmemory) theme text
        obtain ⟨texts, u, rfl, hreplays⟩ := Provider.replays_of_renderWith hplaced.here hran
        rw [hdone]
        rw [halike.provider] at hprovider
        exact .replaced hdiffers hmemory hreplays hprovider hpage

/-- A generator that takes more slots at every call, fails at its fourth, and tries to render its
provider whenever it runs. -/
def restless : Generator where
  number := 1
  identity := .key .nothing
  name := "restless"
  body := .script [.write ".a \x7b\x7d", .onCall 4 (.react (.raise "ValueError" "no")),
    .attempt (.react (.perform (.render "p"))), .advanceByCalls]

/-- A provider with the restless generator, which owns the slots of its third call and was called
that often, and a listener that hears everything. -/
def workshop (calls : Nat) : Session where
  backends := [.memory "old" 4]
  providers := [{
    backend := 0, theme := .color (.text "red"), onBus := true, counter := 3
    registrations := [⟨restless, 0, 3⟩], index := [(.key .nothing, 0)] }]
  providerIds := [("p", 0)]
  calls := [(1, calls)]
  bus := ⟨[⟨.all, "ear"⟩]⟩
  listeners := [("ear", [])]

theorem updateTheme_switched_workshop :
    let switch := Provider.updateTheme (Step.perform 100) 0 (.color (.text "blue"))
    let switched (s : Session) := Provider.Switched (Step.perform 100) (.color (.text "blue")) 0 0 s
      (exec switch s).2 (exec switch s).1
    ((exec switch (workshop 2)).1.isOk = true ∧ switched (workshop 2)) ∧
      (exec switch (workshop 3)).1.isOk = false ∧ switched (workshop 3) := by
  have hbound (n : Nat) : ∀ r ∈ ((workshop n).provider 0).registrations,
      r.generator.Bound "p" 0 (workshop n) := by
    intro r hmember step hasking
    obtain rfl : r = ⟨restless, 0, 3⟩ := by simpa [workshop, Session.provider] using hmember
    obtain rfl : step = .render "p" := by
      simpa [restless, Generator.Body.steps, Action.steps] using hasking
    exact ⟨⟨rfl, by simp [workshop]⟩, rfl⟩
  have hcalm (n : Nat) : (workshop n).Calm (Step.perform 100) 0 0 :=
    Session.calm_of_passive (by simp [workshop])
  have hplaced (n : Nat) : OnPage 0 0 (workshop n) := ⟨Nat.one_pos, Nat.one_pos, rfl⟩
  exact ⟨⟨by decide +kernel, updateTheme_switched 100 _ (hplaced 2) rfl (hbound 2) (hcalm 2)⟩,
    by decide +kernel, updateTheme_switched 100 _ (hplaced 3) rfl (hbound 3) (hcalm 3)⟩

end ScopedCss

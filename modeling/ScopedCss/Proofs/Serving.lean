import ScopedCss.Proofs.Operations
import ScopedCss.Proofs.Scripts

/-!
A provider in a session, with listeners that may fail or use the provider in turn. Whatever is asked
of the provider, and whether it fails or not, the provider stays consistent with its page: the step
lemmas here are for one request, at any depth of nesting.
-/
namespace ScopedCss

/-! ### Consistency -/

namespace Provider

/-- An idle provider holds these classes, and its page is the texts that they write in their
windows. -/
structure Consistent (classes : Nat → StyleClass) (ns : List Nat) (texts : List Text)
    (p : Provider) (page : Backend) : Prop where
  idle : p.busy = false
  theme : p.theme.orEmpty = p.theme
  mounted : p.Mounted classes ns
  writes : List.Forall₂ (Registration.Writes p.theme) p.registrations texts
  page : ∃ count, page = .memory (Text.join texts) count

variable {classes : Nat → StyleClass} {ns : List Nat} {texts : List Text} {p : Provider}
  {page : Backend}

theorem Consistent.isWindow (h : Consistent classes ns texts p page)
    (hplain : ∀ n, (classes n).isPlain = true) : ∀ r ∈ p.registrations, r.IsWindow := by
  rw [h.mounted.registrations]
  exact fun r hmember => isWindow_of_mem_windows classes hplain hmember

/-- One more class opens a window, and its text ends the page. -/
theorem Consistent.register (h : Consistent classes ns texts p page) {n count : Nat} {text : Text}
    {stop : Int} (habsent : n ∉ ns) (hplain : (classes n).isPlain = true)
    (hmemory : page = .memory (Text.join texts) count)
    (hwrote : (classes n).generate p.theme p.counter = .ok (text, stop)) :
    Consistent classes (ns ++ [n]) (texts ++ [text])
      ({ p with counter := stop, busy := false }.register (generatorOf classes n) p.counter stop)
      (Backend.write count text page) where
  idle := rfl
  theme := h.theme
  mounted := by
    have hregistered := h.mounted.register habsent
      (StyleClass.generate_stop (StyleClass.isPlain_iff.1 hplain).2 hwrote)
    exact ⟨hregistered.distinct, hregistered.registrations, hregistered.counter, hregistered.index⟩
  writes := List.rel_append h.writes (.cons ⟨classes n, rfl, hwrote⟩ .nil)
  page := by
    refine ⟨count, ?_⟩
    rw [hmemory, Text.join_concat]
    simp [Backend.write]

/-- All windows stay when the page is rendered against another theme. -/
theorem Consistent.switch (h : Consistent classes ns texts p page) {theme : Theme} {us : List Text}
    (hnonempty : theme.orEmpty = theme)
    (hwrites : List.Forall₂ (Registration.Writes theme) p.registrations us) (count : Nat) :
    Consistent classes ns us { p with theme := theme } (.memory (Text.join us) count) where
  idle := h.idle
  theme := hnonempty
  mounted := ⟨h.mounted.distinct, h.mounted.registrations, h.mounted.counter, h.mounted.index⟩
  writes := hwrites
  page := ⟨count, rfl⟩

end Provider

/-- The steps that use the provider with a name: mounting classes, switching themes, rendering. -/
def Step.uses (id : String) : Step → Bool
  | .mount p _ | .useStyle p _ | .same p _ | .updateTheme p _ | .render p => p == id
  | _ => false

/-- A listener fails or uses the provider. -/
def Reaction.uses (id : String) : Reaction → Bool
  | .raise _ _ => true
  | .perform step => step.uses id

/-- Every class that the session knows is the one of its number, values do nothing but give values
or fail, and listeners do nothing but fail and use the provider. -/
structure Session.Orderly (classes : Nat → StyleClass) (id : String) (s : Session) : Prop where
  plain : ∀ n, (classes n).isPlain = true
  known : ∀ entry ∈ s.classes, entry.2 = .base ∨ ∃ n, entry.2 = .compiled n (classes n)
  tame : ∀ entry ∈ s.listeners, ∀ reaction ∈ entry.2, reaction.uses id = true

/-- The provider with a number keeps its stylesheet in the page with another. -/
structure OnPage (i b : Nat) (s : Session) : Prop where
  here : i < s.providers.length
  stored : b < s.backends.length
  backend : (s.provider i).backend = b

theorem OnPage.change {i b : Nat} {s : Session} (h : OnPage i b s) {f : Provider → Provider}
    (hsame : (f (s.provider i)).backend = b) (g : Backend → Backend) :
    OnPage i b ((s.modifyBackend b g).modifyProvider i f) ∧
      ((s.modifyBackend b g).modifyProvider i f).provider i = f (s.provider i) ∧
      ((s.modifyBackend b g).modifyProvider i f).backend b = g (s.backend b) := by
  have hprovider : ((s.modifyBackend b g).modifyProvider i f).provider i = f (s.provider i) :=
    Session.provider_modifyProvider_self (s := s.modifyBackend b g) f h.here
  have hpage : ((s.modifyBackend b g).modifyProvider i f).backend b = g (s.backend b) :=
    Session.backend_modifyBackend_self g h.stored
  refine ⟨⟨?_, ?_, ?_⟩, hprovider, hpage⟩
  · exact lt_of_lt_of_eq h.here (Session.length_modifyProvider (s.modifyBackend b g) i f).symm
  · exact lt_of_lt_of_eq h.stored (Session.length_modifyBackend s b g).symm
  · rw [hprovider]
    exact hsame

/-- The provider is consistent with its page, and what was registered before is registered
still. -/
structure Serving (classes : Nat → StyleClass) (id : String) (i b : Nat)
    (before : List Registration) (s : Session) : Prop extends OnPage i b s where
  orderly : s.Orderly classes id
  named : s.providerIds.lookup id = some i
  grown : before <+: (s.provider i).registrations
  consistent : ∃ ns texts, (s.provider i).Consistent classes ns texts (s.backend b)

variable {classes : Nat → StyleClass} {id : String} {i b : Nat} {before : List Registration}
  {s : Session}

namespace Serving

theorem withCalls (h : Serving classes id i b before s) (calls : List (Nat × Nat)) :
    Serving classes id i b before { s with calls := calls } :=
  ⟨⟨h.here, h.stored, h.backend⟩, ⟨h.orderly.plain, h.orderly.known, h.orderly.tame⟩, h.named,
    h.grown, h.consistent⟩

theorem addLogs (h : Serving classes id i b before s) (lines : List LogLine) :
    Serving classes id i b before (s.addLogs lines) :=
  ⟨⟨h.here, h.stored, h.backend⟩, ⟨h.orderly.plain, h.orderly.known, h.orderly.tame⟩, h.named,
    h.grown, h.consistent⟩

theorem hear (h : Serving classes id i b before s) (listener : String) (e : Event) :
    Serving classes id i b before (s.hear listener e) :=
  ⟨⟨h.here, h.stored, h.backend⟩, ⟨h.orderly.plain, h.orderly.known, h.orderly.tame⟩, h.named,
    h.grown, h.consistent⟩

/-- Less is remembered of what was registered. -/
theorem forget (h : Serving classes id i b before s) {earlier : List Registration}
    (hle : earlier <+: before) : Serving classes id i b earlier s :=
  ⟨h.toOnPage, h.orderly, h.named, hle.trans h.grown, h.consistent⟩

/-- The provider and its page may change together. -/
theorem change (h : Serving classes id i b before s) {f : Provider → Provider}
    {g : Backend → Backend} {after : List Registration} {ns : List Nat} {texts : List Text}
    (hsame : (f (s.provider i)).backend = b) (hgrown : after <+: (f (s.provider i)).registrations)
    (hconsistent : (f (s.provider i)).Consistent classes ns texts (g (s.backend b))) :
    Serving classes id i b after ((s.modifyBackend b g).modifyProvider i f) := by
  obtain ⟨hplaced, hprovider, hpage⟩ := h.toOnPage.change hsame g
  refine ⟨hplaced, ⟨h.orderly.plain, h.orderly.known, h.orderly.tame⟩, h.named, ?_, ns, texts, ?_⟩
  · rw [hprovider]
    exact hgrown
  · rw [hprovider, hpage]
    exact hconsistent

end Serving

/-! ### Listeners -/

section
variable {again : Step → Act Outcome}
  (hnested : ∀ before, ∀ step : Step, step.uses id = true →
    Keeps (Serving classes id i b before) (again step))
include hnested

theorem keeps_tell (e : Event) :
    Keeps (Serving classes id i b before) (Provider.tell again i e) :=
  keeps_tell_of (fun l _ h => h.hear l e) (fun _ h entry hmember step hasks =>
    hnested before step (h.orderly.tame entry hmember (.perform step) hasks)) i

omit hnested in
theorem keeps_log (message : String) :
    Keeps (Serving classes id i b before) (Provider.log message) :=
  keeps_modify fun _ h => h.addLogs _

/-! ### Mounting -/

/-- A class that is not mounted and writes is registered, whatever the listeners do then. -/
theorem serving_mount_of_ok (h : Serving classes id i b before s) {ns : List Nat}
    {texts : List Text} {n : Nat} {text : Text} {stop : Int}
    (hconsistent : (s.provider i).Consistent classes ns texts (s.backend b)) (habsent : n ∉ ns)
    (hwrote : (classes n).generate (s.provider i).theme (s.provider i).counter =
      .ok (text, stop)) :
    Serving classes id i b
      ((s.provider i).registrations ++
        [⟨generatorOf classes n, (s.provider i).counter, stop⟩])
      (exec (Provider.mount again i (generatorOf classes n)) s).2 := by
  obtain ⟨count, hpage⟩ := hconsistent.page
  rw [Provider.exec_mount_of_ok again h.here hconsistent.idle h.backend hpage
    (hconsistent.mounted.registered?_of_notMem habsent) rfl hwrote]
  have htail : Keeps (Serving classes id i b ((s.provider i).registrations ++
      [⟨generatorOf classes n, (s.provider i).counter, stop⟩]))
      (Provider.tellMounted again i (generatorOf classes n) (s.provider i).counter stop) :=
    Keeps.bind (keeps_log _) fun _ => Keeps.bind (keeps_tell hnested _) fun _ => keeps_pure _
  exact htail _ ((h.withCalls _).change h.backend List.prefix_rfl
    (hconsistent.register habsent (h.orderly.plain n) hpage hwrote))

theorem keeps_mount_compiled (n : Nat) :
    Keeps (Serving classes id i b before) (Provider.mount again i (generatorOf classes n)) := by
  intro s h
  obtain ⟨ns, texts, hconsistent⟩ := h.consistent
  obtain ⟨count, hpage⟩ := hconsistent.page
  by_cases hmember : n ∈ ns
  · obtain ⟨r, hknown, -⟩ := hconsistent.mounted.registered?_of_mem hmember
    simp only [Provider.mount, exec_get_bind, hknown]
    exact (Keeps.bind (keeps_log _) fun _ => Keeps.bind (keeps_tell hnested _) fun _ =>
      keeps_pure _) s h
  · cases hrun : (classes n).generate (s.provider i).theme (s.provider i).counter with
    | ok p =>
      have hmounted := serving_mount_of_ok hnested h hconsistent hmember hrun
      exact hmounted.forget (h.grown.trans (List.prefix_append _ _))
    | error e =>
      rw [Provider.exec_mount_of_failed again h.here hconsistent.idle h.backend hpage
        (hconsistent.mounted.registered?_of_notMem hmember) (exec_call_of_error again rfl
          (StyleClass.isPlain_iff.1 (h.orderly.plain n)).1 hrun _)]
      exact h.withCalls _

omit hnested in
/-- The base of all classes has no stylesheet, so it is never mounted. -/
theorem keeps_mount_base :
    Keeps (Serving classes id i b before) (Provider.mount again i Mountable.base.generator) := by
  intro s h
  obtain ⟨ns, texts, hconsistent⟩ := h.consistent
  obtain ⟨count, hpage⟩ := hconsistent.page
  rw [Provider.exec_mount_of_failed again h.here hconsistent.idle h.backend hpage
    hconsistent.mounted.registered?_base (e := .notImplemented) fun t => rfl]
  exact h.withCalls _

theorem keeps_mountClass {m : Mountable} (hknown : m = .base ∨ ∃ n, m = .compiled n (classes n)) :
    Keeps (Serving classes id i b before) (Provider.mountClass again i m) := by
  rcases hknown with rfl | ⟨n, rfl⟩
  · exact Keeps.bind keeps_mount_base fun _ => keeps_throw _
  · exact Keeps.bind (keeps_mount_compiled hnested n) fun _ => keeps_ofExcept _

/-! ### Rendering and themes -/

omit hnested in
/-- Rendering gives the page back and changes nothing but the counts of calls. -/
theorem Serving.render (again : Step → Act Outcome) (h : Serving classes id i b before s)
    {ns : List Nat} {texts : List Text}
    (hconsistent : (s.provider i).Consistent classes ns texts (s.backend b)) :
    ∃ calls, exec (Provider.render again i) s =
      (.ok (Text.join texts), { s with calls := calls }) := by
  rw [Provider.render, exec_get_bind]
  exact Provider.exec_renderWith_of_writes again h.here hconsistent.idle hconsistent.writes

omit hnested in
theorem keeps_render : Keeps (Serving classes id i b before) (Provider.render again i) := by
  intro s h
  obtain ⟨ns, texts, hconsistent⟩ := h.consistent
  obtain ⟨calls, hrendered⟩ := h.render again hconsistent
  rw [hrendered]
  exact h.withCalls calls

omit hnested in
/-- A theme that can follow another one is never the missing one. -/
theorem Theme.orEmpty_of_accepted {current theme : Theme} {same : Bool}
    (haccepted : theme.isInstanceOf current = true)
    (hcompared : current.quickSame? theme = some same) :
    theme.orEmpty = theme := by
  cases theme with
  | plain v =>
    -- what a bare value belongs to is a class of bare values, and those are not compared
    have hbare : current.type.isBare = true := ThemeClass.isBare_of_derivesFrom haccepted
    cases current with
    | empty => cases hbare
    | mapping d => cases hbare
    | derived c d =>
      obtain ⟨k, hk⟩ := c
      cases k with
      | bare n => cases ThemeClass.isBare_of_derivesFrom hk
      | make name number bases => cases hbare
    | custom c d => cases c.2.symm.trans hbare
    | plain w => cases hcompared
  | _ => rfl

theorem keeps_updateTheme (theme : Theme) :
    Keeps (Serving classes id i b before) (Provider.updateTheme again i theme) := by
  intro s h
  by_cases haccepted : theme.isInstanceOf (s.provider i).theme = true
  swap
  · simp only [Provider.updateTheme, exec_get_bind, haccepted]
    exact h
  cases hcompared : (s.provider i).theme.quickSame? theme with
  | none =>
    simp only [Provider.updateTheme, exec_get_bind, haccepted, hcompared]
    exact h
  | some same =>
    cases same with
    | true =>
      simp only [Provider.updateTheme, exec_get_bind, haccepted, hcompared]
      exact (Keeps.bind (keeps_log _) fun _ => keeps_tell hnested _) s h
    | false =>
      obtain ⟨ns, texts, hconsistent⟩ := h.consistent
      rcases Provider.renderWith_cases again theme h.here hconsistent.idle
        (hconsistent.isWindow h.orderly.plain) with ⟨us, hwrites⟩ | ⟨e, calls, hfailed⟩
      · obtain ⟨count, hpage⟩ := hconsistent.page
        obtain ⟨calls, hswitched⟩ := Provider.exec_updateTheme_of_writes again haccepted
          hcompared h.here hconsistent.idle h.backend hpage hwrites
        rw [hswitched]
        have htail : Keeps (Serving classes id i b before)
            (Provider.tellReplaced again i (Text.join us)) :=
          keeps_get_bind fun _ _ => Keeps.bind (keeps_log _) fun _ => keeps_tell hnested _
        have hnonempty := Theme.orEmpty_of_accepted haccepted hcompared
        exact htail _ ((h.withCalls calls).change h.backend h.grown
          (hconsistent.switch hnonempty hwrites (count + 1)))
      · rw [Provider.exec_updateTheme_of_error again haccepted hcompared hfailed]
        exact h.withCalls calls

/-! ### Steps -/

omit hnested in
theorem keeps_providerNumber_bind {α : Type} {f : Nat → Act α}
    (hf : Keeps (Serving classes id i b before) (f i)) :
    Keeps (Serving classes id i b before) (Step.providerNumber id >>= f) := by
  intro s h
  rw [exec_bind_of_ok (Step.exec_providerNumber h.named)]
  exact hf s h

omit hnested in
/-- A name that stands for a class stands for one of its number. -/
theorem keeps_className_bind {α : Type} {c : String} {f : Mountable → Act α}
    (hf : ∀ m, (m = .base ∨ ∃ n, m = .compiled n (classes n)) →
      Keeps (Serving classes id i b before) (f m)) :
    Keeps (Serving classes id i b before) (Step.className c >>= f) := by
  intro s h
  cases hfound : s.classes.lookup c with
  | none =>
    have hunknown : exec (Step.className c) s = (.error (.unknown c), s) := by
      rw [Step.className, exec_get_bind, Session.named, hfound]
      rfl
    rw [exec_bind_of_error hunknown]
    exact h
  | some m =>
    have hknown : exec (Step.className c) s = (.ok m, s) := by
      rw [Step.className, exec_get_bind, Session.named, hfound]
      rfl
    rw [exec_bind_of_ok hknown]
    exact hf m (h.orderly.known (c, m) (mem_of_lookup_eq_some hfound)) s h

theorem keeps_step {step : Step} (h : step.uses id = true) :
    Keeps (Serving classes id i b before) (step.run again) := by
  cases step with
  | mount p c =>
    obtain rfl : p = id := by simpa [Step.uses] using h
    exact keeps_providerNumber_bind <| keeps_className_bind fun m hknown =>
      Keeps.bind (keeps_mountClass hnested hknown) fun _ => keeps_pure _
  | useStyle p c =>
    obtain rfl : p = id := by simpa [Step.uses] using h
    exact keeps_className_bind fun m hknown => keeps_providerNumber_bind <|
      Keeps.bind (keeps_mountClass hnested hknown) fun _ => keeps_pure _
  | same p c =>
    obtain rfl : p = id := by simpa [Step.uses] using h
    exact keeps_providerNumber_bind <| keeps_className_bind fun m hknown =>
      Keeps.bind (keeps_mountClass hnested hknown) fun _ =>
        Keeps.bind (keeps_mountClass hnested hknown) fun _ => keeps_pure _
  | updateTheme p theme =>
    obtain rfl : p = id := by simpa [Step.uses] using h
    exact keeps_providerNumber_bind <|
      Keeps.bind (keeps_updateTheme hnested theme) fun _ => keeps_pure _
  | render p =>
    obtain rfl : p = id := by simpa [Step.uses] using h
    exact keeps_providerNumber_bind <| Keeps.bind keeps_render fun _ => keeps_pure _
  | _ => cases h

end

/-- Steps that use the provider keep it consistent at any depth of nesting. -/
theorem keeps_perform (depth : Nat) {step : Step} (h : step.uses id = true) :
    Keeps (Serving classes id i b before) (step.perform depth) := by
  induction depth generalizing step before with
  | zero => exact keeps_throw _
  | succ depth ih => exact keeps_step (fun _ _ hinner => ih hinner) h

end ScopedCss

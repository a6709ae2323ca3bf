import ScopedCss.Proofs.Courses
import ScopedCss.Proofs.Layers

/-!
What steps do to a session. Scripts may ask for any steps, at any depth of nesting, and a step may
use any provider. Main statement: as long as no generator moves a counter back, every step leaves
every provider as it was or changes it in the ways in which providers change, and it keeps the
session sound.
-/
namespace ScopedCss

/-! ### Sound sessions -/

/-- A generator that moves no counter back; that of a class was compiled and has a number below that
of the next one. -/
structure Generator.Proper (language : Language) (next : Nat) (g : Generator) : Prop where
  forward : g.body.Forward language
  compiled : ∀ cls, g.body = .compiled cls → ∃ c, cls.definition = ClassDef.ofCompiled c
  below : ∀ n, g.identity = .compiled n → n < next

theorem Generator.Proper.mono {language : Language} {next later : Nat} {g : Generator}
    (h : g.Proper language next) (hle : next ≤ later) : g.Proper language later :=
  ⟨h.forward, h.compiled, fun n hisN => Nat.lt_of_lt_of_le (h.below n hisN) hle⟩

/-- A session with a language in which no generator moves a counter back, numbers tell classes
apart, and names stand for providers whose windows lie one behind the other. -/
structure Session.Sound (language : Language) (s : Session) : Prop where
  spoken : s.language = language
  proper : ∀ g, s.Knows g → g.Proper language s.nextGenerator
  sole : ∀ g h n, s.Knows g → s.Knows h → g.identity = .compiled n → h.identity = .compiled n →
    g = h
  listeners : ∀ entry ∈ s.listeners, ∀ step, .perform step ∈ entry.2 → step.Forward language
  ids : ∀ entry ∈ s.providerIds, entry.2 < s.providers.length
  layered : ∀ p ∈ s.providers, p.Layered

theorem Session.sound_empty (language : Language) :
    ({ language := language } : Session).Sound language where
  spoken := rfl
  proper g hknown := by
    obtain rfl : Mountable.base.generator = g := by simpa [Session.Knows] using hknown
    exact ⟨trivial, by simp [Mountable.generator], by simp [Mountable.generator]⟩
  sole g h n hknown hother hisN _ := by
    obtain rfl : Mountable.base.generator = g := by simpa [Session.Knows] using hknown
    cases hisN
  listeners := by simp
  ids := by simp
  layered := by simp

/-! ### Evolution -/

/-- A sound session that came of another one: what was known is known, and providers have changed
as providers change. -/
structure Session.Evolves (language : Language) (s t : Session) : Prop where
  sound : t.Sound language
  knows : ∀ g, s.Knows g → t.Knows g
  length : s.providers.length ≤ t.providers.length
  changes : ∀ i < s.providers.length, Provider.Changes language (s.provider i) (t.provider i)

namespace Session

variable {language : Language} {s t u : Session}

theorem Sound.evolves (h : s.Sound language) : s.Evolves language s :=
  ⟨h, fun _ hknown => hknown, Nat.le_refl _, fun _ _ => .refl⟩

theorem Evolves.trans (h : s.Evolves language t) (hk : t.Evolves language u) :
    s.Evolves language u where
  sound := hk.sound
  knows g hknown := hk.knows g (h.knows g hknown)
  length := Nat.le_trans h.length hk.length
  changes i hi := (h.changes i hi).trans (hk.changes i (Nat.lt_of_lt_of_le hi h.length))

/-- Everything else in a session may change. -/
theorem Sound.evolves_of_same (h : s.Sound language) (hparts : s.SameParts t) :
    s.Evolves language t := by
  obtain ⟨hgenerators, hclasses, hproviders, hlisteners, hids, hnext, hspoken⟩ := hparts
  have hknown (g : Generator) : t.Knows g ↔ s.Knows g := by
    rw [Knows, Knows, hgenerators, hclasses, hproviders]
  refine ⟨⟨hspoken.trans h.spoken, fun g hg => ?_, fun g k n hg hk => ?_, ?_, ?_, ?_⟩,
    fun g => (hknown g).2, ?_, ?_⟩
  · rw [hnext]
    exact h.proper g ((hknown g).1 hg)
  · exact h.sole g k n ((hknown g).1 hg) ((hknown k).1 hk)
  · rw [hlisteners]
    exact h.listeners
  · rw [hids, hproviders]
    exact h.ids
  · rw [hproviders]
    exact h.layered
  · exact Nat.le_of_eq (by rw [hproviders])
  · intro i _
    rw [provider, provider, hproviders]

section
variable {i : Nat} {f : Provider → Provider}

theorem mem_modifyProvider {p : Provider} (h : p ∈ (s.modifyProvider i f).providers) :
    p ∈ s.providers ∨ p = f (s.provider i) := by
  obtain ⟨j, hfound⟩ := List.mem_iff_getElem?.1 h
  rw [modifyProvider, List.getElem?_modify] at hfound
  obtain ⟨q, hplace, hsame⟩ := Option.map_eq_some_iff.1 hfound
  by_cases hij : i = j
  · subst hij
    right
    have : s.provider i = q := by rw [provider, List.getD_eq_getElem?_getD, hplace]; rfl
    rw [this, ← hsame]
    simp
  · left
    rw [← hsame]
    simpa [hij] using List.mem_of_getElem? hplace

theorem mem_modifyProvider_of_mem {p : Provider} (h : p ∈ s.providers) :
    p ∈ (s.modifyProvider i f).providers ∨
      p = s.provider i ∧ f p ∈ (s.modifyProvider i f).providers := by
  obtain ⟨j, hplace⟩ := List.mem_iff_getElem?.1 h
  by_cases hij : i = j
  · subst hij
    right
    have : s.provider i = p := by rw [provider, List.getD_eq_getElem?_getD, hplace]; rfl
    refine ⟨this.symm, List.mem_iff_getElem?.2 ⟨i, ?_⟩⟩
    rw [modifyProvider, List.getElem?_modify, hplace]
    simp
  · left
    refine List.mem_iff_getElem?.2 ⟨j, ?_⟩
    rw [modifyProvider, List.getElem?_modify, hplace]
    simp [hij]

theorem knows_of_modifyProvider
    (hknown : ∀ r ∈ (f (s.provider i)).registrations, s.Knows r.generator) {g : Generator}
    (h : (s.modifyProvider i f).Knows g) : s.Knows g := by
  rcases h with hnamed | hofClass | ⟨p, hmember, r, hmounted, rfl⟩
  · exact .inl hnamed
  · exact .inr (.inl hofClass)
  · rcases mem_modifyProvider hmember with hmember | rfl
    · exact .inr (.inr ⟨p, hmember, r, hmounted, rfl⟩)
    · exact hknown r hmounted

theorem knows_modifyProvider
    (hgrown : (s.provider i).registrations ⊆ (f (s.provider i)).registrations) {g : Generator}
    (h : s.Knows g) : (s.modifyProvider i f).Knows g := by
  rcases h with hnamed | hofClass | ⟨p, hmember, r, hmounted, rfl⟩
  · exact .inl hnamed
  · exact .inr (.inl hofClass)
  · rcases mem_modifyProvider_of_mem (i := i) (f := f) hmember with hkept | ⟨rfl, hchanged⟩
    · exact .inr (.inr ⟨p, hkept, r, hmounted, rfl⟩)
    · exact .inr (.inr ⟨_, hchanged, r, hgrown hmounted, rfl⟩)

theorem Sound.modifyProvider (h : s.Sound language)
    (hknown : ∀ r ∈ (f (s.provider i)).registrations, s.Knows r.generator)
    (hlayered : (f (s.provider i)).Layered) : (s.modifyProvider i f).Sound language where
  spoken := h.spoken
  proper g hg := h.proper g (knows_of_modifyProvider hknown hg)
  sole g k n hg hk :=
    h.sole g k n (knows_of_modifyProvider hknown hg) (knows_of_modifyProvider hknown hk)
  listeners := h.listeners
  ids entry hmember := by
    rw [length_modifyProvider]
    exact h.ids entry hmember
  layered p hmember := by
    rcases mem_modifyProvider hmember with hmember | rfl
    · exact h.layered p hmember
    · exact hlayered

/-- Changing the mark that a provider is busy keeps a session sound. -/
theorem Sound.setBusy (h : s.Sound language) (hi : i < s.providers.length) (busy : Bool) :
    (s.modifyProvider i fun p => { p with busy := busy }).Sound language := by
  refine h.modifyProvider (fun r hmounted => knows_registered hmounted) ?_
  obtain ⟨hpositive, hordered, hbounded, hfound, hwidth⟩ := h.layered _ (mem_provider hi)
  exact ⟨hpositive, hordered, hbounded, hfound, hwidth⟩

/-- While it is busy a provider does not change. -/
theorem Evolves.provider_of_busy (hi : i < s.providers.length)
    (hmeanwhile : (s.modifyProvider i fun p => { p with busy := true }).Evolves language t) :
    t.provider i = { s.provider i with busy := true } := by
  have hchanges := hmeanwhile.changes i (by simpa using hi)
  rw [provider_modifyProvider_self _ hi] at hchanges
  exact hchanges.eq_of_busy rfl

/-- A change of a provider. -/
theorem Sound.evolves_change (h : s.Sound language) (hi : i < s.providers.length)
    (hknown : ∀ r ∈ (f (s.provider i)).registrations, s.Knows r.generator)
    (hchanges : Provider.Changes language (s.provider i) (f (s.provider i))) :
    s.Evolves language (s.modifyProvider i f) := by
  refine ⟨h.modifyProvider hknown (hchanges.layered (h.layered _ (mem_provider hi))),
    fun g => knows_modifyProvider hchanges.registrations_grow.subset, ?_, fun j hj => ?_⟩
  · simp
  · by_cases hsame : i = j
    · subst hsame
      rw [provider_modifyProvider_self _ hi]
      exact hchanges
    · rw [provider_modifyProvider_of_ne _ hsame]

/-- What happens while a provider is busy, and a change of the provider at the end of it. -/
theorem Sound.evolves_exclusive (h : s.Sound language) (hi : i < s.providers.length)
    (hmeanwhile : (s.modifyProvider i fun p => { p with busy := true }).Evolves language t)
    (hknown : ∀ r ∈ (f { s.provider i with busy := true }).registrations, t.Knows r.generator)
    (hchanges : Provider.Changes language (s.provider i) (f { s.provider i with busy := true })) :
    s.Evolves language (t.modifyProvider i f) := by
  have hlength : s.providers.length ≤ t.providers.length := by
    simpa using hmeanwhile.length
  have hstill := hmeanwhile.provider_of_busy hi
  rw [← hstill] at hknown hchanges
  refine ⟨hmeanwhile.sound.modifyProvider hknown
    (hchanges.layered (h.layered _ (mem_provider hi))), fun g hg => ?_, ?_, fun j hj => ?_⟩
  · have hbefore := hmeanwhile.knows g (knows_modifyProvider (fun _ hmounted => hmounted) hg)
    refine knows_modifyProvider ?_ hbefore
    rw [hstill] at hchanges ⊢
    exact hchanges.registrations_grow.subset
  · simpa using hlength
  · by_cases hsame : i = j
    · subst hsame
      rw [provider_modifyProvider_self _ (Nat.lt_of_lt_of_le hi hlength)]
      exact hchanges
    · have hothers := hmeanwhile.changes j (by simpa using hj)
      rw [provider_modifyProvider_of_ne _ hsame] at hothers ⊢
      exact hothers

end

end Session

/-! ### Making things -/

namespace Session

variable {language : Language} {s t : Session}

theorem Sound.evolves_addProvider (h : s.Sound language) (id : String) (backend : Nat)
    (theme : Theme) (onBus : Bool) :
    s.Evolves language { s with
      providers := s.providers ++ [.fresh backend theme onBus]
      providerIds := (id, s.providers.length) :: s.providerIds } := by
  have hknown (g : Generator) : Knows { s with
      providers := s.providers ++ [.fresh backend theme onBus]
      providerIds := (id, s.providers.length) :: s.providerIds } g ↔ s.Knows g := by
    simp [Knows, Provider.fresh, or_and_right, exists_or]
  refine ⟨⟨h.spoken, fun g hg => h.proper g ((hknown g).1 hg),
    fun g k n hg hk => h.sole g k n ((hknown g).1 hg) ((hknown k).1 hk), h.listeners, ?_, ?_⟩,
    fun g => (hknown g).2, by simp, fun i hi => ?_⟩
  · intro entry hmember
    rw [List.length_append, List.length_singleton]
    rcases List.mem_cons.1 hmember with rfl | hmember
    · exact Nat.lt_succ_self _
    · exact Nat.lt_succ_of_lt (h.ids entry hmember)
  · intro p hmember
    rcases List.mem_append.1 hmember with hmember | hlast
    · exact h.layered p hmember
    · rw [List.mem_singleton.1 hlast]
      exact Provider.layered_fresh backend theme onBus
  · simp only [provider, List.getD_eq_getElem?_getD, List.getElem?_append_left hi]
    exact .refl

/-- A session gets to know one more generator. If it is that of a class, it has the next number. -/
theorem Sound.evolves_learn (h : s.Sound language) (new : Generator)
    (hknown : ∀ g, t.Knows g ↔ s.Knows g ∨ new = g) (hproper : new.Proper language t.nextGenerator)
    (hfresh : ∀ n, new.identity = .compiled n → n = s.nextGenerator)
    (hlater : s.nextGenerator ≤ t.nextGenerator) (hproviders : t.providers = s.providers)
    (hlisteners : t.listeners = s.listeners) (hids : t.providerIds = s.providerIds)
    (hspoken : t.language = s.language) :
    s.Evolves language t := by
  refine ⟨⟨hspoken.trans h.spoken, fun g hg => ?_, fun g k n hg hk hisN halsoN => ?_, ?_, ?_, ?_⟩,
    fun g hg => (hknown g).2 (.inl hg), ?_, ?_⟩
  · rcases (hknown g).1 hg with hold | rfl
    · exact (h.proper g hold).mono hlater
    · exact hproper
  · -- The numbers of the classes that were known are below that of the new one.
    rcases (hknown g).1 hg with holdG | rfl
    · rcases (hknown k).1 hk with holdK | rfl
      · exact h.sole g k n holdG holdK hisN halsoN
      · exact absurd (hfresh n halsoN) (Nat.ne_of_lt ((h.proper g holdG).below n hisN))
    · rcases (hknown k).1 hk with holdK | rfl
      · exact absurd (hfresh n hisN) (Nat.ne_of_lt ((h.proper k holdK).below n halsoN))
      · rfl
  · rw [hlisteners]
    exact h.listeners
  · rw [hids, hproviders]
    exact h.ids
  · rw [hproviders]
    exact h.layered
  · exact Nat.le_of_eq (by rw [hproviders])
  · intro i _
    rw [provider, provider, hproviders]

theorem Sound.evolves_keepClass (h : s.Sound language) (label : String) {cls : StyleClass}
    (hforward : cls.Forward) (hcompiled : ∃ c, cls.definition = ClassDef.ofCompiled c) :
    s.Evolves language { s with
      classes := (label ++ cls.definition.name, .compiled s.nextGenerator cls) :: s.classes
      nextGenerator := s.nextGenerator + 1 } := by
  refine h.evolves_learn (Mountable.compiled s.nextGenerator cls).generator ?_ ?_ ?_
    (Nat.le_succ _) rfl rfl rfl rfl
  · intro g
    simp only [Knows, List.exists_mem_cons_iff, or_comm, or_left_comm]
  · refine ⟨hforward, fun other hbody => ?_, fun n hisN => ?_⟩
    · cases hbody
      exact hcompiled
    · cases hisN
      exact Nat.lt_succ_self _
  · intro n hisN
    cases hisN
    rfl

theorem Sound.evolves_define (h : s.Sound language) (id : String) (key : Key) (name : String)
    {actions : List Action} (hforward : Action.AllForward language actions) :
    s.Evolves language { s with
      generators := (id, ⟨s.nextGenerator, .key key, name, .script actions⟩) :: s.generators
      nextGenerator := s.nextGenerator + 1 } := by
  refine h.evolves_learn ⟨s.nextGenerator, .key key, name, .script actions⟩ ?_
    ⟨hforward, by simp, by simp⟩ (by simp) (Nat.le_succ _) rfl rfl rfl rfl
  intro g
  simp only [Knows, List.exists_mem_cons_iff, or_assoc, or_comm, or_left_comm]

theorem Sound.evolves_subscribe (h : s.Sound language) (bus : Bus) (listener : String)
    (handles : List (String × Subscription)) {reactions : List Reaction}
    (hforward : Reaction.AllForward language reactions) :
    s.Evolves language { s with
      bus := bus
      listeners := s.listeners ++ [(listener, reactions)]
      handles := handles } := by
  refine ⟨⟨h.spoken, h.proper, h.sole, ?_, h.ids, h.layered⟩, fun _ hknown => hknown, Nat.le_refl _,
    fun _ _ => .refl⟩
  intro entry hmember step hasking
  rcases List.mem_append.1 hmember with hmember | hlast
  · exact h.listeners entry hmember step hasking
  · obtain rfl := List.mem_singleton.1 hlast
    simpa [Reaction.Forward] using Reaction.allForward_iff.1 hforward _ hasking

end Session

/-- Sound sessions evolve along all that forward steps do outside of providers. -/
theorem Session.course_evolves (language : Language) :
    Session.Course (fun step => step.Forward language) (Session.Evolves language) where
  trans := .trans
  ready h := h.sound.evolves
  listeners h := h.sound.listeners
  scripts h hknown _ := Generator.Body.forward_of_mem_steps (h.sound.proper _ hknown).forward
  same h := h.sound.evolves_of_same
  addProvider id backend theme onBus h := h.sound.evolves_addProvider id backend theme onBus
  keepClass {_ _ _ label _ _ _} h hforward hmade hk := by
    rw [h.sound.spoken] at hmade
    obtain ⟨c, hread⟩ := StyleClass.exists_of_mem_madeFrom hmade
    exact hk.sound.evolves_keepClass label (hforward _ hmade) ⟨c, hread.definition⟩
  define h hforward := h.sound.evolves_define _ _ _ hforward
  subscribe h hforward := h.sound.evolves_subscribe _ _ _ hforward

section
variable {language : Language} {again : Step → Act Outcome} {s₀ : Session}
  (hnested : ∀ (s₀ : Session) (step : Step), step.Forward language →
    Keeps (s₀.Evolves language) (again step))
include hnested

/-! ### Mounting -/

omit hnested in
/-- An appended generator came to what a call of it comes to. If its text could not be written, that
is a failure of its own, which moves nothing. -/
theorem ends_of_append {g : Generator} {b : Nat} {theme : Theme} {start : Int} {s t : Session}
    {called : Called} (hran : exec (Provider.append again b theme g start) s = (.ok called, t)) :
    g.Ends start called.result called.counter ∨
      called.result = .error (.file .unencodable) ∧ called.counter = start := by
  rw [Provider.append, exec_get_bind] at hran
  split at hran
  · exact .inl ⟨again, theme, _, s, called.collected, t, hran⟩
  · rw [exec_get_bind] at hran
    obtain ⟨⟨files, number⟩, t₁, -, hran⟩ := exec_bind_eq_ok.1 hran
    obtain ⟨_, t₂, -, hran⟩ := exec_bind_eq_ok.1 hran
    obtain ⟨own, t₃, hended, hran⟩ := exec_bind_eq_ok.1 hran
    split at hran
    · cases hran
      exact .inr ⟨rfl, rfl⟩
    · cases hran
      exact .inl ⟨again, theme, _, t₂, _, t₃, hended⟩

section
variable {s t : Session} {i : Nat} {g : Generator} (hsound : s.Sound language)
  (hi : i < s.providers.length) (hidle : (s.provider i).busy = false)
  (hmeanwhile : (s.modifyProvider i fun p => { p with busy := true }).Evolves language t)
omit hnested

include hmeanwhile in
theorem knows_meanwhile {g : Generator} (hknown : s.Knows g) : t.Knows g :=
  hmeanwhile.knows g (Session.knows_modifyProvider (fun _ hmounted => hmounted) hknown)

include hsound hi hidle hmeanwhile

theorem evolves_released :
    s.Evolves language (t.modifyProvider i fun p => { p with busy := false }) := by
  refine hsound.evolves_exclusive hi hmeanwhile (fun r hmember => ?_) ?_
  · exact knows_meanwhile hmeanwhile (Session.knows_registered hmember)
  · show Provider.Changes language _ { s.provider i with busy := false }
    rw [← hidle]

theorem evolves_failed {e : Failure} {stop : Int} (hforward : g.body.Forward language)
    (hended : g.Ends (s.provider i).counter (.error e) stop ∨ stop = (s.provider i).counter) :
    s.Evolves language (t.modifyProvider i fun p => { p with counter := stop, busy := false }) := by
  refine hsound.evolves_exclusive hi hmeanwhile (fun r hmember => ?_) ?_
  · exact knows_meanwhile hmeanwhile (Session.knows_registered hmember)
  · show Provider.Changes language _ { s.provider i with counter := stop, busy := false }
    rw [← hidle]
    rcases hended with hended | rfl
    · exact .single (.failed hidle hforward hended)
    · exact .refl

theorem evolves_done {stop : Int} (hknown : s.Knows g)
    (habsent : (s.provider i).registered? g = none)
    (hended : g.Ends (s.provider i).counter (.ok ()) stop) :
    s.Evolves language (t.modifyProvider i fun p =>
      { p with counter := stop, busy := false }.register g (s.provider i).counter stop) := by
  refine hsound.evolves_exclusive hi hmeanwhile (fun r hmember => ?_) ?_
  · rcases List.mem_append.1 hmember with hmember | hlast
    · exact knows_meanwhile hmeanwhile (Session.knows_registered hmember)
    · rw [List.mem_singleton.1 hlast]
      exact knows_meanwhile hmeanwhile hknown
  · show Provider.Changes language _ (({ s.provider i with counter := stop, busy := false } :
      Provider).register g _ stop)
    rw [← hidle]
    exact .single (.mounted hidle (hsound.proper g hknown).forward habsent hended)

end

theorem evolves_mount {s : Session} {i : Nat} {g : Generator} (hsound : s.Sound language)
    (hi : i < s.providers.length) (hknown : s.Knows g) :
    s.Evolves language (exec (Provider.mount again i g) s).2 := by
  have hforward := (hsound.proper g hknown).forward
  have hmeanwhile := (Session.course_evolves language).keeps_append hnested
    ((Session.course_evolves language).scripts hsound.evolves hknown) (s.provider i).backend
    (s.provider i).theme (s.provider i).counter _ (hsound.setBusy hi true).evolves
  have hmounting := Provider.mounting again hi g
  generalize exec (Provider.mount again i g) s = done at hmounting
  cases hmounting with
  | reused hfound =>
    exact (Session.course_evolves language).keeps_tellReused hnested i g _ s hsound.evolves
  | busy habsent hbusy => exact hsound.evolves
  | refused habsent hidle hran =>
    rw [hran] at hmeanwhile
    exact evolves_released hsound hi hidle hmeanwhile
  | failed habsent hidle hran hresult =>
    have hended := ends_of_append hran
    rw [hran] at hmeanwhile
    rw [hresult] at hended
    exact evolves_failed hsound hi hidle hmeanwhile hforward (hended.imp_right And.right)
  | done habsent hidle hran hresult =>
    have hended := ends_of_append hran
    rw [hran] at hmeanwhile
    rw [hresult] at hended
    have hended := hended.resolve_right fun ⟨hfailed, _⟩ => by cases hfailed
    exact (Session.course_evolves language).keeps_tellMounted hnested i g _ _ _
      (evolves_done hsound hi hidle hmeanwhile hknown habsent hended)

theorem evolves_mountClass {s : Session} {i : Nat} {m : Mountable} (hsound : s.Sound language)
    (hi : i < s.providers.length) (hknown : s.Knows m.generator) :
    s.Evolves language (exec (Provider.mountClass again i m) s).2 := by
  refine holds_bind (evolves_mount hnested hsound hi hknown) fun start => ?_
  cases m with
  | base => exact keeps_throw _
  | compiled n c => exact keeps_ofExcept _

/-! ### Rendering and themes -/

/-- Rendering changes no provider, not even the one that is rendered. -/
theorem evolves_renderWith {s : Session} {i : Nat} (hsound : s.Sound language)
    (hi : i < s.providers.length) (theme : Theme) :
    s.Evolves language (exec (Provider.renderWith again i theme) s).2 ∧
      (exec (Provider.renderWith again i theme) s).2.provider i = s.provider i := by
  cases hidle : (s.provider i).busy with
  | true =>
    rw [Provider.renderWith, Provider.exec_exclusive_of_busy _ hidle]
    exact ⟨hsound.evolves, rfl⟩
  | false =>
    rw [Provider.exec_renderWith_of_idle again theme hi hidle]
    have hmeanwhile := (Session.course_evolves language).keeps_replayAll hnested hsound.evolves i
      theme (s.modifyProvider i fun p => { p with busy := true }) (hsound.setBusy hi true).evolves
    refine ⟨evolves_released hsound hi hidle hmeanwhile, ?_⟩
    have hinside := Nat.lt_of_lt_of_le (by simpa using hi) hmeanwhile.length
    exact Session.provider_release hinside (hmeanwhile.provider_of_busy hi) hidle

theorem evolves_commit {s t : Session} {i : Nat} {theme : Theme} (hevolved : s.Evolves language t)
    (hi : i < s.providers.length) (hstill : t.provider i = s.provider i)
    (hidle : (s.provider i).busy = false)
    (haccepted : theme.isInstanceOf (s.provider i).theme = true)
    (hdiffers : (s.provider i).theme.quickSame? theme = some false) (css : Text) :
    s.Evolves language (exec (Provider.commit again i theme css) t).2 := by
  have hsame {t u : Session} (h : s.Evolves language t ∧ t.provider i = s.provider i)
      (hparts : t.SameParts u) : s.Evolves language u ∧ u.provider i = s.provider i := by
    refine ⟨(Session.course_evolves language).extend h.1 hparts, ?_⟩
    rw [← h.2, Session.provider, Session.provider, hparts.providers]
  have hreplaced := keeps_replaceAll_of_same hsame (t.provider i).backend css t ⟨hevolved, hstill⟩
  rw [Provider.commit, exec_get_bind, exec_bind]
  cases hran : exec (Provider.replaceAll (t.provider i).backend css) t with
  | mk result u =>
    rw [hran] at hreplaced
    obtain ⟨hevolved, hstill⟩ := hreplaced
    cases result with
    | error e => exact hevolved
    | ok _ =>
      have hinside := Nat.lt_of_lt_of_le hi hevolved.length
      have hswitched :
          u.Evolves language (u.modifyProvider i fun p => { p with theme := theme }) := by
        refine hevolved.sound.evolves_change hinside
          (fun r hmember => Session.knows_registered hmember) ?_
        rw [hstill]
        exact .single (.switched hidle haccepted hdiffers)
      dsimp only
      rw [exec_modify_bind]
      exact (Session.course_evolves language).keeps_tellReplaced hnested i css _
        (hevolved.trans hswitched)

theorem evolves_updateTheme {s : Session} {i : Nat} (hsound : s.Sound language)
    (hi : i < s.providers.length) (theme : Theme) :
    s.Evolves language (exec (Provider.updateTheme again i theme) s).2 := by
  rcases Provider.updateTheme_cases again i theme s with
    ⟨e, hrefused⟩ | ⟨-, -, hunchanged⟩ | ⟨haccepted, hdiffers, hrendered⟩
  · rw [hrefused]
    exact hsound.evolves
  · rw [hunchanged]
    exact (Session.course_evolves language).keeps_tellUnchanged hnested i theme s hsound.evolves
  · rw [hrendered, exec_bind]
    obtain ⟨hevolved, hstill⟩ := evolves_renderWith hnested hsound hi theme
    cases hran : exec (Provider.renderWith again i theme) s with
    | mk result t =>
      rw [hran] at hevolved hstill
      cases result with
      | error e => exact hevolved
      | ok css =>
        have hidle : (s.provider i).busy = false := by
          cases hidle : (s.provider i).busy with
          | false => rfl
          | true =>
            rw [Provider.renderWith, Provider.exec_exclusive_of_busy _ hidle] at hran
            cases hran
        exact evolves_commit hnested hevolved hi hstill hidle haccepted hdiffers css

theorem evolves_render {s : Session} {i : Nat} (hsound : s.Sound language)
    (hi : i < s.providers.length) : s.Evolves language (exec (Provider.render again i) s).2 := by
  rw [Provider.render, exec_get_bind]
  exact (evolves_renderWith hnested hsound hi _).1

/-! ### Steps -/

theorem along_evolves : Provider.Along (Session.Evolves language) again where
  mount hready hnamed hknown _ h := h.trans (evolves_mount hnested h.sound
    (Session.Placed.here hready.sound.ids h.length hnamed) (h.knows _ hknown))
  updateTheme theme hready hnamed _ h := h.trans (evolves_updateTheme hnested h.sound
    (Session.Placed.here hready.sound.ids h.length hnamed) theme)
  render hready hnamed _ h := h.trans (evolves_render hnested h.sound
    (Session.Placed.here hready.sound.ids h.length hnamed))

end

/-! ### Runs -/

theorem keeps_evolves_perform (depth : Nat) {s₀ : Session} {step : Step}
    (hforward : step.Forward language) : Keeps (s₀.Evolves language) (step.perform depth) :=
  (Session.course_evolves language).keeps_perform (fun _ => along_evolves) depth hforward

namespace Session

variable {language : Language}

theorem Sound.evolves_quiet {s : Session} (hsound : s.Sound language) :
    s.Evolves language s.quiet :=
  hsound.evolves_of_same ⟨rfl, rfl, rfl, rfl, rfl, rfl, rfl⟩

/-- What a step from outside does to a sound session. -/
theorem Sound.evolves_perform {s : Session} (hsound : s.Sound language) {step : Step}
    (hforward : step.Forward language) : s.Evolves language (s.perform step).2 :=
  (course_evolves language).perform (fun _ => along_evolves) hsound.evolves hforward

/-- What a whole run does to a sound session. -/
theorem Sound.evolves_run {s : Session} (hsound : s.Sound language) {steps : List Step}
    (hforward : ∀ step ∈ steps, step.Forward language) : s.Evolves language (s.run steps) :=
  (course_evolves language).run (fun _ => along_evolves) hsound.evolves hforward

end Session

end ScopedCss

import Mathlib.Data.List.Basic
import ScopedCss.Proofs.FailedMounts
import ScopedCss.Proofs.History
import ScopedCss.Proofs.Reentrancy
import ScopedCss.Proofs.Subscriptions

/-!
What a listener to all events learns of a provider. Every operation is described by the events that
it tells and by what it does to the registrations and to the page; all else follows from that. Main
statement: the log of events mirrors the provider. What was mounted is told in order, the page was
replaced as often as that was told, and an operation tells one event if it is done and none if it
fails.
-/
namespace ScopedCss

/-! ### Steps that leave a provider alone -/

/-- Nothing was done to a provider and its page. -/
structure Session.SameSheet (i b : Nat) (s t : Session) : Prop where
  providers : s.providers.length ≤ t.providers.length
  backends : s.backends.length ≤ t.backends.length
  provider : t.provider i = s.provider i
  page : t.backend b = s.backend b

/-- What becomes of a session while a provider works on its page: what that is, and what was called,
logged and heard, may be something else. -/
structure Session.Elsewhere (i b : Nat) (s t : Session) : Prop where
  providers : t.providers.length = s.providers.length
  backends : t.backends.length = s.backends.length
  provider : ∀ j, j ≠ i → t.provider j = s.provider j
  backend : ∀ c, c ≠ b → t.backend c = s.backend c
  rest : t = { s with
    providers := t.providers, backends := t.backends, calls := t.calls, logs := t.logs,
    heard := t.heard }

/-- Something was done that left a provider, its page and the bus alone, and what is known of the
rest is still true. -/
structure Session.Apart (rest : Session → Prop) (i b : Nat) (s t : Session) : Prop extends
    s.Hears [] t, s.SameSheet i b t where
  rest : rest t

/-- A step that leaves a provider, its page and the bus alone, whether it fails or not. -/
def Step.Detached (again : Step → Act Outcome) (rest : Session → Prop) (i b : Nat) (step : Step) :
    Prop :=
  ∀ s, rest s → s.Apart rest i b (exec (again step) s).2

/-- A generator that asks for nothing of a provider, its page and the bus. -/
def Generator.Detached (again : Step → Act Outcome) (rest : Session → Prop) (i b : Nat)
    (g : Generator) : Prop :=
  ∀ step ∈ g.body.steps, step.Detached again rest i b

/-- What a listener does that returns and asks for nothing of a provider, its page and the bus. -/
def Considerate (again : Step → Act Outcome) (rest : Session → Prop) (i b : Nat)
    (reactions : List Reaction) : Prop :=
  ∀ s, rest s → ∃ t, exec (reactions.forM (Reaction.run again)) s = (.ok (), t) ∧
    s.Apart rest i b t

/-- A session in which nobody heard anything and nothing became of a provider, but its page may have
another text. -/
structure Session.Aside (rest : Session → Prop) (i b : Nat) (s t : Session) : Prop extends
    s.Hears [] t where
  providers : s.providers.length ≤ t.providers.length
  backends : s.backends.length ≤ t.backends.length
  provider : t.provider i = s.provider i
  place : (t.backend b).blank = (s.backend b).blank
  rest : rest t

section
variable {again : Step → Act Outcome} {rest : Session → Prop} {i b : Nat} {s t u : Session}

theorem Session.sameSheet_refl (s : Session) : s.SameSheet i b s :=
  ⟨Nat.le_refl _, Nat.le_refl _, rfl, rfl⟩

theorem Session.SameSheet.trans (h : s.SameSheet i b t) (hk : t.SameSheet i b u) :
    s.SameSheet i b u :=
  ⟨Nat.le_trans h.providers hk.providers, Nat.le_trans h.backends hk.backends,
    hk.provider.trans h.provider, hk.page.trans h.page⟩

theorem Session.hears_refl (s : Session) : s.Hears [] s :=
  ⟨rfl, rfl, rfl, (List.append_nil _).symm⟩

theorem Session.aside_refl (hknown : rest s) : s.Aside rest i b s :=
  ⟨s.hears_refl, Nat.le_refl _, Nat.le_refl _, rfl, rfl, hknown⟩

/-! What a provider does itself is seen nowhere else. -/

theorem Session.elsewhere_countCall (s : Session) (n : Nat) : s.Elsewhere i b (s.countCall n) :=
  ⟨rfl, rfl, fun _ _ => rfl, fun _ _ => rfl, rfl⟩

theorem Session.elsewhere_addLogs (s : Session) (lines : List LogLine) :
    s.Elsewhere i b (s.addLogs lines) :=
  ⟨rfl, rfl, fun _ _ => rfl, fun _ _ => rfl, rfl⟩

theorem Session.elsewhere_hear (s : Session) (l : String) (e : Event) :
    s.Elsewhere i b (s.hear l e) :=
  ⟨rfl, rfl, fun _ _ => rfl, fun _ _ => rfl, rfl⟩

theorem Session.elsewhere_modifyProvider (s : Session) (f : Provider → Provider) :
    s.Elsewhere i b (s.modifyProvider i f) :=
  ⟨s.length_modifyProvider i f, rfl, fun _ hother => s.provider_modifyProvider_of_ne f hother.symm,
    fun _ _ => rfl, rfl⟩

theorem Session.elsewhere_modifyBackend (s : Session) (f : Backend → Backend) :
    s.Elsewhere i b (s.modifyBackend b f) :=
  ⟨rfl, s.length_modifyBackend b f, fun _ _ => rfl,
    fun _ hother => s.backend_modifyBackend_of_ne f hother.symm, rfl⟩

theorem Session.Aside.detached (h : s.Aside rest i b t) {step : Step}
    (hdetached : step.Detached again rest i b) : s.Aside rest i b (exec (again step) t).2 := by
  have hapart := hdetached t h.rest
  exact ⟨h.toHears.trans hapart.toHears, Nat.le_trans h.providers hapart.providers,
    Nat.le_trans h.backends hapart.backends, hapart.provider.trans h.provider,
    by rw [hapart.page, h.place], hapart.rest⟩

theorem Backend.blank_write (edition : Nat) (text : Text) (page : Backend) :
    (page.write edition text).blank = page.blank := by
  cases page <;> rfl

theorem Session.Aside.write (hkept : ∀ s t, s.Elsewhere i b t → rest s → rest t)
    (h : s.Aside rest i b t) (edition : Nat) (text : Text) :
    s.Aside rest i b ((Sink.page b edition).put text t) := by
  refine ⟨⟨h.bus, h.listeners, h.handles, h.heard⟩, h.providers, ?_, h.provider, ?_,
    hkept _ _ (t.elsewhere_modifyBackend _) h.rest⟩
  · exact Nat.le_trans h.backends (Nat.le_of_eq (t.length_modifyBackend b _).symm)
  · rw [← h.place]
    show ((t.modifyBackend b _).backend b).blank = _
    by_cases hstored : b < t.backends.length
    · rw [Session.backend_modifyBackend_self _ hstored, Backend.blank_write]
    · rw [Session.modifyBackend, List.modify_eq_self (Nat.not_lt.1 hstored)]

/-- A detached generator lets nobody hear anything and does nothing but write. -/
theorem keeps_aside_call (hkept : ∀ s t, s.Elsewhere i b t → rest s → rest t) {g : Generator}
    (hdetached : g.Detached again rest i b) {sink : Sink}
    (hown : sink = .collected ∨ ∃ edition, sink = .page b edition) (theme : Theme) (start : Int) :
    Keeps (s.Aside rest i b) (g.call again theme sink start) := by
  refine keeps_call (fun n t h => ?_) (fun text t h => ?_)
    (fun step hasking _ h => h.detached (hdetached step hasking)) theme start
  · exact ⟨⟨h.bus, h.listeners, h.handles, h.heard⟩, h.providers, h.backends, h.provider, h.place,
      hkept _ _ (t.elsewhere_countCall n) h.rest⟩
  · rcases hown with rfl | ⟨edition, rfl⟩
    · exact h
    · exact h.write hkept edition text

/-- The mark that a provider is busy is taken back. -/
theorem Session.Aside.released (hkept : ∀ s t, s.Elsewhere i b t → rest s → rest t)
    (hi : i < s.providers.length) (hidle : (s.provider i).busy = false)
    (h : (s.modifyProvider i fun p => { p with busy := true }).Aside rest i b t) :
    s.Aside rest i b (t.modifyProvider i fun p => { p with busy := false }) := by
  have hlonger : s.providers.length ≤ t.providers.length := by simpa using h.providers
  refine ⟨⟨h.bus, h.listeners, h.handles, h.heard⟩, by simpa using hlonger, h.backends, ?_,
    h.place, hkept _ _ (t.elsewhere_modifyProvider _) h.rest⟩
  rw [Session.provider_modifyProvider_self _ (Nat.lt_of_lt_of_le hi hlonger), h.provider,
    Session.provider_modifyProvider_self _ hi, ← hidle]

end

/-! ### Listeners -/

/-- What a listener has heard, oldest first. -/
def Session.log (s : Session) (ear : String) : List Event :=
  (s.heard.filter (·.1 == ear)).map (·.2)

/-- What is done with a provider on a page of its own can be told: the listeners return and leave
the provider alone, and one of them listens to all events. What is known of the rest of the session
is nothing that the provider's own work could change. -/
structure Session.Attended (again : Step → Act Outcome) (rest : Session → Prop) (ear : String)
    (i b : Nat) (s : Session) : Prop extends OnPage i b s where
  onBus : (s.provider i).onBus = true
  memory : ∃ css count, s.backend b = .memory css count
  hears : s.bus.subscriptions.filter (·.listener == ear) = [⟨.all, ear⟩]
  considerate : ∀ entry ∈ s.listeners, Considerate again rest i b entry.2
  kept : ∀ s t, s.Elsewhere i b t → rest s → rest t
  rest : rest s

section
variable {again : Step → Act Outcome} {rest : Session → Prop} {ear : String} {i b : Nat}
  {s t : Session}

/-- Whatever becomes of the text of the page and of the provider, as long as it is on the bus. -/
theorem Session.Attended.transfer (h : s.Attended again rest ear i b)
    {calls : List (String × Event)} (hhears : s.Hears calls t)
    (hproviders : s.providers.length ≤ t.providers.length)
    (hbackends : s.backends.length ≤ t.backends.length) (hbackend : (t.provider i).backend = b)
    (honBus : (t.provider i).onBus = true) (hmemory : ∃ css count, t.backend b = .memory css count)
    (hknown : rest t) : t.Attended again rest ear i b where
  here := Nat.lt_of_lt_of_le h.here hproviders
  stored := Nat.lt_of_lt_of_le h.stored hbackends
  backend := hbackend
  onBus := honBus
  memory := hmemory
  hears := by rw [hhears.bus, h.hears]
  considerate := by rw [hhears.listeners]; exact h.considerate
  kept := h.kept
  rest := hknown

theorem Session.log_append {calls : List (String × Event)} (hhears : s.Hears calls t)
    (ear : String) :
    t.log ear = s.log ear ++ (calls.filter (·.1 == ear)).map (·.2) := by
  rw [Session.log, hhears.heard, List.filter_append, List.map_append]
  rfl

theorem Session.Attended.listeners_filter (h : s.Attended again rest ear i b) (topic : Topic) :
    (s.bus.listeners topic).filter (· == ear) = if topic = .all then [ear] else [] := by
  have hown : (s.bus.listeners topic).filter (· == ear) =
      ((s.bus.subscriptions.filter (·.listener == ear)).filter (·.topic == topic)).map
        (·.listener) := by
    rw [Bus.listeners, List.filter_map, List.filter_filter, List.filter_filter]
    congr 2
    funext sub
    simp [Bool.and_comm]
  rw [hown, h.hears]
  by_cases hall : topic = .all
  · subst hall
    rfl
  · rw [if_neg hall, List.filter_cons_of_neg (by simpa using fun he => hall he.symm)]
    rfl

/-- An event that is told is one more in the log, and nothing else comes of it. -/
theorem Session.Attended.tell (h : s.Attended again rest ear i b) (e : Event) :
    ∃ t, exec (Provider.tell again i e) s = (.ok (), t) ∧ t.log ear = s.log ear ++ [e] ∧
      s.SameSheet i b t ∧ t.Attended again rest ear i b := by
  have hlistened : ∀ u, (s.SameSheet i b u ∧ u.listeners = s.listeners ∧ rest u) →
      ∀ entry ∈ u.listeners, ∃ v, exec (entry.2.forM (Reaction.run again)) u = (.ok (), v) ∧
        u.Hears [] v ∧ s.SameSheet i b v ∧ v.listeners = s.listeners ∧ rest v := by
    rintro u ⟨hsame, hlisteners, hknown⟩ entry hmember
    rw [hlisteners] at hmember
    obtain ⟨v, hdone, hapart⟩ := h.considerate entry hmember u hknown
    exact ⟨v, hdone, hapart.toHears, hsame.trans hapart.toSameSheet,
      hapart.toHears.listeners.trans hlisteners, hapart.rest⟩
  obtain ⟨t, htold, hhears, hsame, -, hknown⟩ := exec_announce_of
    (P := fun u => s.SameSheet i b u ∧ u.listeners = s.listeners ∧ rest u)
    (fun l e u hnow => ⟨⟨hnow.1.providers, hnow.1.backends, hnow.1.provider, hnow.1.page⟩, hnow.2.1,
      h.kept _ _ (u.elsewhere_hear l e) hnow.2.2⟩)
    hlistened ⟨s.sameSheet_refl, rfl, h.rest⟩ e
  refine ⟨t, ?_, ?_, hsame, ?_⟩
  · rw [Provider.tell, exec_get_bind, if_pos h.onBus]
    exact htold
  · have hone : (((s.bus.listeners .all ++ s.bus.listeners (.type e.typeName)).map
        (·, e)).filter (·.1 == ear)).map (·.2) = [e] := by
      have hpair : (fun call : String × Event => call.1 == ear) ∘ (·, e) = (· == ear) := rfl
      rw [List.filter_map, hpair, List.filter_append, h.listeners_filter, h.listeners_filter]
      rfl
    rw [Session.log_append hhears, hone]
  · refine h.transfer hhears hsame.providers hsame.backends ?_ ?_ ?_ hknown
    · rw [hsame.provider, h.backend]
    · rw [hsame.provider, h.onBus]
    · rw [hsame.page]
      exact h.memory

theorem Session.Attended.addLogs (h : s.Attended again rest ear i b) (lines : List LogLine) :
    (s.addLogs lines).Attended again rest ear i b := by
  have hsilent : s.Hears [] (s.addLogs lines) := ⟨rfl, rfl, rfl, (List.append_nil _).symm⟩
  exact h.transfer hsilent (Nat.le_refl _) (Nat.le_refl _) h.backend h.onBus h.memory
    (h.kept _ _ (s.elsewhere_addLogs lines) h.rest)

theorem Session.Attended.log_tell (h : s.Attended again rest ear i b) (message : String)
    (e : Event) :
    ∃ t, exec (do Provider.log message; Provider.tell again i e) s = (.ok (), t) ∧
      t.log ear = s.log ear ++ [e] ∧ s.SameSheet i b t ∧ t.Attended again rest ear i b := by
  obtain ⟨t, htold, hlog, hsame, hattended⟩ :=
    (h.addLogs [⟨.debug, Provider.logger, message⟩]).tell e
  refine ⟨t, ?_, hlog, ⟨hsame.providers, hsame.backends, hsame.provider, hsame.page⟩, hattended⟩
  rw [Provider.log, exec_modify_bind]
  exact htold

end

/-! ### What operations tell -/

/-- What an operation from a session on may come to, with the events that it tells: what it does to
the registrations and to the page, and what is said of that. -/
inductive Operation.Emits (i b : Nat) (s : Session) :
    Operation → Except Failure Outcome × Session → List Event → Prop where
  | failed {op : Operation} {e : Failure} {t : Session}
      (hregistrations : (t.provider i).registrations = (s.provider i).registrations)
      (hplace : (t.backend b).blank = (s.backend b).blank) : Emits i b s op (.error e, t) []
  | rendered {css : Text} {t : Session}
      (hregistrations : (t.provider i).registrations = (s.provider i).registrations)
      (hplace : (t.backend b).blank = (s.backend b).blank) :
      Emits i b s .render (.ok (.text css), t) []
  | mounted {g : Generator} {new : Int → Except Failure Outcome} {o : Outcome} {stop : Int}
      {t : Session} (hmade : new (s.provider i).counter = .ok o)
      (hregistrations : (t.provider i).registrations =
        (s.provider i).registrations ++ [⟨g, (s.provider i).counter, stop⟩])
      (hplace : (t.backend b).blank = (s.backend b).blank) :
      Emits i b s (.mount g new) (.ok o, t) [.styleMounted g.name (s.provider i).counter stop]
  | reused {g : Generator} {new : Int → Except Failure Outcome} {o : Outcome} {r : Registration}
      {t : Session} (hmember : r ∈ (s.provider i).registrations)
      (hidentity : r.generator.identity = g.identity) (hmade : new r.start = .ok o)
      (hregistrations : (t.provider i).registrations = (s.provider i).registrations)
      (hpage : t.backend b = s.backend b) :
      Emits i b s (.mount g new) (.ok o, t) [.styleReused g.name r.start]
  | unchanged {theme : Theme} {t : Session}
      (hregistrations : (t.provider i).registrations = (s.provider i).registrations)
      (hpage : t.backend b = s.backend b) :
      Emits i b s (.updateTheme theme) (.ok .nothing, t) [.themeUnchanged theme]
  | replaced {theme : Theme} {t : Session} {old css : Text} {count : Nat}
      (hregistrations : (t.provider i).registrations = (s.provider i).registrations)
      (hbefore : s.backend b = .memory old count) (hafter : t.backend b = .memory css (count + 1)) :
      Emits i b s (.updateTheme theme) (.ok .nothing, t)
        [.stylesheetReplaced (t.provider i).registrations.length css.length]

/-- Where a generator is mounted, something can be made of every slot. -/
def Operation.Sure : Operation → Prop
  | .mount _ new => ∀ start, ∃ o, new start = .ok o
  | _ => True

/-- The generators of an operation are detached. -/
def Operation.Detached (again : Step → Act Outcome) (rest : Session → Prop) (i b : Nat) :
    Operation → Prop
  | .mount g _ => g.Detached again rest i b
  | _ => True

/-- A provider that is idle, with detached generators which its index finds. -/
structure Provider.Settled (again : Step → Act Outcome) (rest : Session → Prop) (i b : Nat)
    (p : Provider) : Prop where
  idle : p.busy = false
  indexed : p.Indexed
  detached : ∀ r ∈ p.registrations, r.generator.Detached again rest i b

section
variable {again : Step → Act Outcome} {rest : Session → Prop} {ear : String} {i b : Nat}
  {s t : Session} (hattended : s.Attended again rest ear i b)
  (hsettled : (s.provider i).Settled again rest i b)

/-- What an operation comes to that leaves the log of a listener longer by what it tells. -/
def Operation.Follows (again : Step → Act Outcome) (rest : Session → Prop) (ear : String)
    (i b : Nat) (s : Session) (op : Operation) (done : Except Failure Outcome × Session) : Prop :=
  ∃ told, op.Emits i b s done told ∧ done.2.log ear = s.log ear ++ told ∧
    done.2.Attended again rest ear i b ∧ (done.2.provider i).Settled again rest i b

theorem Backend.memory_of_blank {page other : Backend} {css : Text} {count : Nat}
    (h : page.blank = other.blank) (hmemory : other = .memory css count) :
    ∃ text, page = .memory text count := by
  subst hmemory
  cases page with
  | memory text n =>
    cases h
    exact ⟨text, rfl⟩
  | file name => cases h

theorem Session.Attended.memory_of_blank (hattended : s.Attended again rest ear i b)
    (hplace : (t.backend b).blank = (s.backend b).blank) :
    ∃ css count, t.backend b = .memory css count := by
  obtain ⟨_, count, hmemory⟩ := hattended.memory
  obtain ⟨text, hpage⟩ := Backend.memory_of_blank hplace hmemory
  exact ⟨text, count, hpage⟩

/-- What is done to a provider while it is busy and what is made of it then. -/
theorem Session.Attended.release (hattended : s.Attended again rest ear i b)
    (hmeanwhile : (s.modifyProvider i fun p => { p with busy := true }).Aside rest i b t)
    {f : Provider → Provider} {p : Provider} (hafter : f { s.provider i with busy := true } = p)
    (hbackend : p.backend = (s.provider i).backend) (honBus : p.onBus = (s.provider i).onBus) :
    let u := t.modifyProvider i f
    u.Attended again rest ear i b ∧ u.log ear = s.log ear ∧ u.provider i = p ∧
      (u.backend b).blank = (s.backend b).blank := by
  intro u
  have hlonger : s.providers.length ≤ t.providers.length := by simpa using hmeanwhile.providers
  have hprovider : u.provider i = p := by
    rw [Session.provider_modifyProvider_self _ (Nat.lt_of_lt_of_le hattended.here hlonger),
      hmeanwhile.provider, Session.provider_modifyProvider_self _ hattended.here, hafter]
  have hhears : s.Hears [] u :=
    ⟨hmeanwhile.bus, hmeanwhile.listeners, hmeanwhile.handles, hmeanwhile.heard⟩
  refine ⟨hattended.transfer hhears (by simpa [u] using hlonger) hmeanwhile.backends ?_ ?_ ?_ ?_,
    ?_, hprovider, hmeanwhile.place⟩
  · rw [hprovider, hbackend, hattended.backend]
  · rw [hprovider, honBus, hattended.onBus]
  · exact hattended.memory_of_blank hmeanwhile.place
  · exact hattended.kept _ _ (t.elsewhere_modifyProvider f) hmeanwhile.rest
  · rw [Session.log_append hhears]
    exact List.append_nil _

theorem Provider.Settled.change {p q : Provider} (h : p.Settled again rest i b)
    (hidle : q.busy = false) (hregistrations : q.registrations = p.registrations)
    (hindex : q.index = p.index) : q.Settled again rest i b where
  idle := hidle
  indexed := by rw [Indexed, hregistrations, hindex]; exact h.indexed
  detached := by rw [hregistrations]; exact h.detached

theorem Provider.Settled.register {p : Provider} (h : p.Settled again rest i b) {g : Generator}
    (hdetached : g.Detached again rest i b) (start stop : Int) :
    (p.register g start stop).Settled again rest i b where
  idle := h.idle
  indexed := h.indexed.register g start stop
  detached r hmember := by
    rcases List.mem_append.1 hmember with hmember | hlast
    · exact h.detached r hmember
    · rw [List.mem_singleton.1 hlast]
      exact hdetached

include hattended hsettled

/-- An operation that is refused at once. -/
theorem follows_of_refused (op : Operation) (e : Failure) :
    op.Follows again rest ear i b s (.error e, s) :=
  ⟨[], .failed rfl rfl, (List.append_nil _).symm, hattended, hsettled⟩

/-- An operation that fails while the provider is busy. -/
theorem follows_of_failed
    (hmeanwhile : (s.modifyProvider i fun p => { p with busy := true }).Aside rest i b t)
    (counter : Provider → Int) (op : Operation) (e : Failure) :
    op.Follows again rest ear i b s
      (.error e, t.modifyProvider i fun p => { p with counter := counter p, busy := false }) := by
  obtain ⟨hnow, hlog, hprovider, hplace⟩ := hattended.release hmeanwhile
    (f := fun p => { p with counter := counter p, busy := false }) rfl rfl rfl
  refine ⟨[], .failed (by rw [hprovider]) hplace, ?_, hnow, ?_⟩
  · rw [hlog, List.append_nil]
  · rw [hprovider]
    exact hsettled.change rfl rfl rfl

/-! ### Mounting -/

theorem follows_reused {g : Generator} {new : Int → Except Failure Outcome} {r : Registration}
    (hknown : (s.provider i).registered? g = some r) (hsure : ∃ o, new r.start = .ok o) :
    (Operation.mount g new).Follows again rest ear i b s
      (exec (Provider.mountWith again i g new) s) := by
  obtain ⟨o, hmade⟩ := hsure
  obtain ⟨hmember, hidentity⟩ := hsettled.indexed.registered? hknown
  obtain ⟨t, htold, hlog, hsame, hnow⟩ := hattended.log_tell
    ("Style " ++ g.name ++ " already mounted at " ++ toString r.start)
    (.styleReused g.name r.start)
  have hreused : exec (Provider.tellReused again i g r.start) s = (.ok r.start, t) := by
    rw [Provider.tellReused, ← bind_assoc, exec_bind_of_ok htold]
    rfl
  have hdone := Provider.exec_mountWith_of_registered again hknown new
  rw [hreused] at hdone
  rw [hdone]
  refine ⟨_, ?_, hlog, hnow, ?_⟩
  · show Operation.Emits i b s _ (new r.start, t) _
    rw [hmade]
    exact .reused hmember hidentity hmade (by rw [hsame.provider]) hsame.page
  · rw [hsame.provider]
    exact hsettled

omit hsettled in
/-- The rest stays as it was while a provider is marked as busy. -/
theorem rest_markBusy : rest (s.modifyProvider i fun p => { p with busy := true }) :=
  hattended.kept _ _ (s.elsewhere_modifyProvider _) hattended.rest

omit hsettled in
theorem aside_append {g : Generator} {theme : Theme} {start : Int} {answer : Except Failure Called}
    (hdetached : g.Detached again rest i b)
    (hran : exec (Provider.append again (s.provider i).backend theme g start)
      (s.modifyProvider i fun p => { p with busy := true }) = (answer, t)) :
    (s.modifyProvider i fun p => { p with busy := true }).Aside rest i b t := by
  obtain ⟨css, count, hmemory⟩ := hattended.memory
  rw [hattended.backend, Provider.exec_append_memory again
    (s := s.modifyProvider i fun p => { p with busy := true }) hmemory] at hran
  have hcalled := keeps_aside_call hattended.kept hdetached (.inr ⟨count, rfl⟩) theme start _
    (Session.aside_refl (rest_markBusy hattended))
  rw [hran] at hcalled
  exact hcalled

theorem follows_mounted {g : Generator} {new : Int → Except Failure Outcome} {called : Called}
    (hdetached : g.Detached again rest i b) (hsure : ∀ start, ∃ o, new start = .ok o)
    (habsent : (s.provider i).registered? g = none)
    (hran : exec (Provider.append again (s.provider i).backend (s.provider i).theme g
      (s.provider i).counter) (s.modifyProvider i fun p => { p with busy := true }) =
        (.ok called, t))
    (hresult : called.result = .ok ()) :
    (Operation.mount g new).Follows again rest ear i b s
      (exec (Provider.mountWith again i g new) s) := by
  obtain ⟨o, hmade⟩ := hsure (s.provider i).counter
  obtain ⟨hattendedThen, hsilent, hprovider, hplace⟩ := hattended.release
    (aside_append hattended hdetached hran)
    (f := fun p => { p with counter := called.counter, busy := false }.register g
      (s.provider i).counter called.counter) rfl rfl rfl
  obtain ⟨v, htold, hlog, hsame, hnow⟩ := hattendedThen.log_tell
    ("Mounted style " ++ g.name ++ " with slots [" ++ toString (s.provider i).counter ++ ", " ++
      toString called.counter ++ ")")
    (.styleMounted g.name (s.provider i).counter called.counter)
  have hmounted : exec (Provider.mount again i g) s = (.ok (s.provider i).counter, v) := by
    rw [Provider.exec_mount_of_done again habsent hattended.here hsettled.idle hran hresult,
      Provider.tellMounted, ← bind_assoc, exec_bind_of_ok htold]
    rfl
  rw [Provider.mountWith, exec_bind_of_ok hmounted, exec_ofExcept, hmade]
  refine ⟨[.styleMounted g.name (s.provider i).counter called.counter], .mounted hmade ?_ ?_, ?_,
    hnow, ?_⟩
  · rw [hsame.provider, hprovider]
    rfl
  · rw [hsame.page, hplace]
  · rw [hlog, hsilent]
  · rw [hsame.provider, hprovider]
    exact (hsettled.change (q := { s.provider i with counter := called.counter, busy := false }) rfl
      rfl rfl).register hdetached _ _

theorem follows_mount {g : Generator} {new : Int → Except Failure Outcome}
    (hdetached : g.Detached again rest i b) (hsure : ∀ start, ∃ o, new start = .ok o) :
    (Operation.mount g new).Follows again rest ear i b s
      (exec (Provider.mountWith again i g new) s) := by
  have hmounting := Provider.mounting again hattended.here g
  generalize hended : exec (Provider.mount again i g) s = done at hmounting
  cases hmounting with
  | reused hknown => exact follows_reused hattended hsettled hknown (hsure _)
  | busy habsent hbusy =>
    rw [hsettled.idle] at hbusy
    cases hbusy
  | refused habsent hidle hran =>
    rw [Provider.mountWith, exec_bind_of_error hended]
    exact follows_of_failed hattended hsettled (aside_append hattended hdetached hran)
      Provider.counter _ _
  | failed habsent hidle hran hresult =>
    rw [Provider.mountWith, exec_bind_of_error hended]
    exact follows_of_failed hattended hsettled (aside_append hattended hdetached hran)
      (fun _ => _) _ _
  | done habsent hidle hran hresult =>
    exact follows_mounted hattended hsettled hdetached hsure habsent hran hresult

/-! ### Rendering and themes -/

theorem aside_renderWith (theme : Theme) :
    s.Aside rest i b (exec (Provider.renderWith again i theme) s).2 := by
  rw [Provider.exec_renderWith_of_idle again theme hattended.here hsettled.idle]
  refine Session.Aside.released hattended.kept hattended.here hsettled.idle ?_
  have hreplaying : Keeps ((s.modifyProvider i fun p => { p with busy := true }).Aside rest i b)
      (Provider.replayAll again theme (s.provider i).registrations) :=
    Provider.keeps_replayAll fun r hmember =>
      keeps_aside_call hattended.kept (hsettled.detached r hmember) (.inl rfl) theme r.start
  exact hreplaying _ (Session.aside_refl (rest_markBusy hattended))

omit hsettled in
theorem Session.Attended.aside (h : s.Aside rest i b t) : t.Attended again rest ear i b := by
  refine hattended.transfer h.toHears h.providers h.backends ?_ ?_
    (hattended.memory_of_blank h.place) h.rest
  · rw [h.provider, hattended.backend]
  · rw [h.provider, hattended.onBus]

theorem follows_of_aside (haside : s.Aside rest i b t) {op : Operation}
    {result : Except Failure Outcome} (hemits : op.Emits i b s (result, t) []) :
    op.Follows again rest ear i b s (result, t) := by
  refine ⟨[], hemits, Session.log_append haside.toHears ear, hattended.aside haside, ?_⟩
  rw [haside.provider]
  exact hsettled

theorem follows_render :
    Operation.render.Follows again rest ear i b s (exec (Operation.render.run again i) s) := by
  have haside := aside_renderWith hattended hsettled (s.provider i).theme
  rw [Operation.run, Provider.render, exec_bind, exec_get_bind]
  cases hran : exec (Provider.renderWith again i (s.provider i).theme) s with
  | mk result t =>
    rw [hran] at haside
    have hkept : (t.provider i).registrations = (s.provider i).registrations := by
      rw [haside.provider]
    cases result with
    | error e => exact follows_of_aside hattended hsettled haside (.failed hkept haside.place)
    | ok css => exact follows_of_aside hattended hsettled haside (.rendered hkept haside.place)

/-- From the moment that all is rendered the switch is done: the page is replaced, the theme is
taken, and only then that is told. -/
theorem follows_commit (haside : s.Aside rest i b t) (theme : Theme) (css : Text) :
    (Operation.updateTheme theme).Follows again rest ear i b s
      (exec (do Provider.commit again i theme css; return .nothing) t) := by
  obtain ⟨old, count, hmemory⟩ := hattended.memory
  have hattendedThen := hattended.aside haside
  obtain ⟨text, hpage⟩ := Backend.memory_of_blank haside.place hmemory
  have hreplaced : exec (Provider.replaceAll b css) t =
      (.ok ⟨⟩, t.modifyBackend b fun _ => .memory css (count + 1)) := by
    simp only [Provider.replaceAll, exec_get_bind, hpage, exec_modify]
  obtain ⟨hplaced, hprovider, hstored⟩ := hattendedThen.toOnPage.change
    (f := fun p => { p with theme := theme }) hattendedThen.backend fun _ => .memory css (count + 1)
  generalize hchanged : (t.modifyBackend b fun _ => .memory css (count + 1)).modifyProvider i
    (fun p => { p with theme := theme }) = u at hplaced hprovider hstored
  rw [haside.provider] at hprovider
  have hhears : t.Hears [] u := by
    subst hchanged
    exact ⟨rfl, rfl, rfl, (List.append_nil _).symm⟩
  have hready : u.Attended again rest ear i b := by
    refine hattendedThen.transfer hhears ?_ ?_ hplaced.backend ?_ ⟨_, _, hstored⟩ ?_
    · simp [← hchanged, Session.modifyBackend]
    · simp [← hchanged, Session.modifyProvider]
    · rw [hprovider]
      exact hattended.onBus
    · rw [← hchanged]
      exact hattended.kept _ _ (Session.elsewhere_modifyProvider _ _)
        (hattended.kept _ _ (t.elsewhere_modifyBackend _) haside.rest)
  obtain ⟨v, htold, hlog, hsame, hnow⟩ := hready.log_tell
    ("Replaced stylesheet: " ++ toString (u.provider i).registrations.length ++ " style(s), " ++
      toString css.length ++ " chars")
    (.stylesheetReplaced (u.provider i).registrations.length css.length)
  have hdone : exec (Provider.commit again i theme css) t = (.ok (), v) := by
    rw [Provider.commit, exec_get_bind, hattendedThen.backend, exec_bind_of_ok hreplaced,
      exec_modify_bind, hchanged, Provider.tellReplaced, exec_get_bind]
    exact htold
  rw [exec_bind_of_ok hdone, exec_pure]
  refine ⟨[.stylesheetReplaced (u.provider i).registrations.length css.length], ?_, ?_, hnow, ?_⟩
  · rw [← hsame.provider]
    refine .replaced ?_ hmemory (hsame.page.trans hstored)
    rw [hsame.provider, hprovider]
  · rw [hlog, Session.log_append hhears, Session.log_append haside.toHears]
    simp
  · rw [hsame.provider, hprovider]
    exact hsettled.change hsettled.idle rfl rfl

theorem follows_updateTheme (theme : Theme) :
    (Operation.updateTheme theme).Follows again rest ear i b s
      (exec ((Operation.updateTheme theme).run again i) s) := by
  rw [Operation.run]
  rcases Provider.updateTheme_cases again i theme s with
    ⟨e, hrefused⟩ | ⟨-, -, hunchanged⟩ | ⟨-, -, hrendered⟩
  · rw [exec_bind_of_error hrefused]
    exact follows_of_refused hattended hsettled _ e
  · obtain ⟨t, htold, hlog, hsame, hnow⟩ := hattended.log_tell "Theme unchanged; stylesheet kept"
      (.themeUnchanged theme)
    rw [exec_bind_of_ok (hunchanged.trans htold), exec_pure]
    refine ⟨_, .unchanged (by rw [hsame.provider]) hsame.page, hlog, hnow, ?_⟩
    rw [hsame.provider]
    exact hsettled
  · have haside := aside_renderWith hattended hsettled theme
    cases hran : exec (Provider.renderWith again i theme) s with
    | mk result t =>
      rw [hran] at haside
      cases result with
      | error e =>
        rw [exec_bind_of_error (hrendered.trans (exec_bind_of_error hran))]
        exact follows_of_aside hattended hsettled haside
          (.failed (by rw [haside.provider]) haside.place)
      | ok css =>
        have hcommit := follows_commit hattended hsettled haside theme css
        rw [exec_bind, hrendered, exec_bind_of_ok hran, ← exec_bind]
        exact hcommit

/-- What every operation comes to. -/
theorem follows_run {op : Operation} (hdetached : op.Detached again rest i b) (hsure : op.Sure) :
    op.Follows again rest ear i b s (exec (op.run again i) s) := by
  cases op with
  | mount g new => exact follows_mount hattended hsettled hdetached hsure
  | updateTheme theme => exact follows_updateTheme hattended hsettled theme
  | render => exact follows_render hattended hsettled

end

/-! ### The log and the provider -/

def Event.isMounted : Event → Bool
  | .styleMounted _ _ _ => true
  | _ => false

def Event.isReplaced : Event → Bool
  | .stylesheetReplaced _ _ => true
  | _ => false

/-- What is told when a registration is made. -/
def Registration.event (r : Registration) : Event := .styleMounted r.generator.name r.start r.stop

/-- How many events are told of an operation that ends so. -/
def Operation.announcements : Operation → Except Failure Outcome → Nat
  | .render, _ => 0
  | _, .ok _ => 1
  | _, .error _ => 0

theorem Operation.Emits.length {i b : Nat} {s : Session} {op : Operation}
    {done : Except Failure Outcome × Session} {told : List Event}
    (hemits : op.Emits i b s done told) : told.length = op.announcements done.1 := by
  cases hemits with
  | @failed op => cases op <;> rfl
  | _ => rfl

/-- Events that mirror a provider and its page. The event of a reused generator names the one that
was asked for; an equal one was mounted before. -/
structure Session.Mirrors (i b : Nat) (asked : List Generator) (events : List Event) (s : Session) :
    Prop where
  mounted : events.filter Event.isMounted = (s.provider i).registrations.map Registration.event
  known : ∀ r ∈ (s.provider i).registrations, r.generator ∈ asked
  reused : ∀ k name start, events[k]? = some (.styleReused name start) →
    ∃ r ∈ (s.provider i).registrations, r.event ∈ events.take k ∧ r.start = start ∧
      ∃ g ∈ asked, g.name = name ∧ g.identity = r.generator.identity
  replaced : ∃ css, s.backend b = .memory css (events.countP Event.isReplaced)

section
variable {again : Step → Act Outcome} {rest : Session → Prop} {ear : String} {i b : Nat}
  {s t : Session} {asked : List Generator} {events told : List Event}

theorem Session.Mirrors.event_mem (h : s.Mirrors i b asked events) {r : Registration}
    (hmember : r ∈ (s.provider i).registrations) : r.event ∈ events := by
  have hamong := List.mem_map_of_mem (f := Registration.event) hmember
  rw [← h.mounted] at hamong
  exact List.mem_of_mem_filter hamong

/-- What has to be true of more events, and of what was done, for the log to mirror it. -/
theorem Session.Mirrors.append (h : s.Mirrors i b asked events) {more : List Generator}
    {new : List Registration}
    (hregistrations : (t.provider i).registrations = (s.provider i).registrations ++ new)
    (hmounted : told.filter Event.isMounted = new.map Registration.event)
    (hknown : ∀ r ∈ new, r.generator ∈ more)
    (hreused : ∀ name start, .styleReused name start ∈ told →
      ∃ r ∈ (s.provider i).registrations, r.start = start ∧
        ∃ g ∈ more, g.name = name ∧ g.identity = r.generator.identity)
    (hreplaced : ∀ css count, s.backend b = .memory css count →
      ∃ text, t.backend b = .memory text (count + told.countP Event.isReplaced)) :
    t.Mirrors i b (asked ++ more) (events ++ told) where
  mounted := by rw [List.filter_append, h.mounted, hmounted, hregistrations, List.map_append]
  known r hmember := by
    rw [hregistrations] at hmember
    rcases List.mem_append.1 hmember with hold | hfresh
    · exact List.mem_append_left _ (h.known r hold)
    · exact List.mem_append_right _ (hknown r hfresh)
  reused k name start this := by
    rw [hregistrations, List.take_append]
    by_cases hearlier : k < events.length
    · rw [List.getElem?_append_left hearlier] at this
      obtain ⟨r, hmember, hbefore, hat, g, hamong, hsaid⟩ := h.reused k name start this
      exact ⟨r, List.mem_append_left _ hmember, List.mem_append_left _ hbefore, hat, g,
        List.mem_append_left _ hamong, hsaid⟩
    · have hpast : events.length ≤ k := Nat.not_lt.1 hearlier
      rw [List.getElem?_append_right hpast] at this
      obtain ⟨r, hmember, hat, g, hamong, hsaid⟩ := hreused name start (List.mem_of_getElem? this)
      refine ⟨r, List.mem_append_left _ hmember, List.mem_append_left _ ?_, hat, g,
        List.mem_append_right _ hamong, hsaid⟩
      rw [List.take_of_length_le hpast]
      exact h.event_mem hmember
  replaced := by
    obtain ⟨css, hpage⟩ := h.replaced
    rw [List.countP_append]
    exact hreplaced css _ hpage

/-- Nothing was mounted. -/
theorem Session.Mirrors.append_other (h : s.Mirrors i b asked events) {more : List Generator}
    (hregistrations : (t.provider i).registrations = (s.provider i).registrations)
    (hother : told.filter Event.isMounted = [])
    (hreused : ∀ name start, .styleReused name start ∈ told →
      ∃ r ∈ (s.provider i).registrations, r.start = start ∧
        ∃ g ∈ more, g.name = name ∧ g.identity = r.generator.identity)
    (hreplaced : ∀ css count, s.backend b = .memory css count →
      ∃ text, t.backend b = .memory text (count + told.countP Event.isReplaced)) :
    t.Mirrors i b (asked ++ more) (events ++ told) := by
  rw [← List.append_nil (s.provider i).registrations] at hregistrations
  exact h.append hregistrations hother (fun _ hnone => nomatch hnone) hreused hreplaced

/-- The step of the mirror: every operation keeps it, by what it tells. -/
theorem Session.Mirrors.emit (h : s.Mirrors i b asked events) {op : Operation}
    {done : Except Failure Outcome × Session} (hemits : op.Emits i b s done told) :
    done.2.Mirrors i b (asked ++ op.generators) (events ++ told) := by
  cases hemits with
  | failed hregistrations hplace | rendered hregistrations hplace =>
    exact h.append_other hregistrations rfl (fun _ _ hnone => nomatch hnone)
      fun _ _ hpage => Backend.memory_of_blank hplace hpage
  | mounted hmade hregistrations hplace =>
    refine h.append hregistrations rfl (fun r hone => ?_) (fun _ _ hone => ?_)
      fun _ _ hpage => Backend.memory_of_blank hplace hpage
    · rw [List.mem_singleton.1 hone]
      exact List.mem_singleton_self _
    · cases List.mem_singleton.1 hone
  | reused hmember hidentity hmade hregistrations hpage =>
    refine h.append_other hregistrations rfl (fun _ _ hone => ?_)
      fun css _ hbefore => ⟨css, hpage.trans hbefore⟩
    cases List.mem_singleton.1 hone
    exact ⟨_, hmember, rfl, _, List.mem_singleton_self _, rfl, hidentity.symm⟩
  | unchanged hregistrations hpage =>
    refine h.append_other hregistrations rfl (fun _ _ hone => ?_)
      fun css _ hbefore => ⟨css, hpage.trans hbefore⟩
    cases List.mem_singleton.1 hone
  | replaced hregistrations hbefore hafter =>
    refine h.append_other hregistrations rfl (fun _ _ hone => ?_) fun css count hpage => ?_
    · cases List.mem_singleton.1 hone
    · cases hbefore.symm.trans hpage
      exact ⟨_, hafter⟩

/-- Where equal generators have one name, a reused generator has the name that it was mounted
under. -/
theorem Session.Mirrors.reused_of_named (h : s.Mirrors i b asked events)
    (hnamed : ∀ g ∈ asked, ∀ g' ∈ asked, g.identity = g'.identity → g.name = g'.name) {k : Nat}
    {name : String} {start : Int} (this : events[k]? = some (.styleReused name start)) :
    ∃ stop, .styleMounted name start stop ∈ events.take k := by
  obtain ⟨r, hmember, hbefore, rfl, g, hamong, rfl, hidentity⟩ := h.reused k name start this
  rw [hnamed g hamong r.generator (h.known r hmember) hidentity]
  exact ⟨r.stop, hbefore⟩

/-! ### Runs -/

/-- The run of the mirror: the events that the operations told stand at the end of the log. -/
theorem Session.Mirrors.operate (hattended : s.Attended again rest ear i b)
    (hsettled : (s.provider i).Settled again rest i b) (h : s.Mirrors i b asked events)
    (ops : List Operation) (hdetached : ∀ op ∈ ops, op.Detached again rest i b)
    (hsure : ∀ op ∈ ops, op.Sure) :
    let t := s.operate again i ops
    t.Attended again rest ear i b ∧ (t.provider i).Settled again rest i b ∧
      ∃ told, t.log ear = s.log ear ++ told ∧
        t.Mirrors i b (asked ++ ops.flatMap Operation.generators) (events ++ told) := by
  induction ops generalizing s asked events with
  | nil =>
    refine ⟨hattended, hsettled, [], (List.append_nil _).symm, ?_⟩
    rw [List.flatMap_nil, List.append_nil, List.append_nil]
    exact h
  | cons op ops ih =>
    obtain ⟨first, hemits, hlog, hattendedThen, hsettledThen⟩ := follows_run hattended hsettled
      (hdetached op List.mem_cons_self) (hsure op List.mem_cons_self)
    obtain ⟨hnow, hsettledNow, rest, htold, hmirrors⟩ := ih hattendedThen hsettledThen
      (h.emit hemits) (fun op hmember => hdetached op (List.mem_cons_of_mem _ hmember))
      (fun op hmember => hsure op (List.mem_cons_of_mem _ hmember))
    refine ⟨hnow, hsettledNow, first ++ rest, ?_, ?_⟩
    · rw [← List.append_assoc, ← hlog]
      exact htold
    · rw [List.flatMap_cons, ← List.append_assoc, ← List.append_assoc]
      exact hmirrors

theorem Session.attended_withProvider (id : String) (theme : Theme)
    (hhears : s.bus.subscriptions.filter (·.listener == ear) = [⟨.all, ear⟩])
    (hconsiderate : ∀ entry ∈ s.listeners,
      Considerate again rest s.providers.length s.backends.length entry.2)
    (hkept : ∀ u v, u.Elsewhere s.providers.length s.backends.length v → rest u → rest v)
    (hknown : rest (s.withProvider id theme true)) :
    (s.withProvider id theme true).Attended again rest ear s.providers.length
      s.backends.length := by
  refine ⟨s.onPage_withProvider id theme true, ?_, ⟨_, _, s.backend_withProvider id theme true⟩,
    hhears, hconsiderate, hkept, hknown⟩
  rw [s.provider_withProvider]
  rfl

theorem Session.settled_withProvider (s : Session) (again : Step → Act Outcome)
    (rest : Session → Prop) (id : String) (theme : Theme) :
    ((s.withProvider id theme true).provider s.providers.length).Settled again rest
      s.providers.length s.backends.length := by
  rw [s.provider_withProvider]
  exact ⟨rfl, Provider.indexed_fresh _ _ _, fun _ hnone => nomatch hnone⟩

theorem Session.mirrors_withProvider (s : Session) (id : String) (theme : Theme) :
    (s.withProvider id theme true).Mirrors s.providers.length s.backends.length [] [] := by
  refine ⟨?_, ?_, fun _ _ _ hnone => (nomatch hnone), _, s.backend_withProvider id theme true⟩
  · rw [s.provider_withProvider]
    rfl
  · rw [s.provider_withProvider]
    exact fun _ hnone => nomatch hnone

end

/-- The log of a listener to all events mirrors a provider, whatever its operations come to. Every
operation tells one event if it is done and none if it fails, and what it tells says what it did.
The listeners return; they and the generators may do anything that leaves the provider, its page and
the bus alone, as far as that follows from what is known of the rest of the session. -/
theorem log_mirrors_provider (again : Step → Act Outcome) (s : Session) (id : String)
    (theme : Theme) (ear : String)
    (hhears : s.bus.subscriptions.filter (·.listener == ear) = [⟨.all, ear⟩])
    (rest : Session → Prop) (hknown : rest (s.withProvider id theme true))
    (hkept : ∀ u v, u.Elsewhere s.providers.length s.backends.length v → rest u → rest v)
    (hconsiderate : ∀ entry ∈ s.listeners,
      Considerate again rest s.providers.length s.backends.length entry.2)
    (ops : List Operation)
    (hdetached : ∀ op ∈ ops, op.Detached again rest s.providers.length s.backends.length)
    (hsure : ∀ op ∈ ops, op.Sure) :
    let i := s.providers.length
    let b := s.backends.length
    let t := s.withProvider id theme true
    let asked := ops.flatMap Operation.generators
    (∃ events, (t.operate again i ops).log ear = s.log ear ++ events ∧
      (t.operate again i ops).Mirrors i b asked events ∧
      ((∀ g ∈ asked, ∀ g' ∈ asked, g.identity = g'.identity → g.name = g'.name) →
        ∀ k name start, events[k]? = some (.styleReused name start) →
          ∃ stop, .styleMounted name start stop ∈ events.take k)) ∧
    ∀ before op after, ops = before ++ op :: after →
      let u := t.operate again i before
      let done := exec (op.run again i) u
      ∃ told, op.Emits i b u done told ∧ done.2.log ear = u.log ear ++ told ∧
        told.length = op.announcements done.1 := by
  intro i b t asked
  have hattended : t.Attended again rest ear i b :=
    Session.attended_withProvider id theme hhears hconsiderate hkept hknown
  have hsettled := s.settled_withProvider again rest id theme
  have hmirrors := s.mirrors_withProvider id theme
  constructor
  · obtain ⟨-, -, events, hlog, hnow⟩ := hmirrors.operate hattended hsettled ops hdetached hsure
    exact ⟨events, hlog, hnow, fun hnamed _ _ _ this => hnow.reused_of_named hnamed this⟩
  · rintro before op after rfl
    obtain ⟨hattendedThen, hsettledThen, -⟩ := hmirrors.operate hattended hsettled before
      (fun op hmember => hdetached op (List.mem_append_left _ hmember))
      (fun op hmember => hsure op (List.mem_append_left _ hmember))
    have hmember : op ∈ before ++ op :: after := List.mem_append_right _ List.mem_cons_self
    obtain ⟨told, hemits, hlog, -⟩ :=
      follows_run hattendedThen hsettledThen (hdetached op hmember) (hsure op hmember)
    exact ⟨told, hemits, hlog, hemits.length⟩

/-- Two equal generators with two names, and a third one that fails when it has written. The first
makes a provider of its own. -/
def twins : List Generator := [
  ⟨1, .key (.whole 1), "first",
    .script [.react (.perform (.newProvider "q" .memory .empty false)), .rules "a" 1]⟩,
  ⟨2, .key (.whole 2), "broken", .script [.rules "b" 2, .react (.raise "ValueError" "no")]⟩,
  ⟨3, .key (.whole 1), "second", .script [.rules "c" 1]⟩]

/-- One listener to everything, and one that looks at the files whenever something is mounted. -/
def earAndClerk : Session :=
  Session.run {} [.subscribe .all "ear" [] "",
    .subscribe (.type "StyleMounted") "clerk" [.perform .files] ""]

def mountTwins : List Operation :=
  twins.map fun g => .mount g fun start => .ok (.number start)

/-- There is a first provider on a first page. -/
def Session.Furnished (s : Session) : Prop := 0 < s.providers.length ∧ 0 < s.backends.length

theorem detached_newProvider (depth : Nat) (id : String) (theme : Theme) (onBus : Bool) :
    (Step.newProvider id .memory theme onBus).Detached (Step.perform (depth + 1))
      Session.Furnished 0 0 := by
  rintro s ⟨hproviders, hbackends⟩
  show s.Apart _ 0 0 (s.withProvider id theme onBus)
  refine ⟨⟨rfl, rfl, rfl, (List.append_nil _).symm⟩, ⟨?_, ?_, ?_, ?_⟩, ?_, ?_⟩
  · show _ ≤ (s.providers ++ [_]).length
    simp
  · show _ ≤ (s.backends ++ [_]).length
    simp
  · show (s.providers ++ [_]).getD 0 _ = s.providers.getD 0 _
    simp [hproviders]
  · show (s.backends ++ [_]).getD 0 _ = s.backends.getD 0 _
    simp [hbackends]
  · show 0 < (s.providers ++ [_]).length
    simp
  · show 0 < (s.backends ++ [_]).length
    simp

theorem log_twins :
    ((earAndClerk.withProvider "p" (.color (.text "red")) true).operate (Step.perform 100) 0
      (mountTwins ++ [.updateTheme (.color (.text "blue")), .render])).log "ear" =
    [.styleMounted "first" 0 1, .styleReused "second" 0, .stylesheetReplaced 1 22] := by
  rfl

theorem log_mirrors_provider_twins :
    let t := earAndClerk.withProvider "p" (.color (.text "red")) true
    let ops := mountTwins ++ [.updateTheme (.color (.text "blue")), .render]
    let events : List Event := [.styleMounted "first" 0 1, .styleReused "second" 0,
      .stylesheetReplaced 1 22]
    (t.operate (Step.perform 100) 0 ops).log "ear" = events ∧
      (t.operate (Step.perform 100) 0 ops).Mirrors 0 0 twins events := by
  intro t ops events
  have hkept : ∀ u v : Session, u.Elsewhere 0 0 v → u.Furnished → v.Furnished := by
    rintro u v hsame ⟨hproviders, hbackends⟩
    exact ⟨hsame.providers ▸ hproviders, hsame.backends ▸ hbackends⟩
  have hlisteners : earAndClerk.listeners = [("ear", []), ("clerk", [.perform .files])] := rfl
  have hconsiderate : ∀ entry ∈ earAndClerk.listeners,
      Considerate (Step.perform 100) Session.Furnished 0 0 entry.2 := by
    simp only [hlisteners, List.forall_mem_cons]
    exact ⟨fun s hknown => ⟨s, rfl, s.hears_refl, s.sameSheet_refl, hknown⟩,
      fun s hknown => ⟨s, rfl, s.hears_refl, s.sameSheet_refl, hknown⟩,
      fun _ hnone => nomatch hnone⟩
  have hdetached : ∀ op ∈ ops, op.Detached (Step.perform 100) Session.Furnished 0 0 := by
    simp only [ops, mountTwins, twins, List.map_cons, List.map_nil, List.cons_append,
      List.nil_append, List.forall_mem_cons]
    refine ⟨fun step hasking => ?_, fun _ hnone => (nomatch hnone), fun _ hnone => (nomatch hnone),
      trivial, trivial, fun _ hnone => nomatch hnone⟩
    cases List.mem_singleton.1 hasking
    exact detached_newProvider 99 "q" .empty false
  have hsure : ∀ op ∈ ops, op.Sure := by
    simp only [ops, mountTwins, twins, List.map_cons, List.map_nil, List.cons_append,
      List.nil_append, List.forall_mem_cons]
    exact ⟨fun _ => ⟨_, rfl⟩, fun _ => ⟨_, rfl⟩, fun _ => ⟨_, rfl⟩, trivial, trivial,
      fun _ hnone => nomatch hnone⟩
  obtain ⟨⟨told, hgrown, hmirrors, -⟩, -⟩ := log_mirrors_provider (Step.perform 100) earAndClerk "p"
    (.color (.text "red")) "ear" rfl Session.Furnished ⟨by decide, by decide⟩ hkept hconsiderate ops
    hdetached hsure
  have hsame : told = events := hgrown.symm.trans log_twins
  rw [hsame] at hmirrors
  exact ⟨log_twins, hmirrors⟩

/-- The event of a reused generator names the one that was asked for, and nothing was ever mounted
under that name. -/
theorem reused_under_other_name :
    let t := earAndClerk.withProvider "p" (.color (.text "red")) true
    (t.operate (Step.perform 100) 0 mountTwins).log "ear" =
      [.styleMounted "first" 0 1, .styleReused "second" 0] := rfl

end ScopedCss

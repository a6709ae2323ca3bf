import ScopedCss.Proofs.Loading
import ScopedCss.Proofs.Operations
import ScopedCss.Proofs.Scripts

/-!
What steps do to a session, for any relation of sessions to later ones. A step looks up names, makes
things, tells events, runs generators, or asks something of a provider. Main statement: a relation
that holds along each of these holds along every allowed step, at any depth of nesting, and along
every run. What a relation owes to have this is said by `Session.Course`, and by `Provider.Along`
for the operations of providers.
-/
namespace ScopedCss

namespace Session

/-- The generators that a session knows: by a name, of its classes, and as mounted ones. -/
def Knows (s : Session) (g : Generator) : Prop :=
  (∃ entry ∈ s.generators, entry.2 = g) ∨ (∃ entry ∈ s.classes, entry.2.generator = g) ∨
    ∃ p ∈ s.providers, ∃ r ∈ p.registrations, r.generator = g

/-- Names stand for providers that there are. -/
def Placed (s : Session) : Prop := ∀ entry ∈ s.providerIds, entry.2 < s.providers.length

/-- Sessions that differ at most in their files and stylesheets, in who is subscribed, and in what
was counted, logged and heard. -/
structure SameParts (s t : Session) : Prop where
  generators : t.generators = s.generators
  classes : t.classes = s.classes
  providers : t.providers = s.providers
  listeners : t.listeners = s.listeners
  ids : t.providerIds = s.providerIds
  next : t.nextGenerator = s.nextGenerator
  language : t.language = s.language

/-- A relation of sessions to later ones that holds along all that allowed steps do outside of
providers. Steps start from sessions that are related to themselves; there, scripts and listeners
ask for allowed steps only. -/
structure Course (allowed : Step → Prop) (R : Session → Session → Prop) : Prop where
  trans {s t u : Session} : R s t → R t u → R s u
  ready {s t : Session} : R s t → R t t
  listeners {s : Session} : R s s →
    ∀ entry ∈ s.listeners, ∀ step, .perform step ∈ entry.2 → allowed step
  scripts {s : Session} {g : Generator} : R s s → s.Knows g → ∀ step ∈ g.body.steps, allowed step
  same {s t : Session} : R s s → s.SameParts t → R s t
  addProvider {s : Session} (id : String) (backend : Nat) (theme : Theme) (onBus : Bool) : R s s →
    R s { s with
      providers := s.providers ++ [.fresh backend theme onBus]
      providerIds := (id, s.providers.length) :: s.providerIds }
  keepClass {s t : Session} {source label : String} {given : Namespace} {settings : Settings}
    {cls : StyleClass} : R s s → allowed (.compile source given settings label) →
      cls ∈ StyleClass.madeFrom s.language source given settings → R t t →
        R t (exec (Step.keepClass label cls) t).2
  define {s : Session} {id : String} {key : Key} {name : String} {actions : List Action} : R s s →
    allowed (.define id key name actions) →
      R s (exec (Step.defineGenerator id key name actions) s).2
  subscribe {s : Session} {topic : Topic} {listener handle : String} {reactions : List Reaction} :
    R s s → allowed (.subscribe topic listener reactions handle) →
      R s (exec (Step.addSubscription ⟨topic, listener⟩ reactions handle) s).2

end Session

/-- The relation holds along the operations of providers that have a name, also when other things
were done since they were found. -/
structure Provider.Along (R : Session → Session → Prop) (again : Step → Act Outcome) : Prop where
  mount {s : Session} {id : String} {i : Nat} {g : Generator} : R s s →
    s.providerIds.lookup id = some i → s.Knows g → Keeps (R s) (Provider.mount again i g)
  updateTheme {s : Session} {id : String} {i : Nat} (theme : Theme) : R s s →
    s.providerIds.lookup id = some i → Keeps (R s) (Provider.updateTheme again i theme)
  render {s : Session} {id : String} {i : Nat} : R s s →
    s.providerIds.lookup id = some i → Keeps (R s) (Provider.render again i)

/-! ### What names stand for -/

namespace Session

variable {s : Session}

/-- A provider that has a name is there, and in later sessions too. -/
theorem Placed.here {t : Session} (hplaced : s.Placed)
    (hlater : s.providers.length ≤ t.providers.length) {id : String} {i : Nat}
    (hnamed : s.providerIds.lookup id = some i) : i < t.providers.length :=
  Nat.lt_of_lt_of_le (hplaced (id, i) (mem_of_lookup_eq_some hnamed)) hlater

theorem knows_class {name : String} {m : Mountable} (hfound : s.classes.lookup name = some m) :
    s.Knows m.generator := .inr (.inl ⟨(name, m), mem_of_lookup_eq_some hfound, rfl⟩)

theorem knows_generator {name : String} {g : Generator}
    (hfound : s.generators.lookup name = some g) : s.Knows g :=
  .inl ⟨(name, g), mem_of_lookup_eq_some hfound, rfl⟩

theorem mem_provider {i : Nat} (hi : i < s.providers.length) : s.provider i ∈ s.providers := by
  rw [provider, List.getD_eq_getElem?_getD, List.getElem?_eq_getElem hi]
  exact List.getElem_mem hi

/-- What stands for a provider that there is not has mounted nothing. -/
theorem knows_registered {i : Nat} {r : Registration}
    (hmounted : r ∈ (s.provider i).registrations) : s.Knows r.generator := by
  by_cases hi : i < s.providers.length
  · exact .inr (.inr ⟨_, mem_provider hi, r, hmounted, rfl⟩)
  · rw [provider, List.getD_eq_getElem?_getD, List.getElem?_eq_none (Nat.not_lt.1 hi)] at hmounted
    cases hmounted

end Session

theorem mem_of_registrationAt {p : Provider} {index : Int} {r : Registration}
    (h : Step.registrationAt p index = .ok r) : r ∈ p.registrations := by
  obtain ⟨k, -, h⟩ := bind_eq_ok.1 h
  split at h
  · rename_i hplace
    cases h
    exact List.mem_of_getElem? hplace
  · cases h

/-! ### Acts that leave all parts as they are -/

section
variable {P : Session → Prop} (hsame : ∀ {s t : Session}, P s → s.SameParts t → P t)
include hsame

theorem keeps_log_of_same (message : String) : Keeps P (Provider.log message) :=
  keeps_modify fun _ h => hsame h ⟨rfl, rfl, rfl, rfl, rfl, rfl, rfl⟩

theorem keeps_files_of_same (files : Files) :
    Keeps P (modify fun s => { s with files := files } : Act PUnit) :=
  keeps_modify fun _ h => hsame h ⟨rfl, rfl, rfl, rfl, rfl, rfl, rfl⟩

theorem keeps_replaceAll_of_same (b : Nat) (css : Text) : Keeps P (Provider.replaceAll b css) := by
  refine keeps_get_bind fun s _ => ?_
  split
  · exact keeps_modify fun _ h => hsame h ⟨rfl, rfl, rfl, rfl, rfl, rfl, rfl⟩
  · refine keeps_get_bind fun _ _ => Keeps.bind (keeps_ofExcept _) fun written => ?_
    split
    · exact Keeps.bind (keeps_throw _) fun _ => keeps_files_of_same hsame written
    · exact keeps_files_of_same hsame written

theorem keeps_newBackend_of_same (storage : Storage) : Keeps P (Step.newBackend storage) := by
  cases storage with
  | memory =>
    exact keeps_get_bind fun _ _ => Keeps.bind
      (keeps_modify fun _ h => hsame h ⟨rfl, rfl, rfl, rfl, rfl, rfl, rfl⟩) fun _ => keeps_pure _
  | file name =>
    exact keeps_get_bind fun _ _ => Keeps.bind (keeps_ofExcept _) fun _ => Keeps.bind
      (keeps_modify fun _ h => hsame h ⟨rfl, rfl, rfl, rfl, rfl, rfl, rfl⟩) fun _ => keeps_pure _
  | sharedWith id =>
    exact Keeps.bind (keeps_get_bind fun _ _ => keeps_ofExcept _) fun _ =>
      keeps_get_bind fun _ _ => keeps_pure _

theorem keeps_removeSubscription_of_same (handle : String) :
    Keeps P (Step.removeSubscription handle) := by
  refine keeps_get_bind fun _ _ => Keeps.bind (keeps_ofExcept _) fun _ =>
    keeps_get_bind fun _ _ => ?_
  split
  · exact keeps_throw _
  · exact keeps_modify fun _ h => hsame h ⟨rfl, rfl, rfl, rfl, rfl, rfl, rfl⟩

end

/-! ### Steps -/

namespace Session.Course

variable {allowed : Step → Prop} {R : Session → Session → Prop} {again : Step → Act Outcome}
  {s₀ s : Session} (hcourse : Course allowed R)
include hcourse

theorem extend {t : Session} (h : R s₀ s) (hparts : s.SameParts t) : R s₀ t :=
  hcourse.trans h (hcourse.same (hcourse.ready h) hparts)

theorem put (h : R s₀ s) (sink : Sink) (text : Text) : R s₀ (sink.put text s) := by
  cases sink with
  | collected => exact h
  | page b edition => exact hcourse.extend h ⟨rfl, rfl, rfl, rfl, rfl, rfl, rfl⟩

theorem keeps_log (message : String) : Keeps (R s₀) (Provider.log message) :=
  keeps_log_of_same hcourse.extend message

theorem keeps_replaceAll (b : Nat) (css : Text) : Keeps (R s₀) (Provider.replaceAll b css) :=
  keeps_replaceAll_of_same hcourse.extend b css

theorem keeps_addProvider (id : String) (storage : Storage) (theme : Theme) (onBus : Bool) :
    Keeps (R s₀) (Step.addProvider id storage theme onBus) :=
  Keeps.bind (keeps_newBackend_of_same hcourse.extend storage) fun b => keeps_modify fun _ h =>
    hcourse.trans h (hcourse.addProvider id b theme.orEmpty onBus (hcourse.ready h))

theorem keeps_compileSource {source label : String} {given : Namespace} {settings : Settings}
    (hmay : allowed (.compile source given settings label)) :
    Keeps (R s₀) (Step.compileSource source given settings label) := by
  rw [Step.compileSource]
  split
  · exact keeps_throw _
  · next config hsettled =>
    refine Keeps.bind
      (keeps_modify fun _ h => hcourse.extend h ⟨rfl, rfl, rfl, rfl, rfl, rfl, rfl⟩) fun _ =>
      keeps_ofExcept_bind fun compiled haccepted => keeps_get_bind fun s hready =>
        keeps_ofExcept_bind fun classes hloaded =>
          Keeps.bind (keeps_forM fun cls hmember => ?_) fun _ => keeps_pure _
    rw [← StyleClass.madeFrom_eq hsettled (mapError_eq_ok.1 haccepted) (mapError_eq_ok.1 hloaded)]
      at hmember
    exact fun _ h => hcourse.trans h
      (hcourse.keepClass (hcourse.ready hready) hmay hmember (hcourse.ready h))

omit hcourse in
/-- Looking up a name changes nothing, whether it stands for something or not. -/
theorem of_named {α β : Type} (hready : R s s) {entries : List (String × α)} {name : String}
    {f : α → Act β} (hfound : ∀ a, entries.lookup name = some a → R s (exec (f a) s).2) :
    R s (exec (Act.ofExcept (Session.named entries name) >>= f) s).2 := by
  rw [exec_bind, exec_ofExcept, Session.named]
  cases hknown : entries.lookup name with
  | none => exact hready
  | some a => exact hfound a hknown

variable (hnested : ∀ (s₀ : Session) (step : Step), allowed step → Keeps (R s₀) (again step))
include hnested

theorem keeps_announce (e : Event) : Keeps (R s₀) (announce again e) := by
  refine ScopedCss.keeps_announce
    (fun _ _ h => hcourse.extend h ⟨rfl, rfl, rfl, rfl, rfl, rfl, rfl⟩) ?_
  intro s h entry hmember step hasking
  exact hnested s₀ step (hcourse.listeners (hcourse.ready h) entry hmember step hasking)

theorem keeps_tell (i : Nat) (e : Event) : Keeps (R s₀) (Provider.tell again i e) := by
  refine keeps_get_bind fun s _ => ?_
  split
  · exact hcourse.keeps_announce hnested e
  · exact keeps_pure _

theorem keeps_tellReused (i : Nat) (g : Generator) (start : Int) :
    Keeps (R s₀) (Provider.tellReused again i g start) :=
  Keeps.bind (hcourse.keeps_log _) fun _ => Keeps.bind (hcourse.keeps_tell hnested i _) fun _ =>
    keeps_pure _

theorem keeps_tellMounted (i : Nat) (g : Generator) (start stop : Int) :
    Keeps (R s₀) (Provider.tellMounted again i g start stop) :=
  Keeps.bind (hcourse.keeps_log _) fun _ => Keeps.bind (hcourse.keeps_tell hnested i _) fun _ =>
    keeps_pure _

theorem keeps_tellUnchanged (i : Nat) (theme : Theme) :
    Keeps (R s₀) (Provider.tellUnchanged again i theme) :=
  Keeps.bind (hcourse.keeps_log _) fun _ => hcourse.keeps_tell hnested i _

theorem keeps_tellReplaced (i : Nat) (css : Text) :
    Keeps (R s₀) (Provider.tellReplaced again i css) := by
  rw [Provider.tellReplaced]
  exact keeps_get_bind fun _ _ => Keeps.bind (hcourse.keeps_log _) fun _ =>
    hcourse.keeps_tell hnested i _

section
variable {g : Generator} (hasked : ∀ step ∈ g.body.steps, allowed step)
include hasked

theorem keeps_call (theme : Theme) (sink : Sink) (start : Int) :
    Keeps (R s₀) (g.call again theme sink start) :=
  ScopedCss.keeps_call (fun _ _ h => hcourse.extend h ⟨rfl, rfl, rfl, rfl, rfl, rfl, rfl⟩)
    (fun text _ h => hcourse.put h sink text)
    (fun step hasking => hnested s₀ step (hasked step hasking))
    _ _

theorem keeps_append (b : Nat) (theme : Theme) (start : Int) :
    Keeps (R s₀) (Provider.append again b theme g start) :=
  Provider.keeps_append (fun _ _ h => hcourse.extend h ⟨rfl, rfl, rfl, rfl, rfl, rfl, rfl⟩)
    (fun sink => hcourse.keeps_call hnested hasked theme sink start) b

end

/-- A provider's own generators may be run in any later session. -/
theorem keeps_replayAll (hready : R s s) (i : Nat) (theme : Theme) :
    Keeps (R s₀) (Provider.replayAll again theme (s.provider i).registrations) :=
  Provider.keeps_replayAll fun r hmounted =>
    hcourse.keeps_call hnested (hcourse.scripts hready (knows_registered hmounted)) theme .collected
      r.start

variable (halong : Provider.Along R again)
include halong

omit hcourse hnested in
theorem keeps_mountClass (hready : R s s) {id : String} {i : Nat}
    (hnamed : s.providerIds.lookup id = some i) {m : Mountable} (hknown : s.Knows m.generator) :
    Keeps (R s) (Provider.mountClass again i m) := by
  refine Keeps.bind (halong.mount hready hnamed hknown) fun start => ?_
  cases m with
  | base => exact keeps_throw _
  | compiled n c => exact keeps_ofExcept _

/-- What one step does, by the kinds of steps. -/
theorem step (hready : R s s) {step : Step} (hmay : allowed step) :
    R s (exec (step.run again) s).2 := by
  have hkept {α : Type} {act : Act α} (h : Keeps (R s) act) : R s (exec act s).2 := h s hready
  have hfiles (files : Files) :
      Keeps (R s) (modify fun s => { s with files := files } : Act PUnit) :=
    keeps_files_of_same hcourse.extend files
  cases step with
  | newProvider id storage theme onBus =>
    exact hkept
      (Keeps.bind (hcourse.keeps_addProvider id storage theme onBus) fun _ => keeps_pure _)
  | compile source globals settings label =>
    exact hkept (Keeps.bind (hcourse.keeps_compileSource hmay) fun _ => keeps_pure _)
  | mount p c =>
    exact of_named hready fun i hnamed => of_named hready fun m hfound =>
      hkept (Keeps.bind (keeps_mountClass halong hready hnamed (knows_class hfound)) fun _ =>
        keeps_pure _)
  | useStyle p c =>
    exact of_named hready fun m hfound => of_named hready fun i hnamed =>
      hkept (Keeps.bind (keeps_mountClass halong hready hnamed (knows_class hfound)) fun _ =>
        keeps_pure _)
  | same p c =>
    refine of_named hready fun i hnamed => of_named hready fun m hfound => ?_
    have hmounts := keeps_mountClass halong hready hnamed (knows_class hfound)
    exact hkept (Keeps.bind hmounts fun _ => Keeps.bind hmounts fun _ => keeps_pure _)
  | newInstance c start =>
    refine of_named hready fun m _ => ?_
    cases m with
    | base => exact hready
    | compiled n cls => exact hkept (Keeps.bind (keeps_ofExcept _) fun _ => keeps_pure _)
  | define id key name actions =>
    exact holds_bind (hcourse.define hready hmay) fun _ => keeps_pure _
  | mountGenerator p g =>
    exact of_named hready fun i hnamed => of_named hready fun g hfound =>
      hkept (Keeps.bind (halong.mount hready hnamed (knows_generator hfound)) fun _ => keeps_pure _)
  | calls g =>
    exact hkept (keeps_get_bind fun _ _ => Keeps.bind (keeps_get_bind fun _ _ => keeps_ofExcept _)
      fun _ => keeps_pure _)
  | updateTheme p theme =>
    exact of_named hready fun i hnamed =>
      hkept (Keeps.bind (halong.updateTheme theme hready hnamed) fun _ => keeps_pure _)
  | render p =>
    exact of_named hready fun i hnamed =>
      hkept (Keeps.bind (halong.render hready hnamed) fun _ => keeps_pure _)
  | html p attributes =>
    exact of_named hready fun i _ =>
      hkept (keeps_get_bind fun _ _ => Keeps.bind (keeps_ofExcept _) fun _ => keeps_pure _)
  | replaceAll p css =>
    exact of_named hready fun i _ =>
      hkept (keeps_get_bind fun _ _ => Keeps.bind (hcourse.keeps_replaceAll _ css) fun _ =>
        keeps_pure _)
  | append p g start theme =>
    refine of_named hready fun i _ => of_named hready fun g hfound => ?_
    have hasked := hcourse.scripts hready (knows_generator hfound)
    exact hkept (keeps_get_bind fun _ _ =>
      Keeps.bind (hcourse.keeps_append hnested hasked _ theme start) fun _ =>
        Keeps.bind (keeps_ofExcept _) fun _ => keeps_pure _)
  | replay p index theme =>
    refine of_named hready fun i _ => ?_
    rw [exec_get_bind]
    refine hkept (keeps_ofExcept_bind fun r hfound => Keeps.bind ?_ fun _ => keeps_pure _)
    have hmounted := mem_of_registrationAt (mapError_eq_ok.1 hfound)
    exact Provider.keeps_replay (hcourse.keeps_call hnested
      (hcourse.scripts hready (knows_registered hmounted)) theme _ _)
  | makeFolder name =>
    exact hkept (keeps_get_bind fun _ _ => Keeps.bind (keeps_ofExcept _) fun _ =>
      Keeps.bind (hfiles _) fun _ => keeps_pure _)
  | writeFile name text =>
    exact hkept (keeps_get_bind fun _ _ => Keeps.bind (keeps_ofExcept _) fun _ =>
      Keeps.bind (hfiles _) fun _ => keeps_pure _)
  | files => exact hready
  | subscribe topic listener reactions handle =>
    exact holds_bind (hcourse.subscribe hready hmay) fun _ => keeps_pure _
  | unsubscribe handle =>
    exact hkept (Keeps.bind (keeps_removeSubscription_of_same hcourse.extend handle) fun _ =>
      keeps_pure _)
  | emit event =>
    exact hkept (Keeps.bind (hcourse.keeps_announce hnested event) fun _ => keeps_pure _)

end Session.Course

/-! ### Runs -/

namespace Session

/-- The session that steps from outside lead to. -/
def run (s : Session) (steps : List Step) : Session :=
  steps.foldl (fun s step => (s.perform step).2) s

namespace Course

variable {allowed : Step → Prop} {R : Session → Session → Prop} (hcourse : Course allowed R)
  (halong : ∀ again, (∀ (s₀ : Session) (step : Step), allowed step → Keeps (R s₀) (again step)) →
    Provider.Along R again)
include hcourse halong

theorem keeps_perform (depth : Nat) {s₀ : Session} {step : Step} (hmay : allowed step) :
    Keeps (R s₀) (step.perform depth) := by
  induction depth generalizing s₀ step with
  | zero => exact keeps_throw _
  | succ depth ih =>
    have hnested (s₀ : Session) (step : Step) (hmay : allowed step) :
        Keeps (R s₀) (Step.perform depth step) := ih hmay
    exact fun s h => hcourse.trans h
      (hcourse.step hnested (halong _ hnested) (hcourse.ready h) hmay)

theorem perform {s : Session} (hready : R s s) {step : Step} (hmay : allowed step) :
    R s (s.perform step).2 :=
  hcourse.keeps_perform halong depth hmay _
    (hcourse.same hready ⟨rfl, rfl, rfl, rfl, rfl, rfl, rfl⟩)

theorem run {s : Session} (hready : R s s) {steps : List Step}
    (hmay : ∀ step ∈ steps, allowed step) : R s (s.run steps) := by
  induction steps generalizing s with
  | nil => exact hready
  | cons step steps ih =>
    have hfirst := hcourse.perform halong hready (hmay step List.mem_cons_self)
    exact hcourse.trans hfirst
      (ih (hcourse.ready hfirst) fun later hmember =>
        hmay later (List.mem_cons_of_mem step hmember))

end Course

end Session

end ScopedCss

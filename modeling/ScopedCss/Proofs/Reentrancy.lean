import ScopedCss.Proofs.StableNames

/-!
Generators that call back. While a provider runs generators, their scripts may ask anything of the
same provider and may or may not catch what comes of it. Main statement: at every such call the
provider is as it was when the operation began, but busy; the call is refused, or it tells that
there is nothing to do; and when the operation is over, whatever came of it, the provider is idle.
-/
namespace ScopedCss

/-! ### Operations -/

/-- What can be asked of a provider that runs generators, unless it finds that it need not. -/
inductive Operation where
  /-- Something is made of the slot at which the generator is mounted. -/
  | mount (g : Generator) (new : Int → Except Failure Outcome)
  | updateTheme (theme : Theme)
  | render

def Operation.run (again : Step → Act Outcome) (i : Nat) : Operation → Act Outcome
  | .mount g new => Provider.mountWith again i g new
  | .updateTheme theme => do
    Provider.updateTheme again i theme
    return .nothing
  | .render => do return .text (← Provider.render again i)

/-- The generators that an operation asks for. -/
def Operation.generators : Operation → List Generator
  | .mount g _ => [g]
  | _ => []

/-- The session after operations of a provider. One that fails is followed by the next one. -/
def Session.operate (again : Step → Act Outcome) (i : Nat) (s : Session) (ops : List Operation) :
    Session :=
  ops.foldl (fun s op => (exec (op.run again i) s).2) s

/-- What a step is, in a session, as an operation of a provider. -/
inductive Step.Means (s : Session) (i : Nat) : Step → Operation → Prop where
  | mountGenerator {p id : String} {g : Generator} (hnamed : s.providerIds.lookup p = some i)
      (hknown : s.generators.lookup id = some g) :
      Means s i (.mountGenerator p id) (.mount g fun start => .ok (.number start))
  | mount {p c : String} {m : Mountable} (hnamed : s.providerIds.lookup p = some i)
      (hknown : s.classes.lookup c = some m) :
      Means s i (.mount p c) (.mount m.generator fun start => (m.new start).map .fields)
  | useStyle {p c : String} {m : Mountable} (hnamed : s.providerIds.lookup p = some i)
      (hknown : s.classes.lookup c = some m) :
      Means s i (.useStyle p c) (.mount m.generator fun start => (m.new start).map .fields)
  | updateTheme {p : String} (theme : Theme) (hnamed : s.providerIds.lookup p = some i) :
      Means s i (.updateTheme p theme) (.updateTheme theme)
  | render {p : String} (hnamed : s.providerIds.lookup p = some i) : Means s i (.render p) .render

theorem Step.Means.exec_run {s : Session} {i : Nat} {step : Step} {op : Operation}
    (hmeans : step.Means s i op) (again : Step → Act Outcome) :
    exec (step.run again) s = exec (op.run again i) s := by
  cases hmeans with
  | mountGenerator hnamed hknown =>
    rw [Step.run, exec_bind_of_ok (Step.exec_providerNumber hnamed),
      exec_bind_of_ok (Step.exec_generatorNamed hknown), ← Provider.mountWith_ok,
      Provider.mountWith_bind_pure]
    rfl
  | mount hnamed hknown =>
    rw [Step.run, exec_bind_of_ok (Step.exec_providerNumber hnamed),
      exec_bind_of_ok (Step.exec_className hknown), Provider.mountClass_eq_mountWith,
      Provider.mountWith_bind_pure, Operation.run]
  | useStyle hnamed hknown =>
    rw [Step.run, exec_bind_of_ok (Step.exec_className hknown),
      exec_bind_of_ok (Step.exec_providerNumber hnamed), Provider.mountClass_eq_mountWith,
      Provider.mountWith_bind_pure, Operation.run]
  | updateTheme theme hnamed =>
    rw [Step.run, exec_bind_of_ok (Step.exec_providerNumber hnamed), Operation.run]
  | render hnamed =>
    rw [Step.run, exec_bind_of_ok (Step.exec_providerNumber hnamed), Operation.run]

/-! ### What is asked for while generators run -/

section
variable (again : Step → Act Outcome) (step : Step) (t : Session)

/-- An action asks for a step when the session is `t`. -/
inductive Action.Asks (c : Call) : Action → Run → Prop where
  | perform {r : Run} (hnow : r.session = t) : Asks c (.react (.perform step)) r
  | onCall {number : Int} {action : Action} {r : Run} (this : number = c.number)
      (hasks : Asks c action r) : Asks c (.onCall number action) r
  | attempt {action : Action} {r : Run} (hasks : Asks c action r) : Asks c (.attempt action) r

/-- One of the actions of a script asks for a step, behind others that went well. -/
inductive Action.AskAll (c : Call) : List Action → Run → Prop where
  | first {action : Action} {actions : List Action} {r : Run} (hasks : action.Asks step t c r) :
      AskAll c (action :: actions) r
  | later {action : Action} {actions : List Action} {r r' : Run}
      (hdone : exec (action.run again c) r = (.ok (), r')) (hasks : AskAll c actions r') :
      AskAll c (action :: actions) r

/-- A generator asks for a step when it is called. -/
def Generator.Asks (g : Generator) (theme : Theme) (sink : Sink) (start : Int) (s : Session) :
    Prop :=
  ∃ actions, g.body = .script actions ∧
    Action.AskAll again step t ⟨theme, sink, s.callCount g.number + 1⟩ actions
      ⟨start, "", s.countCall g.number⟩

/-- A generator asks for a step when it is run at the end of a stylesheet. -/
def Provider.AppendAsks (b : Nat) (theme : Theme) (g : Generator) (start : Int) (s : Session) :
    Prop :=
  match s.backend b with
  | .memory _ edition => g.Asks again step t theme (.page b edition) start s
  | .file name => ∃ files number, s.files.openEnd name = .ok (files, number) ∧
      g.Asks again step t theme .collected start { s with files := files }

/-- One of the mounted generators asks for a step when all are rendered. -/
inductive Provider.ReplayAsks (theme : Theme) : List Registration → Session → Prop where
  | first {r : Registration} {rs : List Registration} {s : Session}
      (hasks : r.generator.Asks again step t theme .collected r.start s) :
      ReplayAsks theme (r :: rs) s
  | later {r : Registration} {rs : List Registration} {s s' : Session} {text : Text}
      (hdone : exec (Provider.replay again theme r) s = (.ok text, s'))
      (hasks : ReplayAsks theme rs s') : ReplayAsks theme (r :: rs) s

/-- A generator asks for a step while an operation runs. -/
def Operation.Asks (i : Nat) (s : Session) (op : Operation) : Prop :=
  let p := s.provider i
  let during := s.modifyProvider i fun p => { p with busy := true }
  match op with
  | .mount g _ => p.registered? g = none ∧
      Provider.AppendAsks again step t p.backend p.theme g p.counter during
  | .updateTheme theme => theme.isInstanceOf p.theme = true ∧
      p.theme.quickSame? theme = some false ∧
      Provider.ReplayAsks again step t theme p.registrations during
  | .render => Provider.ReplayAsks again step t p.theme p.registrations during

end

section
variable {again : Step → Act Outcome} {step : Step} {s₀ s t : Session}

theorem Action.Asks.continues {c : Call} {action : Action} {r : Run}
    (h : action.Asks step t c r) (hbefore : s₀.Continues r.session) : s₀.Continues t := by
  induction h with
  | perform hnow => exact hnow ▸ hbefore
  | onCall _ _ ih => exact ih hbefore
  | attempt _ ih => exact ih hbefore

variable (hnested : ∀ (s₀ : Session) (step : Step), Keeps s₀.Continues (again step))
include hnested

theorem Action.AskAll.continues {c : Call} {actions : List Action} {r : Run}
    (h : Action.AskAll again step t c actions r) (hbefore : s₀.Continues r.session) :
    s₀.Continues t := by
  induction h with
  | first hasks => exact hasks.continues hbefore
  | @later action _ r _ hdone _ ih =>
    have hkept : Keeps (fun r : Run => s₀.Continues r.session) (action.run again c) :=
      keeps_action (fun text _ h => h.put c.sink text) fun step _ => hnested s₀ step
    have hafter := hkept r hbefore
    rw [hdone] at hafter
    exact ih hafter

theorem Generator.Asks.continues {g : Generator} {theme : Theme} {sink : Sink} {start : Int}
    (h : g.Asks again step t theme sink start s) (hbefore : s₀.Continues s) : s₀.Continues t := by
  obtain ⟨_, -, hasks⟩ := h
  exact hasks.continues hnested (hbefore.same rfl rfl)

theorem Provider.AppendAsks.continues {b : Nat} {theme : Theme} {g : Generator} {start : Int}
    (h : Provider.AppendAsks again step t b theme g start s) (hbefore : s₀.Continues s) :
    s₀.Continues t := by
  rw [Provider.AppendAsks] at h
  split at h
  · exact h.continues hnested hbefore
  · obtain ⟨_, _, -, hasks⟩ := h
    exact hasks.continues hnested (hbefore.same rfl rfl)

theorem Provider.ReplayAsks.continues {theme : Theme} {rs : List Registration}
    (h : Provider.ReplayAsks again step t theme rs s) (hbefore : s₀.Continues s) :
    s₀.Continues t := by
  induction h with
  | first hasks => exact hasks.continues hnested hbefore
  | @later r _ s _ _ hdone _ ih =>
    have hafter := Provider.keeps_replay
      (keeps_continues_call hnested r.generator theme .collected r.start) s hbefore
    rw [hdone] at hafter
    exact ih hafter

/-- Whatever is asked for while an operation runs is asked for in a session that the beginning of
the operation has led to. -/
theorem Operation.Asks.continues {op : Operation} {i : Nat} (hplaced : s.Placed)
    (h : op.Asks again step t i s) :
    (s.modifyProvider i fun p => { p with busy := true }).Continues t := by
  cases op with
  | mount g new => exact h.2.continues hnested (hplaced.continues_busy i)
  | updateTheme theme => exact h.2.2.continues hnested (hplaced.continues_busy i)
  | render => exact Provider.ReplayAsks.continues hnested h (hplaced.continues_busy i)

/-- An operation leaves its provider idle. -/
theorem Operation.continues_run {i : Nat} (hplaced : s.Placed) (hi : i < s.providers.length)
    (op : Operation) : s.Continues (exec (op.run again i) s).2 := by
  cases op with
  | mount g new =>
    exact holds_bind (continues_mount hnested hplaced hi g) fun _ => keeps_ofExcept _
  | updateTheme theme =>
    exact holds_bind (continues_updateTheme hnested hplaced hi theme) fun _ => keeps_pure _
  | render => exact holds_bind (continues_render hnested hplaced hi) fun _ => keeps_pure _

end

/-! ### Nothing else is asked for -/

section
variable {again other : Step → Act Outcome}

theorem Reaction.exec_run_congr {reaction : Reaction} {s : Session}
    (hagree : ∀ step, reaction = .perform step → exec (other step) s = exec (again step) s) :
    exec (reaction.run other) s = exec (reaction.run again) s := by
  cases reaction with
  | raise => rfl
  | perform step =>
    exact exec_bind_congr (f := fun _ => pure PUnit.unit) (hagree step rfl) fun _ _ _ => rfl

theorem Action.exec_run_congr {c : Call} {action : Action} {r : Run}
    (hagree : ∀ step t, action.Asks step t c r → exec (other step) t = exec (again step) t) :
    exec (action.run other c) r = exec (action.run again c) r := by
  induction action with
  | write | rules | advance | advanceByCalls => rfl
  | onCall number action ih =>
    simp only [Action.run]
    split
    · exact ih fun step t hasks => hagree step t (.onCall ‹_› hasks)
    · rfl
  | attempt action ih =>
    rw [Action.run, Action.run, exec_tryCatch, exec_tryCatch,
      ih fun step t hasks => hagree step t (.attempt hasks)]
  | react reaction =>
    have hsame : exec (reaction.run other) r.session = exec (reaction.run again) r.session :=
      Reaction.exec_run_congr fun step hasked => hagree step r.session (hasked ▸ .perform rfl)
    exact congrArg (fun ran : Except Failure Unit × Session =>
      (ran.1, { r with session := ran.2 })) hsame

theorem Action.exec_forM_congr {c : Call} {actions : List Action} {r : Run}
    (hagree : ∀ step t, Action.AskAll again step t c actions r →
      exec (other step) t = exec (again step) t) :
    exec (actions.forM (Action.run other c)) r = exec (actions.forM (Action.run again c)) r := by
  induction actions generalizing r with
  | nil => rfl
  | cons action actions ih =>
    have hfirst : exec (action.run other c) r = exec (action.run again c) r :=
      Action.exec_run_congr fun step t hasks => hagree step t (.first hasks)
    exact exec_bind_congr hfirst fun _ r' hdone =>
      ih fun step t hasks => hagree step t (.later hdone hasks)

theorem Generator.exec_call_congr {g : Generator} {theme : Theme} {sink : Sink} {start : Int}
    {s : Session}
    (hagree : ∀ step t, g.Asks again step t theme sink start s →
      exec (other step) t = exec (again step) t) :
    exec (g.call other theme sink start) s = exec (g.call again theme sink start) s := by
  rw [exec_call, exec_call]
  cases hbody : g.body with
  | base => rfl
  | compiled cls => rfl
  | script actions =>
    simp only [Generator.Body.run]
    rw [Action.exec_forM_congr fun step t hasks => hagree step t ⟨actions, hbody, hasks⟩]

theorem Provider.exec_append_congr {b : Nat} {theme : Theme} {g : Generator} {start : Int}
    {s : Session}
    (hagree : ∀ step t, AppendAsks again step t b theme g start s →
      exec (other step) t = exec (again step) t) :
    exec (append other b theme g start) s = exec (append again b theme g start) s := by
  cases hstored : s.backend b with
  | memory css edition =>
    simp only [AppendAsks, hstored] at hagree
    simp only [append, exec_get_bind, hstored]
    exact Generator.exec_call_congr hagree
  | file name =>
    simp only [AppendAsks, hstored] at hagree
    simp only [append, exec_get_bind, hstored]
    refine exec_bind_congr rfl fun opening t hopened => ?_
    obtain ⟨hopens, rfl⟩ := exec_ofExcept_eq_ok.1 hopened
    have hsame := Generator.exec_call_congr (s := { s with files := opening.1 }) fun step t hasks =>
      hagree step t ⟨opening.1, opening.2, mapError_eq_ok.1 hopens, hasks⟩
    rw [exec_modify_bind, exec_modify_bind]
    exact exec_bind_congr hsame fun _ _ _ => rfl

theorem Provider.exec_replayAll_congr {theme : Theme} {rs : List Registration} {s : Session}
    (hagree : ∀ step t, ReplayAsks again step t theme rs s →
      exec (other step) t = exec (again step) t) :
    exec (replayAll other theme rs) s = exec (replayAll again theme rs) s := by
  induction rs generalizing s with
  | nil => rfl
  | cons r rs ih =>
    have hfirst : exec (replay other theme r) s = exec (replay again theme r) s :=
      exec_bind_congr (Generator.exec_call_congr fun step t hasks => hagree step t (.first hasks))
        fun _ _ _ => rfl
    refine exec_bind_congr hfirst fun text s' hdone => ?_
    exact exec_bind_congr (ih fun step t hasks => hagree step t (.later hdone hasks))
      fun _ _ _ => rfl

section
variable {P : Session → Prop} (hheard : ∀ l e t, P t → P (t.hear l e))
  (hkept : ∀ step, Keeps P (again step))
  (hagree : ∀ step t, P t → exec (other step) t = exec (again step) t)
include hkept

theorem keeps_reaction_of (reaction : Reaction) : Keeps P (reaction.run again) := by
  cases reaction with
  | raise kind text => exact keeps_throw _
  | perform step => exact (hkept step).discard

include hagree

theorem Reaction.exec_forM_congr {s : Session} (reactions : List Reaction) (h : P s) :
    exec (reactions.forM (Reaction.run other)) s =
      exec (reactions.forM (Reaction.run again)) s := by
  induction reactions generalizing s with
  | nil => rfl
  | cons reaction reactions ih =>
    have hafter := keeps_reaction_of hkept reaction s h
    refine exec_bind_congr (Reaction.exec_run_congr fun step _ => hagree step s h)
      fun _ t hdone => ?_
    rw [hdone] at hafter
    exact ih hafter

include hheard

theorem exec_callListeners_congr {s : Session} (e : Event) (ls : List String) (h : P s) :
    exec (callListeners other e ls) s = exec (callListeners again e ls) s := by
  induction ls generalizing s with
  | nil => rfl
  | cons l ls ih =>
    have hhears := hheard l e s h
    rw [callListeners, callListeners, exec_modify_bind, exec_modify_bind, exec_get_bind,
      exec_get_bind]
    have hreacts :
        Keeps P ((((s.hear l e).listeners.lookup l).getD []).forM (Reaction.run again)) :=
      keeps_forM fun reaction _ => keeps_reaction_of hkept reaction
    have hafter := hreacts _ hhears
    refine exec_bind_congr (Reaction.exec_forM_congr hkept hagree _ hhears) fun _ t hdone => ?_
    rw [hdone] at hafter
    exact ih hafter

theorem exec_announce_congr {s : Session} (e : Event) (h : P s) :
    exec (announce other e) s = exec (announce again e) s := by
  have hafter := keeps_listeners (fun l => hheard l e) (fun _ _ _ _ step _ => hkept step)
    (s.bus.listeners .all) s h
  rw [announce, announce, exec_get_bind, exec_get_bind]
  refine exec_bind_congr (exec_callListeners_congr hheard hkept hagree e _ h) fun _ t hdone => ?_
  rw [hdone] at hafter
  rw [exec_get_bind, exec_get_bind]
  exact exec_callListeners_congr hheard hkept hagree e _ hafter

end

end

section
variable {again other : Step → Act Outcome} {s : Session} {i : Nat}
  (hnested : ∀ (s₀ : Session) (step : Step), Keeps s₀.Continues (again step))
  (hidle : (s.provider i).busy = false)
  (htold : (s.provider i).onBus = true → ∀ step t, (t.provider i).busy = false →
    exec (other step) t = exec (again step) t)
include hnested hidle htold

/-- Listeners are called while the provider is idle. -/
theorem Provider.exec_log_tell_congr {t : Session} (hlater : s.Continues t)
    (hbus : (t.provider i).onBus = (s.provider i).onBus) (message : String) (e : Event) :
    exec (do Provider.log message; Provider.tell other i e) t =
      exec (do Provider.log message; Provider.tell again i e) t := by
  have hsame :
      (((t.addLogs [⟨.debug, logger, message⟩]).provider i).onBus) = (s.provider i).onBus := hbus
  rw [log, exec_modify_bind, exec_modify_bind, tell, tell, exec_get_bind, exec_get_bind, hsame]
  split
  · rename_i honBus
    exact exec_announce_congr (P := s.Continues) (fun _ _ _ h => h.same rfl rfl) (hnested s)
      (fun step t h => htold honBus step t ((h.each i).idle hidle)) e (hlater.same rfl rfl)
  · rfl

theorem Provider.exec_commit_congr {t : Session} (hlater : s.Continues t)
    (hunmoved : t.provider i = s.provider i) (theme : Theme) (css : Text) :
    exec (commit other i theme css) t = exec (commit again i theme css) t := by
  rw [commit, commit, exec_get_bind, exec_get_bind]
  refine exec_bind_congr rfl fun _ u hreplaced => ?_
  obtain ⟨hproviders, hids⟩ := keeps_providers_replaceAll (t.provider i).backend css t ⟨rfl, rfl⟩
  rw [hreplaced] at hproviders hids
  have hsame : u.provider i = s.provider i := by
    rw [← hunmoved, Session.provider, Session.provider, hproviders]
  have hstill : s.Continues u := hlater.same hproviders hids
  rw [exec_modify_bind, exec_modify_bind, tellReplaced, tellReplaced, exec_get_bind, exec_get_bind]
  refine exec_log_tell_congr hnested hidle htold ?_ ?_ _ _
  · exact hstill.trans (hstill.placed.continues_modify
      ⟨by simp [hsame, hidle], fun hidle => hidle, fun _ _ hknown => hknown⟩)
  · rcases u.provider_modifyProvider i i fun p => { p with theme := theme } with
      hkept | ⟨-, hchanged⟩
    · rw [hkept, hsame]
    · rw [hchanged, hsame]

variable (hplaced : s.Placed) (hi : i < s.providers.length)
include hplaced hi

theorem Provider.exec_mount_congr {g : Generator}
    (hasked : ∀ step t, (s.provider i).registered? g = none →
      AppendAsks again step t (s.provider i).backend (s.provider i).theme g (s.provider i).counter
        (s.modifyProvider i fun p => { p with busy := true }) →
      exec (other step) t = exec (again step) t) :
    exec (mount other i g) s = exec (mount again i g) s := by
  have hmounting := mounting again hi g
  have hmeanwhile := keeps_continues_append hnested (s.provider i).backend (s.provider i).theme g
    (s.provider i).counter _ (hplaced.continues_busy i)
  generalize exec (mount again i g) s = done at hmounting
  have htells {t : Session} (hlater : s.Continues t)
      (hbus : (t.provider i).onBus = (s.provider i).onBus) (message : String) (e : Event)
      (start : Int) :
      exec (do log message; tell other i e; return start : Act Int) t =
        exec (do log message; tell again i e; return start : Act Int) t := by
    rw [← bind_assoc, ← bind_assoc]
    exact exec_bind_congr (exec_log_tell_congr hnested hidle htold hlater hbus message e)
      fun _ _ _ => rfl
  cases hmounting with
  | reused hknown =>
    rw [exec_mount_of_registered other hknown]
    exact htells hplaced.continues rfl _ _ _
  | busy habsent hbusy => rw [exec_mount_of_busy other habsent hbusy]
  | refused habsent hidle hran =>
    rw [← exec_append_congr fun step t => hasked step t habsent] at hran
    rw [exec_mount_of_refused other habsent hi hidle hran]
  | failed habsent hidle hran hresult =>
    rw [← exec_append_congr fun step t => hasked step t habsent] at hran
    rw [exec_mount_of_error other habsent hi hidle hran hresult]
  | done habsent hidle hran hresult =>
    rw [hran] at hmeanwhile
    rw [← exec_append_congr fun step t => hasked step t habsent] at hran
    rw [exec_mount_of_done other habsent hi hidle hran hresult]
    refine htells (hmeanwhile.release hi (continues_register hidle habsent _ _ _)) ?_ _ _ _
    have hinside := Nat.lt_of_lt_of_le (by simpa using hi) hmeanwhile.length
    rw [Session.provider_modifyProvider_self _ hinside, hmeanwhile.provider_of_busy hi]
    rfl

omit hnested htold hplaced in
theorem Provider.exec_renderWith_congr {theme : Theme}
    (hasked : ∀ step t, ReplayAsks again step t theme (s.provider i).registrations
      (s.modifyProvider i fun p => { p with busy := true }) →
      exec (other step) t = exec (again step) t) :
    exec (renderWith other i theme) s = exec (renderWith again i theme) s := by
  rw [exec_renderWith_of_idle other theme hi hidle, exec_renderWith_of_idle again theme hi hidle,
    exec_replayAll_congr hasked]

theorem Provider.exec_updateTheme_congr {theme : Theme}
    (hasked : ∀ step t, theme.isInstanceOf (s.provider i).theme = true →
      (s.provider i).theme.quickSame? theme = some false →
      ReplayAsks again step t theme (s.provider i).registrations
        (s.modifyProvider i fun p => { p with busy := true }) →
      exec (other step) t = exec (again step) t) :
    exec (updateTheme other i theme) s = exec (updateTheme again i theme) s := by
  cases haccepted : theme.isInstanceOf (s.provider i).theme with
  | false =>
    rw [exec_updateTheme_of_wrong other haccepted, exec_updateTheme_of_wrong again haccepted]
  | true =>
    cases hcompared : (s.provider i).theme.quickSame? theme with
    | none =>
      rw [exec_updateTheme_of_incomparable other haccepted hcompared,
        exec_updateTheme_of_incomparable again haccepted hcompared]
    | some same =>
      cases same with
      | true =>
        rw [exec_updateTheme_of_same other haccepted hcompared,
          exec_updateTheme_of_same again haccepted hcompared]
        exact exec_log_tell_congr hnested hidle htold hplaced.continues rfl _ _
      | false =>
        rw [exec_updateTheme_of_differs other haccepted hcompared,
          exec_updateTheme_of_differs again haccepted hcompared]
        obtain ⟨hrendered, hunmoved⟩ := continues_renderWith hnested hplaced hi theme
        refine exec_bind_congr (exec_renderWith_congr hidle hi fun step t =>
          hasked step t haccepted hcompared) fun css t hdone => ?_
        rw [hdone] at hrendered hunmoved
        exact exec_commit_congr hnested hidle htold hrendered hunmoved theme css

/-- All that an operation gets from outside is what its generators ask for while it runs, and what
listeners do when the provider is idle. -/
theorem Operation.exec_run_congr {op : Operation}
    (hasked : ∀ step t, op.Asks again step t i s → exec (other step) t = exec (again step) t) :
    exec (op.run other i) s = exec (op.run again i) s := by
  cases op with
  | mount g new =>
    have hmounts := Provider.exec_mount_congr hnested hidle htold hplaced hi
      fun step t habsent hasks => hasked step t ⟨habsent, hasks⟩
    exact exec_bind_congr hmounts fun _ _ _ => rfl
  | updateTheme theme =>
    have hswitches := Provider.exec_updateTheme_congr hnested hidle htold hplaced hi
      fun step t haccepted hdiffers hasks => hasked step t ⟨haccepted, hdiffers, hasks⟩
    exact exec_bind_congr hswitches fun _ _ _ => rfl
  | render =>
    have hrenders : exec (Provider.render other i) s = exec (Provider.render again i) s := by
      rw [Provider.render, Provider.render, exec_get_bind, exec_get_bind]
      exact Provider.exec_renderWith_congr hidle hi hasked
    exact exec_bind_congr hrenders fun _ _ _ => rfl

end

/-! ### What is answered -/

/-- What an operation comes to that is asked of a busy provider. Where it would run generators it is
refused; where there is nothing to do, or the theme cannot be taken, all is as with an idle one. -/
inductive Operation.Contained (again : Step → Act Outcome) (i : Nat) (t : Session) :
    Operation → Except Failure Outcome × Session → Prop where
  | reused {g : Generator} {new : Int → Except Failure Outcome} {r : Registration}
      {result : Except Failure Int} {u : Session}
      (hknown : (t.provider i).registered? g = some r)
      (htold : exec (Provider.tellReused again i g r.start) t = (result, u)) :
      Contained again i t (.mount g new) (result.bind fun _ => new r.start, u)
  | unmounted {g : Generator} {new : Int → Except Failure Outcome}
      (habsent : (t.provider i).registered? g = none) :
      Contained again i t (.mount g new) (.error .reentrant, t)
  | wrongTheme {theme : Theme} (hrefused : theme.isInstanceOf (t.provider i).theme = false) :
      Contained again i t (.updateTheme theme)
        (.error (.wrongTheme (t.provider i).theme.typeName theme.typeName), t)
  | incomparable {theme : Theme} {v : Json} (hbare : (t.provider i).theme = .plain v) :
      Contained again i t (.updateTheme theme)
        (.error (.eval (.noAttribute v.typeName "fast_cmp")), t)
  | unchanged {theme : Theme} {result : Except Failure Unit} {u : Session}
      (hsame : (t.provider i).theme.quickSame? theme = some true)
      (htold : exec (Provider.tellUnchanged again i theme) t = (result, u)) :
      Contained again i t (.updateTheme theme) (result.map fun _ => .nothing, u)
  | changed {theme : Theme} (haccepted : theme.isInstanceOf (t.provider i).theme = true)
      (hdiffers : (t.provider i).theme.quickSame? theme = some false) :
      Contained again i t (.updateTheme theme) (.error .reentrant, t)
  | render : Contained again i t .render (.error .reentrant, t)

theorem Theme.quickSame?_eq_none {a b : Theme} (h : a.quickSame? b = none) :
    ∃ v, a = .plain v := by
  cases a with
  | plain v => exact ⟨v, rfl⟩
  | custom k c => cases b <;> cases h
  | empty => cases h
  | mapping d => cases h
  | derived c d => cases h

section
variable {again : Step → Act Outcome} {i : Nat} {t : Session}

theorem Operation.contained_updateTheme (hbusy : (t.provider i).busy = true) (theme : Theme) :
    Contained again i t (.updateTheme theme)
      (exec (Operation.run again i (.updateTheme theme)) t) := by
  rw [Operation.run]
  cases haccepted : theme.isInstanceOf (t.provider i).theme with
  | false =>
    rw [exec_bind_of_error (Provider.exec_updateTheme_of_wrong again haccepted)]
    exact .wrongTheme haccepted
  | true =>
    cases hcompared : (t.provider i).theme.quickSame? theme with
    | none =>
      obtain ⟨v, hbare⟩ := Theme.quickSame?_eq_none hcompared
      rw [exec_bind_of_error (Provider.exec_updateTheme_of_incomparable again haccepted hcompared),
        hbare]
      exact .incomparable hbare
    | some same =>
      cases same with
      | true =>
        rw [exec_bind, Provider.exec_updateTheme_of_same again haccepted hcompared]
        cases htold : exec (Provider.tellUnchanged again i theme) t with
        | mk result u =>
          have hanswer := Contained.unchanged hcompared htold
          cases result <;> exact hanswer
      | false =>
        rw [exec_bind_of_error (Provider.exec_updateTheme_of_error again haccepted hcompared
          (show exec (Provider.renderWith again i theme) t = (.error .reentrant, t) from
            Provider.exec_exclusive_of_busy _ hbusy))]
        exact .changed haccepted hcompared

/-- A busy provider runs no generator. -/
theorem Operation.contained_of_busy (again : Step → Act Outcome)
    (hbusy : (t.provider i).busy = true) (op : Operation) :
    op.Contained again i t (exec (op.run again i) t) := by
  cases op with
  | mount g new =>
    cases hfound : (t.provider i).registered? g with
    | some r =>
      rw [Operation.run, Provider.exec_mountWith_of_registered again hfound new]
      exact .reused hfound rfl
    | none =>
      rw [Operation.run, Provider.mountWith,
        exec_bind_of_error (Provider.exec_mount_of_busy again hfound hbusy)]
      exact .unmounted hfound
  | updateTheme theme => exact contained_updateTheme hbusy theme
  | render =>
    rw [Operation.run, Provider.render, bind_assoc, exec_get_bind, exec_bind_of_error
      (show exec (Provider.renderWith again i _) t = (.error .reentrant, t) from
        Provider.exec_exclusive_of_busy _ hbusy)]
    exact .render

/-- Where listeners only hear, what is asked of a busy provider changes nothing else. -/
theorem Operation.Contained.of_passive {op : Operation} {done : Except Failure Outcome × Session}
    (h : op.Contained again i t done) (hpassive : ∀ entry ∈ t.listeners, entry.2 = []) :
    ∃ logs heard, done.2 = { t with logs := logs, heard := heard } := by
  cases h with
  | unmounted | wrongTheme | incomparable | changed | render => exact ⟨t.logs, t.heard, rfl⟩
  | @reused g _ r _ _ hknown htold =>
    obtain ⟨logs, heard, hquiet⟩ := Provider.exec_tellReused_of_passive again i g hpassive r.start
    exact ⟨logs, heard, congrArg Prod.snd (htold.symm.trans hquiet)⟩
  | @unchanged theme _ _ hsame htold =>
    obtain ⟨logs, heard, hquiet⟩ := Provider.exec_log_tell_of_passive again i hpassive
      "Theme unchanged; stylesheet kept" (.themeUnchanged theme)
    exact ⟨logs, heard, congrArg Prod.snd (htold.symm.trans hquiet)⟩

end

/-! ### Runs -/

/-- An operation in a run, with any generators. All that it gets from outside is what its generators
ask for, and what listeners do when the provider is idle. Whatever generators ask of the provider is
asked while the provider is as it was, but busy; it is answered without running a generator and
without a change of the provider, and without any other change but by listeners. After the operation
the provider is idle, so that what comes next is not refused. -/
theorem callbacks_contained (before : List Step) {i : Nat}
    (hi : i < (Session.run {} before).providers.length) (depth : Nat) (op : Operation) :
    let s := Session.run {} before
    let again := Step.perform (depth + 1)
    let after := (exec (op.run again i) s).2
    (∀ other : Step → Act Outcome,
      (∀ step t, op.Asks again step t i s → exec (other step) t = exec (again step) t) →
      ((s.provider i).onBus = true → ∀ step t, (t.provider i).busy = false →
        exec (other step) t = exec (again step) t) →
      exec (op.run other i) s = exec (op.run again i) s) ∧
    (∀ step t inner, op.Asks again step t i s → step.Means t i inner →
      let done := exec (again step) t
      t.provider i = { s.provider i with busy := true } ∧
        inner.Contained (Step.perform depth) i t done ∧ done.2.provider i = t.provider i ∧
        ((∀ entry ∈ t.listeners, entry.2 = []) →
          ∃ logs heard, done.2 = { t with logs := logs, heard := heard })) ∧
    (after.provider i).busy = false ∧
    ∀ (α : Type) (act : Act α), (exec (Provider.exclusive i act) after).1 =
      (exec act (after.modifyProvider i fun p => { p with busy := true })).1 := by
  intro s again after
  have hplaced := (Session.placed_empty.continues_run before).placed
  have hstarted : (s.provider i).busy = false := Session.idle_run before i
  have hnested (s₀ : Session) (step : Step) : Keeps s₀.Continues (again step) :=
    keeps_continues_perform _ step
  have hended : (after.provider i).busy = false :=
    ((op.continues_run hnested hplaced hi).each i).idle hstarted
  refine ⟨fun other hasked htold => ?_, fun step t inner hasks hmeans => ?_, hended,
    fun α act => ?_⟩
  · exact op.exec_run_congr hnested hstarted htold hplaced hi hasked
  · have hreached := hasks.continues hnested hplaced
    have hheld := hreached.provider_of_busy hi
    have hbusy : (t.provider i).busy = true := by rw [hheld]
    have hcontained := inner.contained_of_busy (Step.perform depth) hbusy
    rw [← hmeans.exec_run] at hcontained
    have hcontinued := hnested t step t hreached.placed.continues
    exact ⟨hheld, hcontained, (hcontinued.each i).still hbusy, hcontained.of_passive⟩
  · rw [Provider.exec_exclusive act hended]

/-- A generator that writes, takes a slot, tries to render its provider and to switch its theme, and
asks twice for what there is already. -/
def meddler : Generator where
  number := 2
  identity := .key (.whole 2)
  name := "meddler"
  body := .script [.rules "b" 1, .attempt (.react (.perform (.render "p"))),
    .attempt (.react (.perform (.updateTheme "p" (.color (.text "blue"))))),
    .react (.perform (.mountGenerator "p" "first")),
    .react (.perform (.updateTheme "p" (.color (.text "red"))))]

def beforeMeddling : List Step := [
  .newProvider "p" .memory (.color (.text "red")) true,
  .subscribe .all "ear" [] "",
  .define "first" (.whole 1) "first" [.rules "a" 2],
  .mountGenerator "p" "first"]

theorem callbacks_contained_meddler :
    let s := Session.run {} beforeMeddling
    let mount : Operation := .mount meddler fun start => .ok (.number start)
    (exec (mount.run (Step.perform 100) 0) s).1.isOk = true ∧
    ((exec (mount.run (Step.perform 100) 0) s).2.provider 0).busy = false ∧
    ∃ t, mount.Asks (Step.perform 100) (.updateTheme "p" (.color (.text "blue"))) t 0 s ∧
      t.provider 0 = { s.provider 0 with busy := true } ∧
      (Operation.updateTheme (.color (.text "blue"))).Contained (Step.perform 99) 0 t
        (exec (Step.perform 100 (.updateTheme "p" (.color (.text "blue")))) t) := by
  intro s mount
  obtain ⟨-, hasked, hidle, -⟩ := callbacks_contained beforeMeddling (i := 0) (by decide +kernel) 99
    mount
  refine ⟨by decide +kernel, hidle, ?_⟩
  have hasks : ∃ t, mount.Asks (Step.perform 100) (.updateTheme "p" (.color (.text "blue"))) t 0 s ∧
      t.providerIds.lookup "p" = some 0 :=
    ⟨_, ⟨rfl, _, rfl, .later rfl (.later rfl (.first (.attempt (.perform rfl))))⟩, rfl⟩
  obtain ⟨t, hasks, hnamed⟩ := hasks
  obtain ⟨hheld, hcontained, -⟩ := hasked _ t _ hasks (.updateTheme _ hnamed)
  exact ⟨t, hasks, hheld, hcontained⟩

end ScopedCss

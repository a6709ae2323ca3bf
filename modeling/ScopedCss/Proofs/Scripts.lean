import ScopedCss.Proofs.CompiledCalls
import ScopedCss.Proofs.Outcomes

/-!
Runs of generators, those written by hand included. A run reaches its session in three ways only:
its call is counted, it writes to its sink, and it asks for steps. What these keep, the run keeps,
whether it fails or not. A run that asks for no steps does the same to a page as it does to
collected text.
-/
namespace ScopedCss

variable {again : Step → Act Outcome} {P : Session → Prop}

/-- Actions are built of others by running them on one call only or by noting their failure. -/
@[elab_as_elim, induction_eliminator]
theorem Action.inductionOn {motive : Action → Prop} (write : ∀ text, motive (.write text))
    (rules : ∀ label count, motive (.rules label count))
    (advance : ∀ slots, motive (.advance slots)) (advanceByCalls : motive .advanceByCalls)
    (onCall : ∀ number action, motive action → motive (.onCall number action))
    (attempt : ∀ action, motive action → motive (.attempt action))
    (react : ∀ reaction, motive (.react reaction)) : ∀ action, motive action
  | .write text => write text
  | .rules label count => rules label count
  | .advance slots => advance slots
  | .advanceByCalls => advanceByCalls
  | .onCall number action =>
    onCall number action
      (inductionOn write rules advance advanceByCalls onCall attempt react action)
  | .attempt action =>
    attempt action (inductionOn write rules advance advanceByCalls onCall attempt react action)
  | .react reaction => react reaction

/-! ### What is asked for -/

/-- The steps that an action may ask for. -/
def Action.steps : Action → List Step
  | .onCall _ a | .attempt a => a.steps
  | .react (.perform step) => [step]
  | _ => []

/-- The steps that a generator may ask for. -/
def Generator.Body.steps : Generator.Body → List Step
  | .script actions => actions.flatMap Action.steps
  | _ => []

/-- A session after a text went to a sink. -/
def Sink.put (sink : Sink) (text : Text) (s : Session) : Session :=
  match sink with
  | .collected => s
  | .page b edition => s.modifyBackend b (Backend.write edition text)

theorem Run.session_write (r : Run) (sink : Sink) (text : Text) :
    (r.write sink text).session = sink.put text r.session := by
  cases sink <;> rfl

/-! ### What runs keep -/

theorem Keeps.tryCatch {ε σ α : Type} {Q : σ → Prop} {m : ExceptT ε (StateM σ) α}
    {f : ε → ExceptT ε (StateM σ) α} (hm : Keeps Q m) (hf : ∀ e, Keeps Q (f e)) :
    Keeps Q (tryCatch m f) := by
  intro s hs
  have hkept := hm s hs
  rw [exec_tryCatch]
  cases hrun : exec m s with
  | mk r t =>
    rw [hrun] at hkept
    cases r with
    | ok a => exact hkept
    | error e => exact hf e t hkept

theorem keeps_ofAct {α : Type} {act : Act α} (h : Keeps P act) :
    Keeps (fun r : Run => P r.session) (Running.ofAct act) := fun r hr => h r.session hr

theorem keeps_action {c : Call} (hput : ∀ text s, P s → P (c.sink.put text s)) {a : Action}
    (hasked : ∀ step ∈ a.steps, Keeps P (again step)) :
    Keeps (fun r : Run => P r.session) (a.run again c) := by
  have hwritten (text : Text) : Keeps (fun r : Run => P r.session)
      (modify (·.write c.sink text) : Running PUnit) := by
    refine keeps_modify fun r hr => ?_
    rw [Run.session_write]
    exact hput text r.session hr
  induction a with
  | write text => exact hwritten text
  | rules label count =>
    exact keeps_get_bind fun _ _ => Keeps.bind (hwritten _) fun _ => keeps_modify fun _ hr => hr
  | advance slots => exact keeps_modify fun _ hr => hr
  | advanceByCalls => exact keeps_modify fun _ hr => hr
  | onCall number a ih =>
    rw [Action.run]
    split
    · exact ih hasked
    · exact keeps_pure _
  | attempt a ih => exact (ih hasked).tryCatch fun e => hwritten _
  | react reaction =>
    cases reaction with
    | raise kind text => exact keeps_ofAct (keeps_throw _)
    | perform step => exact keeps_ofAct (hasked step List.mem_cons_self).discard

theorem keeps_body {c : Call} (hput : ∀ text s, P s → P (c.sink.put text s))
    {body : Generator.Body} (hasked : ∀ step ∈ body.steps, Keeps P (again step)) :
    Keeps (fun r : Run => P r.session) (body.run again c) := by
  cases body with
  | base => exact keeps_throw _
  | compiled cls =>
    intro r hr
    rw [exec_run_compiled]
    show P (r.write c.sink _).session
    rw [Run.session_write]
    exact hput _ _ hr
  | script actions =>
    exact keeps_forM fun a hmember => keeps_action hput fun step hasking =>
      hasked step (List.mem_flatMap.2 ⟨a, hmember, hasking⟩)

/-- A call keeps what is kept by its count, by its sink and by the steps that it asks for. -/
theorem keeps_call {g : Generator} {sink : Sink} (hcounted : ∀ n s, P s → P (s.countCall n))
    (hput : ∀ text s, P s → P (sink.put text s))
    (hasked : ∀ step ∈ g.body.steps, Keeps P (again step)) (theme : Theme) (start : Int) :
    Keeps P (g.call again theme sink start) :=
  fun s hs => keeps_body hput hasked _ (hcounted _ s hs)

namespace Provider

variable {theme : Theme}

/-- Appending to a stylesheet keeps what is kept by the generator and by the files. -/
theorem keeps_append {g : Generator} {start : Int}
    (hfiled : ∀ files s, P s → P { s with files := files })
    (hcalled : ∀ sink, Keeps P (g.call again theme sink start)) (b : Nat) :
    Keeps P (append again b theme g start) := by
  refine keeps_get_bind fun s _ => ?_
  split
  · exact hcalled _
  · refine keeps_get_bind fun _ _ => Keeps.bind (keeps_ofExcept _) fun opened => ?_
    refine Keeps.bind (keeps_modify (hfiled _)) fun _ => Keeps.bind (hcalled _) fun called => ?_
    split
    · exact keeps_pure _
    · exact Keeps.bind (keeps_modify fun s => hfiled _ s) fun _ => keeps_pure _

theorem keeps_replay {r : Registration}
    (hcalled : Keeps P (r.generator.call again theme .collected r.start)) :
    Keeps P (replay again theme r) := by
  refine Keeps.bind hcalled fun c => Keeps.bind (keeps_ofExcept _) fun _ => ?_
  split
  · exact keeps_throw _
  · exact keeps_pure _

theorem keeps_replayAll {rs : List Registration}
    (hcalled : ∀ r ∈ rs, Keeps P (r.generator.call again theme .collected r.start)) :
    Keeps P (replayAll again theme rs) := by
  induction rs with
  | nil => exact keeps_pure _
  | cons r rs ih =>
    refine Keeps.bind (keeps_replay (hcalled r List.mem_cons_self)) fun _ => ?_
    exact Keeps.bind (ih fun q hmember => hcalled q (List.mem_cons_of_mem r hmember)) fun _ =>
      keeps_pure _

end Provider

/-! ### What listeners keep -/

section
variable {e : Event} (hheard : ∀ l s, P s → P (s.hear l e))
  (hasked : ∀ s, P s → ∀ entry ∈ s.listeners, ∀ step, .perform step ∈ entry.2 →
    Keeps P (again step))
include hheard hasked

theorem keeps_listeners (ls : List String) : Keeps P (callListeners again e ls) := by
  induction ls with
  | nil => exact keeps_pure _
  | cons l ls ih =>
    refine Keeps.bind (keeps_modify (hheard l)) fun _ => keeps_get_bind fun s h => ?_
    refine Keeps.bind (keeps_forM fun r hmember => ?_) fun _ => ih
    cases hfound : s.listeners.lookup l with
    | none =>
      rw [hfound] at hmember
      cases hmember
    | some reactions =>
      rw [hfound] at hmember
      cases r with
      | raise kind text => exact keeps_throw _
      | perform step =>
        exact (hasked s h (l, reactions) (mem_of_lookup_eq_some hfound) step hmember).discard

/-- Telling an event keeps what is kept by hearing it and by the steps that listeners ask for. -/
theorem keeps_announce : Keeps P (announce again e) :=
  keeps_get_bind fun _ _ => Keeps.bind (keeps_listeners hheard hasked _) fun _ =>
    keeps_get_bind fun _ _ => keeps_listeners hheard hasked _

theorem keeps_tell_of (i : Nat) : Keeps P (Provider.tell again i e) := by
  refine keeps_get_bind fun s _ => ?_
  split
  · exact keeps_announce hheard hasked
  · exact keeps_pure _

end

/-! ### Runs that ask for nothing -/

theorem exec_discard {ε σ α : Type} (m : ExceptT ε (StateM σ) α) (s : σ) :
    exec (discard m) s = ((exec m s).1.map fun _ => (), (exec m s).2) := by
  show exec (m >>= fun _ => pure ()) s = _
  rw [exec_bind]
  cases exec m s with
  | mk r t => cases r <;> rfl

theorem exec_forM_cons {ε σ α : Type} (f : α → ExceptT ε (StateM σ) PUnit) (a : α) (as : List α)
    (s : σ) :
    exec ((a :: as).forM f) s =
      match exec (f a) s with
      | (.ok _, t) => exec (as.forM f) t
      | (.error e, t) => (.error e, t) := by
  show exec (f a >>= fun _ => as.forM f) s = _
  rw [exec_bind]
  cases exec (f a) s with
  | mk r t => cases r <;> rfl

theorem Session.modifyBackend_write_write (s : Session) (b edition : Nat) (first last : Text) :
    (s.modifyBackend b (Backend.write edition first)).modifyBackend b (Backend.write edition last) =
      s.modifyBackend b (Backend.write edition (first ++ last)) := by
  have hboth : Backend.write edition last ∘ Backend.write edition first =
      Backend.write edition (first ++ last) := by
    funext page
    cases page with
    | file name => rfl
    | memory css n =>
      simp only [Function.comp, Backend.write]
      split <;> simp [Text.append_assoc]
  simp only [Session.modifyBackend, List.modify_modify_eq, hboth]

/-- What is written to one sink in a run is written to another one in its image; counters are the
same. -/
structure Run.Reflects (image : Run → Run) (sink other : Sink) : Prop where
  write : ∀ r text, image (r.write sink text) = (image r).write other text
  counter : ∀ r, (image r).counter = r.counter
  count : ∀ r n, image { r with counter := n } = { image r with counter := n }

section
variable {theme : Theme} {number : Nat} {image : Run → Run} {sink other : Sink}

theorem Run.Reflects.advance (hreflects : Run.Reflects image sink other) (r : Run) (slots : Int) :
    image (r.advance slots) = (image r).advance slots := by
  rw [Run.advance, Run.advance, hreflects.counter]
  exact hreflects.count r _

theorem exec_action_image (hreflects : Run.Reflects image sink other) {a : Action}
    (hasks : a.steps = []) (r : Run) :
    exec (a.run again ⟨theme, other, number⟩) (image r) =
      let ran := exec (a.run again ⟨theme, sink, number⟩) r
      (ran.1, image ran.2) := by
  induction a generalizing r with
  | write text => simp only [Action.run, exec_modify, hreflects.write]
  | rules label count =>
    rw [Action.run, Action.run, exec_get_bind, exec_get_bind, exec_modify_bind, exec_modify_bind,
      exec_modify, exec_modify, hreflects.counter]
    dsimp only
    rw [hreflects.advance, hreflects.write]
  | advance slots =>
    rw [Action.run, Action.run, exec_modify, exec_modify]
    dsimp only
    rw [hreflects.advance]
  | advanceByCalls =>
    rw [Action.run, Action.run, exec_modify, exec_modify]
    dsimp only
    rw [hreflects.advance]
  | onCall n a ih =>
    simp only [Action.run]
    split
    · exact ih hasks r
    · rfl
  | attempt a ih =>
    simp only [Action.run, exec_tryCatch]
    rw [ih hasks r]
    cases exec (a.run again ⟨theme, sink, number⟩) r with
    | mk result r' =>
      cases result with
      | ok _ => rfl
      | error e => simp only [exec_modify, hreflects.write]
  | react reaction =>
    cases reaction with
    | raise kind text => rfl
    | perform step => cases hasks

/-- A generator that asks for nothing does to the image of a run what it does to the run. -/
theorem exec_body_image (hreflects : Run.Reflects image sink other) {body : Generator.Body}
    (hasks : body.steps = []) (r : Run) :
    exec (body.run again ⟨theme, other, number⟩) (image r) =
      let ran := exec (body.run again ⟨theme, sink, number⟩) r
      (ran.1, image ran.2) := by
  cases body with
  | base => rfl
  | compiled cls =>
    rw [exec_run_compiled, exec_run_compiled, hreflects.counter]
    dsimp only
    rw [hreflects.count (r.write sink _), hreflects.write]
  | script actions =>
    simp only [Generator.Body.run]
    induction actions generalizing r with
    | nil => rfl
    | cons a actions ih =>
      obtain ⟨hown, hothers⟩ := List.append_eq_nil_iff.1 hasks
      simp only [exec_forM_cons, exec_action_image hreflects hown]
      cases exec (a.run again ⟨theme, sink, number⟩) r with
      | mk result r' =>
        cases result with
        | ok _ => exact ih r' hothers
        | error e => rfl

end

/-- A run whose collected text is on a page instead. -/
def Run.onPage (b edition : Nat) (r : Run) : Run :=
  ⟨r.counter, "", r.session.modifyBackend b (Backend.write edition r.collected)⟩

theorem Run.reflects_onPage (b edition : Nat) :
    Run.Reflects (Run.onPage b edition) .collected (.page b edition) where
  write r text := by simp only [Run.onPage, Run.write, Session.modifyBackend_write_write]
  counter _ := rfl
  count _ _ := rfl

/-- Text is collected in every session alike. -/
theorem Run.reflects_session (s : Session) :
    Run.Reflects (fun r => { r with session := s }) .collected .collected :=
  ⟨fun _ _ => rfl, fun _ => rfl, fun _ _ => rfl⟩

section
variable {g : Generator} (hasks : g.body.steps = [])
include hasks

/-- Collecting text changes nothing but the count of calls. -/
theorem exec_call_collected_snd (again : Step → Act Outcome) (theme : Theme) (start : Int)
    (s : Session) :
    (exec (g.call again theme .collected start) s).2 = s.countCall g.number := by
  have hstill : Keeps (fun r : Run => r.session = s.countCall g.number)
      (g.body.run again ⟨theme, .collected, s.callCount g.number + 1⟩) :=
    keeps_body (P := (· = s.countCall g.number))
      (c := ⟨theme, .collected, s.callCount g.number + 1⟩) (fun _ _ h => h) (by simp [hasks])
  exact hstill _ rfl

/-- What is collected depends on the session by the count of calls only. -/
theorem exec_call_collected_fst {theme : Theme} {start : Int} {s t : Session}
    (hcalls : t.callCount g.number = s.callCount g.number) :
    (exec (g.call again theme .collected start) t).1 =
      (exec (g.call again theme .collected start) s).1 := by
  rw [exec_call, exec_call, hcalls]
  have hsame : exec (g.body.run again ⟨theme, .collected, s.callCount g.number + 1⟩)
      ⟨start, "", t.countCall g.number⟩ = _ :=
    exec_body_image (Run.reflects_session (t.countCall g.number)) hasks
      ⟨start, "", s.countCall g.number⟩
  dsimp only at hsame ⊢
  rw [hsame]

/-- What a page gets is what would be collected. -/
theorem exec_call_page {called : Called} {t : Session} (b edition : Nat) {theme : Theme}
    {start : Int} {s : Session}
    (hcollected : exec (g.call again theme .collected start) s = (.ok called, t)) :
    exec (g.call again theme (.page b edition) start) s =
      (.ok ⟨called.result, called.counter, ""⟩,
        t.modifyBackend b (Backend.write edition called.collected)) := by
  have hblank : Run.onPage b edition ⟨start, "", s.countCall g.number⟩ =
      ⟨start, "", s.countCall g.number⟩ := by
    rw [Run.onPage, Session.modifyBackend_write_empty]
  rw [exec_call] at hcollected ⊢
  rw [← hblank, exec_body_image (Run.reflects_onPage b edition) hasks]
  cases hcollected
  rfl

end

end ScopedCss

import ScopedCss.Proofs.FileEnds
import ScopedCss.Proofs.History
import ScopedCss.Proofs.Reentrancy

/-!
One stylesheet in memory and one in a file. Two sessions are followed side by side that differ in
where a provider keeps its stylesheet and in nothing else. A generator writes to a page as it goes
and to a file when it is done, and the whole is replaced in other ways too, but after every
operation the text is the same. Main statement: no operation can tell the two apart, and the file is
read as the text of the page with its line ends unified.
-/
namespace ScopedCss

/-! ### Acts side by side -/

/-- What two acts come to is the same, and the sessions after them are related. -/
def Concur {α : Type} (R : Session → Session → Prop) (x y : Except Failure α × Session) : Prop :=
  x.1 = y.1 ∧ R x.2 y.2

section
variable {α β : Type} {R : Session → Session → Prop} {s t : Session}

theorem concur_pure (h : R s t) (a : α) : Concur R (exec (pure a : Act α) s) (exec (pure a) t) :=
  ⟨rfl, h⟩

theorem Concur.bind {m n : Act α} {f f' : α → Act β} (hfirst : Concur R (exec m s) (exec n t))
    (hrest : ∀ a u v, R u v → Concur R (exec (f a) u) (exec (f' a) v)) :
    Concur R (exec (m >>= f) s) (exec (n >>= f') t) := by
  rw [exec_bind, exec_bind]
  obtain ⟨hsame, hrelated⟩ := hfirst
  cases hran : exec m s with
  | mk result u =>
    cases hother : exec n t with
    | mk result' v =>
      rw [hran, hother] at hsame hrelated
      cases hsame
      cases result with
      | ok a => exact hrest a u v hrelated
      | error e => exact ⟨rfl, hrelated⟩

/-- Sessions with one bus tell an event alike, if their listeners do. -/
theorem concur_announce {again : Step → Act Outcome}
    (hbus : ∀ s t, R s t → t.bus = s.bus ∧ t.listeners = s.listeners)
    (hheard : ∀ l e s t, R s t → R (s.hear l e) (t.hear l e))
    (halike : ∀ s t, R s t → ∀ entry ∈ s.listeners, Concur R
      (exec (entry.2.forM (Reaction.run again)) s) (exec (entry.2.forM (Reaction.run again)) t))
    (h : R s t) (e : Event) : Concur R (exec (announce again e) s) (exec (announce again e) t) := by
  have hcalled : ∀ (ls : List String) s t, R s t →
      Concur R (exec (callListeners again e ls) s) (exec (callListeners again e ls) t) := by
    intro ls
    induction ls with
    | nil => exact fun s t h => concur_pure h ()
    | cons l ls ih =>
      intro s t h
      have h' := hheard l e s t h
      rw [callListeners, exec_modify_bind, exec_modify_bind, exec_get_bind, exec_get_bind,
        (hbus _ _ h').2]
      refine Concur.bind ?_ fun _ => ih
      cases hfound : (s.hear l e).listeners.lookup l with
      | none => exact concur_pure h' ()
      | some reactions =>
        exact halike _ _ h' (l, reactions) (mem_of_lookup_eq_some hfound)
  rw [announce, exec_get_bind, exec_get_bind, (hbus _ _ h).1]
  refine Concur.bind (hcalled _ s t h) fun _ u v h => ?_
  rw [exec_get_bind, exec_get_bind, (hbus _ _ h).1]
  exact hcalled _ u v h

end

/-! ### A page and a file -/

/-- A provider that keeps its stylesheet in memory in one session and in a file in the other, with
the themes that are in use and with the listeners. -/
structure Pairing where
  again : Step → Act Outcome
  provider : Nat
  backend : Nat
  name : String
  themes : Theme → Prop
  listeners : List (String × List Reaction)

/-- A generator that asks for nothing and writes no half of a pair against any of the themes. -/
def Generator.Simple (again : Step → Act Outcome) (themes : Theme → Prop) (g : Generator) : Prop :=
  g.body.steps = [] ∧ ∀ theme, themes theme → ∀ start s called t,
    exec (g.call again theme .collected start) s = (.ok called, t) →
      ∃ text : String, called.collected = text

/-- An action that asks for nothing and writes no half of a pair, if the color is without one. -/
def Action.plain : Action → Bool
  | .write text => text.toString?.isSome
  | .onCall _ a | .attempt a => a.plain
  | .react (.perform _) => false
  | _ => true

section
variable {again : Step → Act Outcome} {theme : Theme}

theorem Text.join_of_strings {ts : List Text} (hplain : ∀ t ∈ ts, ∃ text : String, t = text) :
    ∃ text : String, Text.join ts = text := by
  induction ts with
  | nil => exact ⟨"", rfl⟩
  | cons t ts ih =>
    obtain ⟨first, rfl⟩ := hplain t List.mem_cons_self
    obtain ⟨rest, hsame⟩ := ih fun t hmember => hplain t (List.mem_cons_of_mem _ hmember)
    exact ⟨first ++ rest, by rw [Text.join_cons, hsame, Text.ofString_append]⟩

theorem Action.steps_of_plain {a : Action} (hplain : a.plain = true) : a.steps = [] := by
  induction a with
  | onCall number a ih => exact ih hplain
  | attempt a ih => exact ih hplain
  | react reaction =>
    cases reaction with
    | raise kind text => rfl
    | perform step => cases hplain
  | _ => rfl

theorem keeps_string_action (hcolor : ∃ text : String, theme.colorText = text) {number : Nat}
    {a : Action} (hplain : a.plain = true) :
    Keeps (fun r : Run => ∃ text : String, r.collected = text)
      (a.run again ⟨theme, .collected, number⟩) := by
  have hwritten {text : Text} (hstring : ∃ own : String, text = own) :
      Keeps (fun r : Run => ∃ text : String, r.collected = text)
        (modify (·.write .collected text) : Running PUnit) := by
    obtain ⟨own, rfl⟩ := hstring
    refine keeps_modify fun r hbefore => ?_
    obtain ⟨old, hsame⟩ := hbefore
    exact ⟨old ++ own, by rw [Run.write, hsame, Text.ofString_append]⟩
  induction a with
  | write text =>
    obtain ⟨own, hsame⟩ := Option.isSome_iff_exists.1 hplain
    exact hwritten ⟨own, (Text.eq_of_toString? hsame).symm⟩
  | rules label count =>
    refine keeps_get_bind fun r _ =>
      Keeps.bind (hwritten (Text.join_of_strings fun t hmember => ?_)) fun _ =>
        keeps_modify fun _ hbefore => hbefore
    obtain ⟨slot, -, rfl⟩ := List.mem_map.1 hmember
    obtain ⟨shade, hsame⟩ := hcolor
    exact ⟨_, by rw [ruleText, hsame, Text.ofString_append, Text.ofString_append]⟩
  | advance slots => exact keeps_modify fun _ hbefore => hbefore
  | advanceByCalls => exact keeps_modify fun _ hbefore => hbefore
  | onCall number a ih =>
    rw [Action.run]
    split
    · exact ih hplain
    · exact keeps_pure _
  | attempt a ih => exact (ih hplain).tryCatch fun e => hwritten ⟨_, rfl⟩
  | react reaction => exact fun _ hbefore => hbefore

/-- Scripts that ask for nothing are simple if their texts and the colors of the themes are
strings. -/
theorem Generator.simple_of_plain {themes : Theme → Prop} {g : Generator} {actions : List Action}
    (hscript : g.body = .script actions) (hplain : ∀ a ∈ actions, a.plain = true)
    (hcolors : ∀ theme, themes theme → ∃ text : String, theme.colorText = text) :
    g.Simple again themes := by
  constructor
  · rw [hscript]
    exact List.flatMap_eq_nil_iff.2 fun a hmember => Action.steps_of_plain (hplain a hmember)
  · intro theme hinUse start s called t hran
    rw [exec_call, hscript] at hran
    cases hran
    have hkept : Keeps (fun r : Run => ∃ text : String, r.collected = text)
        (Generator.Body.run again ⟨theme, .collected, s.callCount g.number + 1⟩
          (.script actions)) :=
      keeps_forM fun a hmember => keeps_string_action (hcolors theme hinUse) (hplain a hmember)
    exact hkept _ ⟨"", rfl⟩

end

/-- Sessions that differ in where the provider keeps its stylesheet, which has the same text in
both. -/
structure Pairing.Twins (c : Pairing) (s t : Session) : Prop where
  rest : ∃ backends files, t = { s with backends := backends, files := files }
  here : c.provider < s.providers.length
  stored : c.backend < s.backends.length
  backend : (s.provider c.provider).backend = c.backend
  listeners : s.listeners = c.listeners
  theme : c.themes (s.provider c.provider).theme
  simple : ∀ r ∈ (s.provider c.provider).registrations, r.generator.Simple c.again c.themes
  file : t.backend c.backend = .file c.name
  page : ∃ raw count, s.backend c.backend = .memory (.ofString raw) count ∧
    t.files.Holds c.name raw

/-- Listeners that do the same whether the stylesheet is in memory or in a file. -/
def Pairing.Blind (c : Pairing) : Prop :=
  ∀ entry ∈ c.listeners, ∀ s t, c.Twins s t → Concur c.Twins
    (exec (entry.2.forM (Reaction.run c.again)) s) (exec (entry.2.forM (Reaction.run c.again)) t)

namespace Pairing.Twins

variable {c : Pairing} {s t : Session}

theorem provider (h : c.Twins s t) (j : Nat) : t.provider j = s.provider j := by
  obtain ⟨_, _, rfl⟩ := h.rest
  rfl

theorem hear (h : c.Twins s t) (l : String) (e : Event) : c.Twins (s.hear l e) (t.hear l e) := by
  obtain ⟨_, _, rfl⟩ := h.rest
  exact ⟨⟨_, _, rfl⟩, h.here, h.stored, h.backend, h.listeners, h.theme, h.simple, h.file, h.page⟩

theorem addLogs (h : c.Twins s t) (lines : List LogLine) :
    c.Twins (s.addLogs lines) (t.addLogs lines) := by
  obtain ⟨_, _, rfl⟩ := h.rest
  exact ⟨⟨_, _, rfl⟩, h.here, h.stored, h.backend, h.listeners, h.theme, h.simple, h.file, h.page⟩

theorem countCall (h : c.Twins s t) (n : Nat) : c.Twins (s.countCall n) (t.countCall n) := by
  obtain ⟨_, _, rfl⟩ := h.rest
  exact ⟨⟨_, _, rfl⟩, h.here, h.stored, h.backend, h.listeners, h.theme, h.simple, h.file, h.page⟩

/-- What is done to the provider is done to it in both sessions. -/
theorem modifyProvider (h : c.Twins s t) {f : Provider → Provider} {p : Provider}
    (hafter : f (s.provider c.provider) = p)
    (hbackend : p.backend = (s.provider c.provider).backend)
    (htheme : c.themes p.theme)
    (hsimple : ∀ r ∈ p.registrations, r.generator.Simple c.again c.themes) :
    c.Twins (s.modifyProvider c.provider f) (t.modifyProvider c.provider f) := by
  obtain ⟨_, _, rfl⟩ := h.rest
  have hnow : (s.modifyProvider c.provider f).provider c.provider = p := by
    rw [Session.provider_modifyProvider_self _ h.here, hafter]
  refine ⟨⟨_, _, rfl⟩, ?_, h.stored, ?_, h.listeners, ?_, ?_, h.file, h.page⟩
  · rw [Session.length_modifyProvider]
    exact h.here
  · rw [hnow, hbackend, h.backend]
  · rw [hnow]
    exact htheme
  · rw [hnow]
    exact hsimple

theorem setBusy (h : c.Twins s t) (busy : Bool) :
    c.Twins (s.modifyProvider c.provider fun p => { p with busy := busy })
      (t.modifyProvider c.provider fun p => { p with busy := busy }) :=
  h.modifyProvider rfl rfl h.theme h.simple

/-- Texts of the stylesheet are written in the two ways. -/
theorem write (h : c.Twins s t) {raw : String} {page : Backend → Backend} {count : Nat}
    {files : Files} (hmemory : page (s.backend c.backend) = .memory (.ofString raw) count)
    (hholds : files.Holds c.name raw) :
    c.Twins (s.modifyBackend c.backend page) { t with files := files } := by
  obtain ⟨_, _, rfl⟩ := h.rest
  refine ⟨⟨_, _, rfl⟩, h.here, ?_, h.backend, h.listeners, h.theme, h.simple, h.file, raw, count,
    ?_, hholds⟩
  · rw [Session.length_modifyBackend]
    exact h.stored
  · rw [Session.backend_modifyBackend_self _ h.stored, hmemory]

/-! ### Telling -/

section
variable (hblind : c.Blind) (h : c.Twins s t)
include hblind h

theorem tell (e : Event) : Concur c.Twins (exec (Provider.tell c.again c.provider e) s)
    (exec (Provider.tell c.again c.provider e) t) := by
  rw [Provider.tell, exec_get_bind, exec_get_bind, h.provider]
  split
  · refine concur_announce (R := c.Twins) (fun s t h => ?_) (fun l e s t h => h.hear l e)
      (fun s t h entry hmember => hblind entry (h.listeners ▸ hmember) s t h) h e
    obtain ⟨_, _, rfl⟩ := h.rest
    exact ⟨rfl, rfl⟩
  · exact concur_pure h ()

theorem log_tell (message : String) (e : Event) :
    Concur c.Twins (exec (do Provider.log message; Provider.tell c.again c.provider e) s)
      (exec (do Provider.log message; Provider.tell c.again c.provider e) t) := by
  rw [Provider.log, exec_modify_bind, exec_modify_bind]
  exact (h.addLogs _).tell hblind e

end

/-! ### Mounting -/

/-- A generator comes to the same in both sessions when its text is collected. -/
theorem call (h : c.Twins s t) {g : Generator} (hsimple : g.Simple c.again c.themes) {theme : Theme}
    (hinUse : c.themes theme) (start : Int) :
    ∃ called, ∃ text : String,
      exec (g.call c.again theme .collected start) s = (.ok called, s.countCall g.number) ∧
      exec (g.call c.again theme .collected start) t = (.ok called, t.countCall g.number) ∧
      called.collected = text := by
  have hcalls : t.callCount g.number = s.callCount g.number := by
    obtain ⟨_, _, rfl⟩ := h.rest
    rfl
  obtain ⟨called, hran⟩ : ∃ called, exec (g.call c.again theme .collected start) s =
      (.ok called, s.countCall g.number) :=
    ⟨_, Prod.ext rfl (exec_call_collected_snd hsimple.1 c.again theme start s)⟩
  have hsame : (exec (g.call c.again theme .collected start) t).1 =
      (exec (g.call c.again theme .collected start) s).1 := exec_call_collected_fst hsimple.1 hcalls
  rw [hran] at hsame
  obtain ⟨text, hwritten⟩ := hsimple.2 theme hinUse start s called _ hran
  exact ⟨called, text, hran,
    Prod.ext hsame (exec_call_collected_snd hsimple.1 c.again theme start t), hwritten⟩

/-- A generator leaves the same text on the page, as it goes, and in the file in the end. -/
theorem append (h : c.Twins s t) {g : Generator} (hsimple : g.Simple c.again c.themes)
    {theme : Theme} (hinUse : c.themes theme) (start : Int) :
    ∃ onPage inFile u v,
      exec (Provider.append c.again c.backend theme g start) s = (.ok onPage, u) ∧
      exec (Provider.append c.again c.backend theme g start) t = (.ok inFile, v) ∧
      onPage.result = inFile.result ∧ onPage.counter = inFile.counter ∧ c.Twins u v ∧
      u.provider c.provider = s.provider c.provider := by
  obtain ⟨raw, count, hmemory, hholds⟩ := h.page
  obtain ⟨number, hopened, hmore⟩ := hholds.append
  obtain ⟨called, text, hran, hranThere, hwritten⟩ := h.call hsimple hinUse start
  have honPage := exec_call_page hsimple.1 c.backend count hran
  have hinFile := Provider.exec_append_file c.again h.file hopened hranThere
  rw [hwritten] at honPage hinFile
  rw [Provider.exec_append_memory c.again hmemory]
  have hbehind : Backend.write count text ((s.countCall g.number).backend c.backend) =
      .memory (.ofString (raw ++ text)) count := by
    rw [show (s.countCall g.number).backend c.backend = _ from hmemory]
    simp [Backend.write]
  exact ⟨_, _, _, _, honPage, hinFile, rfl, rfl, (h.countCall g.number).write hbehind (hmore text),
    rfl⟩

section
variable (hblind : c.Blind) (h : c.Twins s t)
include hblind h

theorem mount {g : Generator} (hsimple : g.Simple c.again c.themes) :
    Concur c.Twins (exec (Provider.mount c.again c.provider g) s)
      (exec (Provider.mount c.again c.provider g) t) := by
  have hsame := h.provider c.provider
  cases hknown : (s.provider c.provider).registered? g with
  | some r =>
    rw [Provider.exec_mount_of_registered c.again hknown,
      Provider.exec_mount_of_registered c.again (s := t) (by rw [hsame, hknown])]
    rw [Provider.tellReused, ← bind_assoc]
    exact (h.log_tell hblind _ _).bind fun _ u v h => concur_pure h r.start
  | none =>
    have hknownThere : (t.provider c.provider).registered? g = none := by rw [hsame, hknown]
    cases hbusy : (s.provider c.provider).busy with
    | true =>
      rw [Provider.exec_mount_of_busy c.again hknown hbusy,
        Provider.exec_mount_of_busy c.again hknownThere (by rw [hsame, hbusy])]
      exact ⟨rfl, h⟩
    | false =>
      have hhere : c.provider < t.providers.length := by
        obtain ⟨_, _, rfl⟩ := h.rest
        exact h.here
      obtain ⟨onPage, inFile, u, v, hran, hranThere, hresult, hcounter, htwins, hprovider⟩ :=
        (h.setBusy true).append hsimple h.theme (s.provider c.provider).counter
      rw [← h.backend] at hran
      rw [← h.backend, ← hsame] at hranThere
      rw [Session.provider_modifyProvider_self _ h.here] at hprovider
      cases hended : onPage.result with
      | error e =>
        rw [Provider.exec_mount_of_error c.again hknown h.here hbusy hran hended,
          Provider.exec_mount_of_error c.again hknownThere hhere (by rw [hsame, hbusy]) hranThere
            (hresult.symm.trans hended), hcounter]
        exact ⟨rfl, htwins.modifyProvider rfl rfl htwins.theme htwins.simple⟩
      | ok _ =>
        rw [Provider.exec_mount_of_done c.again hknown h.here hbusy hran hended,
          Provider.exec_mount_of_done c.again hknownThere hhere (by rw [hsame, hbusy]) hranThere
            (hresult.symm.trans hended), hcounter, hsame, Provider.tellMounted, ← bind_assoc]
        have hregistered := htwins.modifyProvider (f := fun p =>
          { p with counter := inFile.counter, busy := false }.register g
            (s.provider c.provider).counter inFile.counter) rfl rfl htwins.theme
          fun r hmember => by
            rcases List.mem_append.1 hmember with hold | hnew
            · exact htwins.simple r hold
            · rw [List.mem_singleton.1 hnew]
              exact hsimple
        exact (hregistered.log_tell hblind _ _).bind fun _ u v h => concur_pure h _

end

/-! ### Rendering and themes -/

/-- A mounted generator is rendered alike, to a text without halves. -/
theorem replay (h : c.Twins s t) {theme : Theme} (hinUse : c.themes theme) {r : Registration}
    (hsimple : r.generator.Simple c.again c.themes) :
    ∃ result u v, exec (Provider.replay c.again theme r) s = (result, u) ∧
      exec (Provider.replay c.again theme r) t = (result, v) ∧ c.Twins u v ∧
      ∀ css, result = .ok css → ∃ text : String, css = text := by
  obtain ⟨called, text, hran, hranThere, hwritten⟩ := h.call hsimple hinUse r.start
  have htwins := h.countCall r.generator.number
  rw [Provider.replay, exec_bind_of_ok hran, exec_bind_of_ok hranThere]
  cases called.result with
  | error e =>
    refine ⟨_, _, _, rfl, rfl, htwins, fun css hsame => ?_⟩
    cases hsame
  | ok _ =>
    rw [exec_bind_of_ok (exec_ofExcept_ok _ _), exec_bind_of_ok (exec_ofExcept_ok _ _)]
    split
    · refine ⟨_, _, _, rfl, rfl, htwins, fun css hsame => ?_⟩
      cases hsame
    · refine ⟨_, _, _, rfl, rfl, htwins, fun css hsame => ⟨text, ?_⟩⟩
      cases hsame
      exact hwritten

theorem replayAll (h : c.Twins s t) {theme : Theme} (hinUse : c.themes theme)
    {rs : List Registration} (hsimple : ∀ r ∈ rs, r.generator.Simple c.again c.themes) :
    ∃ result u v, exec (Provider.replayAll c.again theme rs) s = (result, u) ∧
      exec (Provider.replayAll c.again theme rs) t = (result, v) ∧ c.Twins u v ∧
      ∀ css, result = .ok css → ∃ text : String, css = text := by
  induction rs generalizing s t with
  | nil => exact ⟨_, _, _, rfl, rfl, h, fun css hsame => ⟨"", by cases hsame; rfl⟩⟩
  | cons r rs ih =>
    obtain ⟨first, u, v, hran, hranThere, htwins, hplain⟩ :=
      h.replay hinUse (hsimple r List.mem_cons_self)
    cases first with
    | error e =>
      exact ⟨_, _, _, exec_bind_of_error hran, exec_bind_of_error hranThere, htwins, nofun⟩
    | ok front =>
      obtain ⟨result, u', v', hothers, hothersThere, htwins, hplainRest⟩ :=
        ih htwins fun q hmember => hsimple q (List.mem_cons_of_mem r hmember)
      rw [Provider.replayAll, exec_bind_of_ok hran, exec_bind_of_ok hranThere]
      cases result with
      | error e =>
        exact ⟨_, _, _, exec_bind_of_error hothers, exec_bind_of_error hothersThere, htwins, nofun⟩
      | ok back =>
        refine ⟨_, _, _, exec_bind_of_ok hothers, exec_bind_of_ok hothersThere, htwins,
          fun css hsame => ?_⟩
        obtain ⟨text, rfl⟩ := hplain front rfl
        obtain ⟨more, rfl⟩ := hplainRest back rfl
        cases hsame
        exact ⟨text ++ more, rfl⟩

theorem renderWith (h : c.Twins s t) {theme : Theme} (hinUse : c.themes theme) :
    ∃ result u v, exec (Provider.renderWith c.again c.provider theme) s = (result, u) ∧
      exec (Provider.renderWith c.again c.provider theme) t = (result, v) ∧ c.Twins u v ∧
      ∀ css, result = .ok css → ∃ text : String, css = text := by
  have hsame := h.provider c.provider
  cases hbusy : (s.provider c.provider).busy with
  | true =>
    exact ⟨_, _, _, Provider.exec_exclusive_of_busy _ hbusy,
      Provider.exec_exclusive_of_busy _ (by rw [hsame, hbusy]), h, nofun⟩
  | false =>
    have hhere : c.provider < t.providers.length := by
      obtain ⟨_, _, rfl⟩ := h.rest
      exact h.here
    obtain ⟨result, u, v, hran, hranThere, htwins, hplain⟩ :=
      (h.setBusy true).replayAll hinUse h.simple
    rw [Provider.exec_renderWith_of_idle c.again theme h.here hbusy,
      Provider.exec_renderWith_of_idle c.again theme hhere (by rw [hsame, hbusy]), hsame, hran,
      hranThere]
    exact ⟨_, _, _, rfl, rfl, htwins.setBusy false, hplain⟩

/-- The page is replaced in memory, and the file by a new one. -/
theorem replaceAll (h : c.Twins s t) (text : String) :
    Concur c.Twins (exec (Provider.replaceAll c.backend text) s)
      (exec (Provider.replaceAll c.backend text) t) := by
  obtain ⟨raw, count, hmemory, hholds⟩ := h.page
  obtain ⟨next, hreplaced, hholdsNow⟩ := hholds.replace text
  have hinFile : exec (Provider.replaceAll c.backend text) t =
      (.ok (), { t with files := next }) := by
    simp only [Provider.replaceAll, exec_get_bind, h.file, Text.toString?_ofString,
      Option.getD_some, hreplaced]
    rfl
  rw [hinFile]
  simp only [Provider.replaceAll, exec_get_bind, hmemory, exec_modify]
  exact ⟨rfl, h.write rfl hholdsNow⟩

section
variable (hblind : c.Blind) (h : c.Twins s t)
include hblind h

theorem commit {theme : Theme} (hinUse : c.themes theme) (text : String) :
    Concur c.Twins (exec (Provider.commit c.again c.provider theme text) s)
      (exec (Provider.commit c.again c.provider theme text) t) := by
  rw [Provider.commit, exec_get_bind, exec_get_bind, h.provider, h.backend]
  refine (h.replaceAll text).bind fun _ u v h => ?_
  rw [exec_modify_bind, exec_modify_bind]
  have hswitched := h.modifyProvider (f := fun p => { p with theme := theme }) rfl rfl hinUse
    h.simple
  rw [Provider.tellReplaced, exec_get_bind, exec_get_bind, hswitched.provider]
  exact hswitched.log_tell hblind _ _

theorem updateTheme {theme : Theme} (hinUse : c.themes theme) :
    Concur c.Twins (exec (Provider.updateTheme c.again c.provider theme) s)
      (exec (Provider.updateTheme c.again c.provider theme) t) := by
  have hsame := h.provider c.provider
  cases haccepted : theme.isInstanceOf (s.provider c.provider).theme with
  | false =>
    rw [Provider.exec_updateTheme_of_wrong c.again haccepted,
      Provider.exec_updateTheme_of_wrong c.again (s := t) (by rw [hsame, haccepted]), hsame]
    exact ⟨rfl, h⟩
  | true =>
    have hacceptedThere : theme.isInstanceOf (t.provider c.provider).theme = true := by
      rw [hsame, haccepted]
    cases hcompared : (s.provider c.provider).theme.quickSame? theme with
    | none =>
      rw [Provider.exec_updateTheme_of_incomparable c.again haccepted hcompared,
        Provider.exec_updateTheme_of_incomparable c.again hacceptedThere (by rw [hsame, hcompared]),
        hsame]
      exact ⟨rfl, h⟩
    | some unchanged =>
      cases unchanged with
      | true =>
        rw [Provider.exec_updateTheme_of_same c.again haccepted hcompared,
          Provider.exec_updateTheme_of_same c.again hacceptedThere (by rw [hsame, hcompared])]
        exact h.log_tell hblind _ _
      | false =>
        rw [Provider.exec_updateTheme_of_differs c.again haccepted hcompared,
          Provider.exec_updateTheme_of_differs c.again hacceptedThere (by rw [hsame, hcompared])]
        obtain ⟨result, u, v, hran, hranThere, htwins, hplain⟩ := h.renderWith hinUse
        cases result with
        | error e =>
          rw [exec_bind_of_error hran, exec_bind_of_error hranThere]
          exact ⟨rfl, htwins⟩
        | ok css =>
          obtain ⟨text, rfl⟩ := hplain css rfl
          rw [exec_bind_of_ok hran, exec_bind_of_ok hranThere]
          exact htwins.commit hblind hinUse text

omit hblind in
theorem render : Concur c.Twins (exec (Provider.render c.again c.provider) s)
    (exec (Provider.render c.again c.provider) t) := by
  obtain ⟨result, u, v, hran, hranThere, htwins, -⟩ := h.renderWith h.theme
  rw [Provider.render, exec_get_bind, exec_get_bind, h.provider, hran, hranThere]
  exact ⟨rfl, htwins⟩

end

/-- A file is read as the text of the page with its line ends unified. -/
theorem css (h : c.Twins s t) : ∃ raw : String, s.css (s.backend c.backend) = .ok raw ∧
    t.css (t.backend c.backend) = .ok (String.ofList (Text.unifyNewlines raw.toList)) := by
  obtain ⟨raw, count, hmemory, hread, -⟩ := h.page
  refine ⟨raw, ?_, ?_⟩
  · rw [hmemory]
    rfl
  · rw [h.file, Session.css, hread]
    rfl

end Pairing.Twins

/-! ### Runs -/

/-- The generators of an operation are simple and its theme is in use. -/
def Operation.Within (c : Pairing) (op : Operation) : Prop :=
  (∀ g ∈ op.generators, g.Simple c.again c.themes) ∧
    ∀ theme, op = .updateTheme theme → c.themes theme

section
variable {c : Pairing} {s t : Session}

/-- The step of the comparison: an operation comes to the same in both sessions. -/
theorem Pairing.Twins.run (hblind : c.Blind) (h : c.Twins s t) {op : Operation}
    (hwithin : op.Within c) :
    Concur c.Twins (exec (op.run c.again c.provider) s) (exec (op.run c.again c.provider) t) := by
  cases op with
  | mount g new =>
    refine (h.mount hblind (hwithin.1 g List.mem_cons_self)).bind fun start u v h => ?_
    rw [exec_ofExcept, exec_ofExcept]
    exact ⟨rfl, h⟩
  | updateTheme theme =>
    exact (h.updateTheme hblind (hwithin.2 theme rfl)).bind fun _ u v h => concur_pure h _
  | render => exact h.render.bind fun _ u v h => concur_pure h _

theorem Pairing.Twins.operate (hblind : c.Blind) (h : c.Twins s t) {ops : List Operation}
    (hwithin : ∀ op ∈ ops, op.Within c) :
    c.Twins (s.operate c.again c.provider ops) (t.operate c.again c.provider ops) := by
  induction ops generalizing s t with
  | nil => exact h
  | cons op ops ih =>
    exact ih (h.run hblind (hwithin op List.mem_cons_self)).2
      fun op hmember => hwithin op (List.mem_cons_of_mem _ hmember)

end

/-- The themes that a provider sees: its first one and those that it is asked to switch to. -/
def themesOf (theme : Theme) (ops : List Operation) (other : Theme) : Prop :=
  other = theme.orEmpty ∨ .updateTheme other ∈ ops

/-- The next provider of a session, with a page or with a file of its own. -/
def Pairing.next (again : Step → Act Outcome) (s : Session) (name : String) (theme : Theme)
    (ops : List Operation) : Pairing :=
  ⟨again, s.providers.length, s.backends.length, name, themesOf theme ops, s.listeners⟩

theorem Step.exec_addProvider_file {s t : Session} {id name : String} {theme : Theme} {onBus : Bool}
    (hmade : exec (Step.addProvider id (.file name) theme onBus) s = (.ok (), t)) :
    ∃ files, s.files.replace name "" = .ok files ∧
      t = { s.withProvider id theme onBus with
        files := files, backends := s.backends ++ [.file name] } := by
  cases hreplaced : s.files.replace name "" with
  | error e =>
    rw [Step.addProvider, Step.newBackend, bind_assoc, exec_get_bind, hreplaced] at hmade
    cases hmade
  | ok files =>
    refine ⟨files, rfl, ?_⟩
    rw [Step.addProvider, Step.newBackend, bind_assoc, exec_get_bind, hreplaced] at hmade
    cases hmade
    rfl

theorem Pairing.twins_next (again : Step → Act Outcome) {s t : Session} {id name : String}
    {theme : Theme} {onBus : Bool} (ops : List Operation)
    (hmade : exec (Step.addProvider id (.file name) theme onBus) s = (.ok (), t)) :
    (Pairing.next again s name theme ops).Twins (s.withProvider id theme onBus) t := by
  obtain ⟨files, hreplaced, rfl⟩ := Step.exec_addProvider_file hmade
  have hplaced := s.onPage_withProvider id theme onBus
  refine ⟨⟨_, _, rfl⟩, hplaced.here, hplaced.stored, hplaced.backend, rfl, ?_, ?_, ?_,
    "", 0, s.backend_withProvider id theme onBus, Files.holds_of_replace hreplaced⟩
  · rw [Pairing.next, s.provider_withProvider]
    exact .inl rfl
  · rw [Pairing.next, s.provider_withProvider]
    exact fun _ hnone => nomatch hnone
  · show (s.backends ++ [_]).getD s.backends.length _ = _
    simp [Pairing.next]

/-- Listeners that ask for no steps are blind, whether they fail or not. -/
theorem Pairing.blind_of_passive {c : Pairing}
    (hpassive : ∀ entry ∈ c.listeners, ∀ step, .perform step ∉ entry.2) : c.Blind := by
  rintro ⟨l, reactions⟩ hmember s t h
  have hsilent := hpassive (l, reactions) hmember
  cases reactions with
  | nil => exact concur_pure h ()
  | cons reaction reactions =>
    cases reaction with
    | raise kind text => exact ⟨rfl, h⟩
    | perform step => exact absurd List.mem_cons_self (hsilent step)

/-- A provider with a file does what a provider with a page does. Whatever operations were done
before, and whether they failed or not: the next one comes to the same on both, the two are the same
provider, the same was logged and heard, and the file is read as the text of the page with its line
ends unified. -/
theorem file_like_memory (again : Step → Act Outcome) {s t : Session} {id name : String}
    {theme : Theme} {onBus : Bool} (ops : List Operation)
    (hmade : exec (Step.addProvider id (.file name) theme onBus) s = (.ok (), t))
    (hsimple : ∀ op ∈ ops, ∀ g ∈ op.generators, g.Simple again (themesOf theme ops))
    (hblind : (Pairing.next again s name theme ops).Blind) (before after : List Operation)
    (hsplit : ops = before ++ after) :
    let i := s.providers.length
    let b := s.backends.length
    let memory := (s.withProvider id theme onBus).operate again i before
    let file := t.operate again i before
    file.provider i = memory.provider i ∧ file.heard = memory.heard ∧ file.logs = memory.logs ∧
      (∃ raw : String, memory.css (memory.backend b) = .ok raw ∧
        file.css (file.backend b) = .ok (String.ofList (Text.unifyNewlines raw.toList))) ∧
      ∀ op rest, after = op :: rest →
        (exec (op.run again i) file).1 = (exec (op.run again i) memory).1 := by
  intro i b memory file
  have hwithin : ∀ op ∈ ops, op.Within (Pairing.next again s name theme ops) :=
    fun op hmember => ⟨hsimple op hmember, fun _ hsame => .inr (hsame ▸ hmember)⟩
  have htwins : (Pairing.next again s name theme ops).Twins memory file :=
    (Pairing.twins_next again ops hmade).operate hblind fun op hmember =>
      hwithin op (by rw [hsplit]; exact List.mem_append_left _ hmember)
  have hcss := htwins.css
  refine ⟨htwins.provider i, ?_, ?_, hcss, ?_⟩
  · obtain ⟨_, _, hsame⟩ := htwins.rest
    rw [hsame]
  · obtain ⟨_, _, hsame⟩ := htwins.rest
    rw [hsame]
  · rintro op rest rfl
    exact (htwins.run hblind (hwithin op (by rw [hsplit]; simp))).1.symm

/-- Listeners to everything and to new stylesheets, of which the second always fails. -/
def earAndCritic : Session :=
  Session.run {} [.subscribe .all "ear" [] "",
    .subscribe (.type "StylesheetReplaced") "critic" [.raise "ValueError" "no"] ""]

/-- A rule with a carriage return behind it, and a line feed before the next text; then a generator
that fails when it has written, and a switch of the theme. -/
def brokenLines : List Operation := [
  .mount ⟨1, .key (.whole 1), "first", .script [.rules "a" 1, .write "\r"]⟩
    fun n => .ok (.number n),
  .mount ⟨2, .key (.whole 2), "second", .script [.write "\nb"]⟩ fun n => .ok (.number n),
  .mount ⟨3, .key (.whole 3), "broken", .script [.write "c", .react (.raise "ValueError" "no")]⟩
    fun n => .ok (.number n),
  .updateTheme (.color (.text "blue"))]

theorem simple_brokenLines (again : Step → Act Outcome) :
    ∀ op ∈ brokenLines, ∀ g ∈ op.generators,
      g.Simple again (themesOf (.color (.text "red")) brokenLines) := by
  have hcolors : ∀ theme, themesOf (.color (.text "red")) brokenLines theme →
      ∃ text : String, theme.colorText = text := by
    rintro theme (rfl | hswitch)
    · exact ⟨"red", rfl⟩
    · simp only [brokenLines, List.mem_cons, reduceCtorEq, false_or, Operation.updateTheme.injEq,
        List.not_mem_nil, or_false] at hswitch
      exact ⟨"blue", by rw [hswitch]; rfl⟩
  simp only [brokenLines, List.forall_mem_cons, Operation.generators]
  exact ⟨⟨Generator.simple_of_plain rfl (by decide) hcolors, nofun⟩,
    ⟨Generator.simple_of_plain rfl (by decide) hcolors, nofun⟩,
    ⟨Generator.simple_of_plain rfl (by decide) hcolors, nofun⟩, nofun, nofun⟩

theorem made_file :
    (exec (Step.addProvider "p" (.file "a.css") (.color (.text "red")) true) earAndCritic).1 =
      .ok () := by
  have hparts : Files.parts "a.css" = ["a.css"] := by
    rw [Files.parts, String.splitOn]
    -- one round for each character of the name and one for its end
    iterate 6 rw [String.splitOnAux]
    decide
  have hfiles : earAndCritic.files = {} := rfl
  obtain ⟨made, hreplaced⟩ : ∃ made, Files.replace {} "a.css" "" = .ok made := by
    rw [Files.replace, Files.filePath, Files.resolve, hparts]
    exact ⟨_, rfl⟩
  rw [Step.addProvider, Step.newBackend, bind_assoc, exec_get_bind, hfiles, hreplaced]
  rfl

theorem page_brokenLines :
    ((earAndCritic.withProvider "p" (.color (.text "red")) true).operate (Step.perform 100) 0
      brokenLines).backend 0 = .memory ".a-0 \x7b color: blue; \x7d\n\r\nb" 1 := rfl

theorem blind_critic (again : Step → Act Outcome) (name : String) (theme : Theme)
    (ops : List Operation) : (Pairing.next again earAndCritic name theme ops).Blind := by
  have hlisteners :
      earAndCritic.listeners = [("ear", []), ("critic", [.raise "ValueError" "no"])] := rfl
  refine Pairing.blind_of_passive ?_
  rw [Pairing.next, hlisteners]
  simp

theorem file_like_memory_brokenLines :
    let made := exec (Step.addProvider "p" (.file "a.css") (.color (.text "red")) true) earAndCritic
    let memory := (earAndCritic.withProvider "p" (.color (.text "red")) true).operate
      (Step.perform 100) 0 brokenLines
    let file := made.2.operate (Step.perform 100) 0 brokenLines
    made.1 = .ok () ∧ file.provider 0 = memory.provider 0 ∧
      memory.css (memory.backend 0) = .ok (".a-0 \x7b color: blue; \x7d\n\r\nb" : String) ∧
      file.css (file.backend 0) = .ok (".a-0 \x7b color: blue; \x7d\n\nb" : String) := by
  intro made memory file
  obtain ⟨hprovider, -, -, ⟨raw, honPage, hinFile⟩, -⟩ := file_like_memory (Step.perform 100)
    brokenLines (Prod.ext made_file rfl) (simple_brokenLines _) (blind_critic _ _ _ _) brokenLines
    [] (List.append_nil _).symm
  have htext : memory.css (memory.backend 0) =
      .ok (".a-0 \x7b color: blue; \x7d\n\r\nb" : String) := by
    rw [show memory.backend 0 = _ from page_brokenLines]
    rfl
  obtain rfl : ".a-0 \x7b color: blue; \x7d\n\r\nb" = raw := by
    have hsame := htext.symm.trans honPage
    cases hsame
    rfl
  exact ⟨made_file, hprovider, htext, hinFile.trans (by decide)⟩

end ScopedCss

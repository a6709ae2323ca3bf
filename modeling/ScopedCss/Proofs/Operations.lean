import ScopedCss.Proofs.Windows

/-!
The operations of a provider whose stylesheet is in memory and whose generators are compiled. Each
operation is followed to the point where the event is told: a failure up to there changes nothing
but the counts of calls, and otherwise the provider and its page change together. Of mounting it is
also said what it comes to for any generator and any stylesheet.
-/
namespace ScopedCss

variable (again : Step → Act Outcome)

/-! ### Changes of a session -/

namespace Session

theorem modifyProvider_modifyProvider (s : Session) (i : Nat) (f g : Provider → Provider) :
    (s.modifyProvider i f).modifyProvider i g = s.modifyProvider i (g ∘ f) := by
  simp [modifyProvider, List.modify_modify_eq]

theorem modifyProvider_eq_self {s : Session} {i : Nat} {f : Provider → Provider}
    (h : f (s.provider i) = s.provider i) : s.modifyProvider i f = s := by
  have hsame : s.providers.modify i f = s.providers := by
    apply List.ext_getElem?
    intro j
    rw [List.getElem?_modify]
    cases hfound : s.providers[j]? with
    | none => rfl
    | some p =>
      by_cases hij : i = j
      · subst hij
        have : s.provider i = p := by rw [provider, List.getD_eq_getElem?_getD, hfound]; rfl
        rw [this] at h
        simp [h]
      · simp [hij]
  rw [modifyProvider, hsame]

@[simp] theorem length_modifyProvider (s : Session) (i : Nat) (f : Provider → Provider) :
    (s.modifyProvider i f).providers.length = s.providers.length := by
  simp [modifyProvider]

/-- A provider that was busy for a while and did not change meanwhile is as it was. -/
theorem provider_release {s t : Session} {i : Nat} (hi : i < t.providers.length)
    (hstill : t.provider i = { s.provider i with busy := true })
    (hidle : (s.provider i).busy = false) :
    (t.modifyProvider i fun p => { p with busy := false }).provider i = s.provider i := by
  rw [provider_modifyProvider_self _ hi, hstill]
  show ({ s.provider i with busy := false } : Provider) = s.provider i
  rw [← hidle]

@[simp] theorem length_modifyBackend (s : Session) (b : Nat) (f : Backend → Backend) :
    (s.modifyBackend b f).backends.length = s.backends.length := by
  simp [modifyBackend]

end Session

namespace Provider

open Registration

variable {i : Nat} {s : Session}

theorem exec_exclusive {α : Type} (act : Act α) (hidle : (s.provider i).busy = false) :
    exec (exclusive i act) s =
      let ran := exec act (s.modifyProvider i fun p => { p with busy := true })
      (ran.1, ran.2.modifyProvider i fun p => { p with busy := false }) := by
  simp only [exclusive, exec_get_bind, hidle, Bool.false_eq_true, if_false, setBusy,
    exec_modify_bind]
  rw [exec_bind, exec_tryCatch]
  cases exec act (s.modifyProvider i fun p => { p with busy := true }) with
  | mk r t => cases r <;> rfl

/-- A busy provider refuses what would run generators. -/
theorem exec_exclusive_of_busy {α : Type} (act : Act α) (hbusy : (s.provider i).busy = true) :
    exec (exclusive i act) s = (.error .reentrant, s) := by
  simp only [exclusive, exec_get_bind, hbusy, if_true]
  rfl

/-- Between the two changes of the busy mark nothing of the provider has changed. -/
theorem modify_busy_eq_self (hidle : (s.provider i).busy = false) :
    (s.modifyProvider i fun p => { p with busy := true }).modifyProvider i
      (fun p => { p with busy := false }) = s := by
  rw [Session.modifyProvider_modifyProvider]
  apply Session.modifyProvider_eq_self
  show ({ s.provider i with busy := false } : Provider) = s.provider i
  rw [← hidle]

/-! ### Rendering -/

theorem exec_renderWith_of_idle (theme : Theme) (hi : i < s.providers.length)
    (hidle : (s.provider i).busy = false) :
    exec (renderWith again i theme) s =
      let ran := exec (replayAll again theme (s.provider i).registrations)
        (s.modifyProvider i fun p => { p with busy := true })
      (ran.1, ran.2.modifyProvider i fun p => { p with busy := false }) := by
  rw [renderWith, exec_exclusive _ hidle]
  simp only [exec_get_bind, Session.provider_modifyProvider_self _ hi]

theorem exec_renderWith_of_writes {theme : Theme} {texts : List Text}
    (hi : i < s.providers.length) (hidle : (s.provider i).busy = false)
    (hwrites : List.Forall₂ (Writes theme) (s.provider i).registrations texts) :
    ∃ calls, exec (renderWith again i theme) s =
      (.ok (Text.join texts), { s with calls := calls }) := by
  rw [renderWith, exec_exclusive _ hidle]
  simp only [exec_get_bind, Session.provider_modifyProvider_self _ hi]
  obtain ⟨calls, hran⟩ := exec_replayAll_of_writes again hwrites
    (s.modifyProvider i fun p => { p with busy := true })
  refine ⟨calls, ?_⟩
  rw [hran]
  have hrestored := modify_busy_eq_self (s := { s with calls := calls }) (i := i) hidle
  exact congrArg (Prod.mk _) hrestored

/-- Rendering windows against a theme either gives all their texts or fails. -/
theorem renderWith_cases (theme : Theme) (hi : i < s.providers.length)
    (hidle : (s.provider i).busy = false)
    (hwindows : ∀ r ∈ (s.provider i).registrations, r.IsWindow) :
    (∃ texts, List.Forall₂ (Writes theme) (s.provider i).registrations texts) ∨
      ∃ e calls, exec (renderWith again i theme) s = (.error e, { s with calls := calls }) := by
  rcases replayAll_cases again theme hwindows (s.modifyProvider i fun p => { p with busy := true })
    with hwrites | ⟨e, calls, hfailed⟩
  · exact .inl hwrites
  · refine .inr ⟨e, calls, ?_⟩
    rw [renderWith, exec_exclusive _ hidle]
    simp only [exec_get_bind, Session.provider_modifyProvider_self _ hi]
    rw [hfailed]
    have hrestored := modify_busy_eq_self (s := { s with calls := calls }) (i := i) hidle
    exact congrArg (Prod.mk _) hrestored

/-! ### Mounting -/

/-- What is left of mounting once the generator has its window. -/
def tellMounted (again : Step → Act Outcome) (i : Nat) (g : Generator) (start stop : Int) :
    Act Int := do
  log ("Mounted style " ++ g.name ++ " with slots [" ++ toString start ++ ", " ++
    toString stop ++ ")")
  tell again i (.styleMounted g.name start stop)
  return start

theorem exec_append_memory {b count : Nat} {css : Text} (hmemory : s.backend b = .memory css count)
    (theme : Theme) (g : Generator) (counter : Int) :
    exec (append again b theme g counter) s =
      exec (g.call again theme (.page b count) counter) s := by
  simp only [append, exec_get_bind, hmemory]

/-- The text for a file is added to it in the end. A text that cannot be written is lost. -/
theorem exec_append_file {b number : Nat} {name : String} (hfile : s.backend b = .file name)
    (hopened : s.files.openEnd name = .ok (s.files, number)) {theme : Theme} {g : Generator}
    {counter : Int} {called : Called} {t : Session}
    (hran : exec (g.call again theme .collected counter) s = (.ok called, t)) :
    exec (append again b theme g counter) s =
      match called.collected.toString? with
      | none => (.ok ⟨.error (.file .unencodable), counter, ""⟩, t)
      | some text => (.ok called, { t with files := t.files.append number text }) := by
  have hopening : exec (Act.ofFiles (s.files.openEnd name)) s = (.ok (s.files, number), s) := by
    rw [hopened]
    rfl
  simp only [append, exec_get_bind, hfile]
  rw [exec_bind_of_ok hopening, exec_modify_bind]
  dsimp only
  rw [exec_bind_of_ok hran]
  cases called.collected.toString? <;> rfl

/-- What is left of mounting a generator that is mounted. -/
def tellReused (again : Step → Act Outcome) (i : Nat) (g : Generator) (start : Int) :
    Act Int := do
  log ("Style " ++ g.name ++ " already mounted at " ++ toString start)
  tell again i (.styleReused g.name start)
  return start

theorem exec_mount_of_registered {g : Generator} {r : Registration}
    (hknown : (s.provider i).registered? g = some r) :
    exec (mount again i g) s = exec (tellReused again i g r.start) s := by
  simp only [mount, exec_get_bind, hknown]
  rfl

section
variable {g : Generator} (habsent : (s.provider i).registered? g = none)
include habsent

theorem exec_mount_of_busy (hbusy : (s.provider i).busy = true) :
    exec (mount again i g) s = (.error .reentrant, s) := by
  simp only [mount, exec_get_bind, habsent]
  exact exec_bind_of_error (exec_exclusive_of_busy _ hbusy)

variable (hi : i < s.providers.length) (hidle : (s.provider i).busy = false) {t : Session}
include hi hidle

/-- A stylesheet that cannot be written to. -/
theorem exec_mount_of_refused {e : Failure}
    (hran : exec (append again (s.provider i).backend (s.provider i).theme g (s.provider i).counter)
      (s.modifyProvider i fun p => { p with busy := true }) = (.error e, t)) :
    exec (mount again i g) s =
      (.error e, t.modifyProvider i fun p => { p with busy := false }) := by
  simp only [mount, exec_get_bind, habsent]
  apply exec_bind_of_error
  rw [exec_exclusive _ hidle]
  simp only [exec_get_bind, Session.provider_modifyProvider_self _ hi]
  rw [exec_bind_of_error hran]

variable {called : Called}
  (hran : exec (append again (s.provider i).backend (s.provider i).theme g (s.provider i).counter)
    (s.modifyProvider i fun p => { p with busy := true }) = (.ok called, t))
include hran

/-- A generator that fails is not registered, but the counter stays where it stopped. -/
theorem exec_mount_of_error {e : Failure} (hfailed : called.result = .error e) :
    exec (mount again i g) s =
      (.error e, t.modifyProvider i fun p =>
        { p with counter := called.counter, busy := false }) := by
  simp only [mount, exec_get_bind, habsent]
  apply exec_bind_of_error
  rw [exec_exclusive _ hidle]
  simp only [exec_get_bind, Session.provider_modifyProvider_self _ hi]
  rw [exec_bind_of_ok hran, exec_modify_bind, hfailed]
  show (_, (t.modifyProvider i _).modifyProvider i _) = _
  rw [Session.modifyProvider_modifyProvider]
  rfl

/-- A generator that is done gets its window. -/
theorem exec_mount_of_done (hdone : called.result = .ok ()) :
    exec (mount again i g) s =
      exec (tellMounted again i g (s.provider i).counter called.counter)
        (t.modifyProvider i fun p =>
          { p with counter := called.counter, busy := false }.register g (s.provider i).counter
            called.counter) := by
  simp only [mount, exec_get_bind, habsent]
  have hwindow : exec (exclusive i do
      let p := (← get).provider i
      let called ← append again p.backend p.theme g p.counter
      modify (·.modifyProvider i fun p => { p with counter := called.counter })
      Act.ofExcept called.result
      return (p.counter, called.counter)) s =
      (.ok ((s.provider i).counter, called.counter),
        t.modifyProvider i fun p => { p with counter := called.counter, busy := false }) := by
    rw [exec_exclusive _ hidle]
    simp only [exec_get_bind, Session.provider_modifyProvider_self _ hi]
    rw [exec_bind_of_ok hran, exec_modify_bind, hdone]
    show (_, (t.modifyProvider i _).modifyProvider i _) = _
    rw [Session.modifyProvider_modifyProvider]
    rfl
  rw [exec_bind_of_ok hwindow]
  simp only [exec_modify_bind, Session.modifyProvider_modifyProvider]
  rfl

end

/-- What mounting a generator on a provider comes to. -/
inductive Mounting (again : Step → Act Outcome) (i : Nat) (g : Generator) (s : Session) :
    Except Failure Int × Session → Prop where
  | reused {r : Registration} (hknown : (s.provider i).registered? g = some r) :
      Mounting again i g s (exec (tellReused again i g r.start) s)
  | busy (habsent : (s.provider i).registered? g = none) (hbusy : (s.provider i).busy = true) :
      Mounting again i g s (.error .reentrant, s)
  | refused {e : Failure} {t : Session} (habsent : (s.provider i).registered? g = none)
      (hidle : (s.provider i).busy = false)
      (hran : exec (append again (s.provider i).backend (s.provider i).theme g
        (s.provider i).counter) (s.modifyProvider i fun p => { p with busy := true }) =
          (.error e, t)) :
      Mounting again i g s (.error e, t.modifyProvider i fun p => { p with busy := false })
  | failed {called : Called} {e : Failure} {t : Session}
      (habsent : (s.provider i).registered? g = none) (hidle : (s.provider i).busy = false)
      (hran : exec (append again (s.provider i).backend (s.provider i).theme g
        (s.provider i).counter) (s.modifyProvider i fun p => { p with busy := true }) =
          (.ok called, t))
      (hresult : called.result = .error e) :
      Mounting again i g s (.error e, t.modifyProvider i fun p =>
        { p with counter := called.counter, busy := false })
  | done {called : Called} {t : Session} (habsent : (s.provider i).registered? g = none)
      (hidle : (s.provider i).busy = false)
      (hran : exec (append again (s.provider i).backend (s.provider i).theme g
        (s.provider i).counter) (s.modifyProvider i fun p => { p with busy := true }) =
          (.ok called, t))
      (hresult : called.result = .ok ()) :
      Mounting again i g s (exec (tellMounted again i g (s.provider i).counter called.counter)
        (t.modifyProvider i fun p => { p with counter := called.counter, busy := false }.register g
          (s.provider i).counter called.counter))

theorem mounting (hi : i < s.providers.length) (g : Generator) :
    Mounting again i g s (exec (mount again i g) s) := by
  cases habsent : (s.provider i).registered? g with
  | some r =>
    rw [exec_mount_of_registered again habsent]
    exact .reused habsent
  | none =>
    cases hidle : (s.provider i).busy with
    | true =>
      rw [exec_mount_of_busy again habsent hidle]
      exact .busy habsent hidle
    | false =>
      cases hran : exec (append again (s.provider i).backend (s.provider i).theme g
          (s.provider i).counter) (s.modifyProvider i fun p => { p with busy := true }) with
      | mk answer t =>
        cases answer with
        | error e =>
          rw [exec_mount_of_refused again habsent hi hidle hran]
          exact .refused habsent hidle hran
        | ok called =>
          cases hresult : called.result with
          | error e =>
            rw [exec_mount_of_error again habsent hi hidle hran hresult]
            exact .failed habsent hidle hran hresult
          | ok _ =>
            rw [exec_mount_of_done again habsent hi hidle hran hresult]
            exact .done habsent hidle hran hresult

section
variable {g : Generator} {cls : StyleClass} {b count : Nat} {css : Text}
  (hi : i < s.providers.length) (hidle : (s.provider i).busy = false)
  (hbackend : (s.provider i).backend = b) (hmemory : s.backend b = .memory css count)
  (habsent : (s.provider i).registered? g = none)
include hi hidle hbackend hmemory habsent

/-- A generator that fails before it does anything leaves no trace. -/
theorem exec_mount_of_failed {e : Failure}
    (hfailed : ∀ t,
      exec (g.call again (s.provider i).theme (.page b count) (s.provider i).counter) t =
        (.ok ⟨.error e, (s.provider i).counter, ""⟩, t.countCall g.number)) :
    exec (mount again i g) s = (.error e, s.countCall g.number) := by
  have hran := (exec_append_memory again
    (s := s.modifyProvider i fun p => { p with busy := true }) hmemory _ g _).trans (hfailed _)
  rw [← hbackend] at hran
  rw [exec_mount_of_error again habsent hi hidle hran rfl]
  -- The busy mark and the counter are put back to what they were.
  show (_, ((s.countCall g.number).modifyProvider i _).modifyProvider i _) = _
  rw [Session.modifyProvider_modifyProvider, Session.modifyProvider_eq_self]
  show ({ s.provider i with busy := false } : Provider) = s.provider i
  rw [← hidle]

/-- A class that writes gets the window behind all others and the end of the page. -/
theorem exec_mount_of_ok {text : Text} {stop : Int} (hbody : g.body = .compiled cls)
    (hwrote : cls.generate (s.provider i).theme (s.provider i).counter = .ok (text, stop)) :
    exec (mount again i g) s =
      exec (tellMounted again i g (s.provider i).counter stop)
        (((s.countCall g.number).modifyBackend b (Backend.write count text)).modifyProvider i
          fun p => { p with counter := stop, busy := false }.register g (s.provider i).counter
            stop) := by
  have hran := (exec_append_memory again
    (s := s.modifyProvider i fun p => { p with busy := true }) hmemory _ g _).trans
    (exec_call_of_ok again hbody hwrote (.page b count) _)
  rw [← hbackend] at hran
  rw [exec_mount_of_done again habsent hi hidle hran rfl]
  show exec _ ((((s.countCall g.number).modifyBackend (s.provider i).backend _).modifyProvider i
    _).modifyProvider i _) = _
  rw [Session.modifyProvider_modifyProvider, hbackend]
  rfl

end

/-! ### Switching the theme -/

/-- What is left of a switch once the page is replaced. -/
def tellReplaced (again : Step → Act Outcome) (i : Nat) (css : Text) : Act Unit := do
  let count := ((← get).provider i).registrations.length
  log ("Replaced stylesheet: " ++ toString count ++ " style(s), " ++ toString css.length ++
    " chars")
  tell again i (.stylesheetReplaced count css.length)

section
variable {theme : Theme} (haccepted : theme.isInstanceOf (s.provider i).theme = true)
  (hdiffers : (s.provider i).theme.quickSame? theme = some false)
include haccepted hdiffers

theorem exec_updateTheme_of_error {e : Failure} {t : Session}
    (hfailed : exec (renderWith again i theme) s = (.error e, t)) :
    exec (updateTheme again i theme) s = (.error e, t) := by
  simp only [updateTheme, exec_get_bind, haccepted, hdiffers, Bool.not_true, Bool.false_eq_true,
    if_false]
  exact exec_bind_of_error hfailed

/-- A theme that all classes can be rendered against takes the place of the one before. -/
theorem exec_updateTheme_of_writes {b count : Nat} {css : Text} {texts : List Text}
    (hi : i < s.providers.length) (hidle : (s.provider i).busy = false)
    (hbackend : (s.provider i).backend = b) (hmemory : s.backend b = .memory css count)
    (hwrites : List.Forall₂ (Writes theme) (s.provider i).registrations texts) :
    ∃ calls, exec (updateTheme again i theme) s =
      exec (tellReplaced again i (Text.join texts))
        (({ s with calls := calls }.modifyBackend b fun _ =>
          .memory (Text.join texts) (count + 1)).modifyProvider i
            fun p => { p with theme := theme }) := by
  obtain ⟨calls, hrendered⟩ := exec_renderWith_of_writes again hi hidle hwrites
  refine ⟨calls, ?_⟩
  simp only [updateTheme, exec_get_bind, haccepted, hdiffers, Bool.not_true, Bool.false_eq_true,
    if_false]
  rw [exec_bind_of_ok hrendered, exec_get_bind]
  have hreplaced : exec (replaceAll b (Text.join texts)) { s with calls := calls } =
      (.ok ⟨⟩, { s with calls := calls }.modifyBackend b fun _ =>
        .memory (Text.join texts) (count + 1)) := by
    have hstored : ({ s with calls := calls } : Session).backend b = .memory css count := hmemory
    simp only [replaceAll, exec_get_bind, hstored, exec_modify]
  have hnumber : (({ s with calls := calls } : Session).provider i).backend = b := hbackend
  rw [hnumber, exec_bind_of_ok hreplaced, exec_modify_bind, tellReplaced]

end

/-- What is left of a switch to a theme that changes nothing. -/
def tellUnchanged (again : Step → Act Outcome) (i : Nat) (theme : Theme) : Act Unit := do
  log "Theme unchanged; stylesheet kept"
  tell again i (.themeUnchanged theme)

/-- What is left of a switch once the stylesheet is rendered. -/
def commit (again : Step → Act Outcome) (i : Nat) (theme : Theme) (css : Text) : Act Unit := do
  replaceAll ((← get).provider i).backend css
  modify (·.modifyProvider i fun p => { p with theme := theme })
  tellReplaced again i css

section
variable {theme : Theme}

/-- A theme of another type is refused. -/
theorem exec_updateTheme_of_wrong (hwrong : theme.isInstanceOf (s.provider i).theme = false) :
    exec (updateTheme again i theme) s =
      (.error (.wrongTheme (s.provider i).theme.typeName theme.typeName), s) := by
  simp only [updateTheme, exec_get_bind, hwrong, Bool.not_false, if_true]
  exact exec_bind_of_error (exec_throw _ _)

variable (haccepted : theme.isInstanceOf (s.provider i).theme = true)
include haccepted

theorem exec_updateTheme_of_incomparable
    (hcompared : (s.provider i).theme.quickSame? theme = none) :
    exec (updateTheme again i theme) s =
      (.error (.eval (.noAttribute (s.provider i).theme.typeName "fast_cmp")), s) := by
  simp only [updateTheme, exec_get_bind, haccepted, Bool.not_true, Bool.false_eq_true, if_false,
    hcompared]
  exact exec_throw _ _

theorem exec_updateTheme_of_same (hsame : (s.provider i).theme.quickSame? theme = some true) :
    exec (updateTheme again i theme) s = exec (tellUnchanged again i theme) s := by
  simp only [updateTheme, exec_get_bind, haccepted, Bool.not_true, Bool.false_eq_true, if_false,
    hsame, tellUnchanged]

theorem exec_updateTheme_of_differs
    (hdiffers : (s.provider i).theme.quickSame? theme = some false) :
    exec (updateTheme again i theme) s =
      exec (renderWith again i theme >>= commit again i theme) s := by
  simp only [updateTheme, exec_get_bind, haccepted, Bool.not_true, Bool.false_eq_true, if_false,
    hdiffers]
  rfl

end

/-- A theme is refused, or it changes nothing, or all is rendered against it. -/
theorem updateTheme_cases (i : Nat) (theme : Theme) (s : Session) :
    (∃ e, exec (updateTheme again i theme) s = (.error e, s)) ∨
    (theme.isInstanceOf (s.provider i).theme = true ∧
      (s.provider i).theme.quickSame? theme = some true ∧
      exec (updateTheme again i theme) s = exec (tellUnchanged again i theme) s) ∨
    (theme.isInstanceOf (s.provider i).theme = true ∧
      (s.provider i).theme.quickSame? theme = some false ∧
      exec (updateTheme again i theme) s =
        exec (renderWith again i theme >>= commit again i theme) s) := by
  cases haccepted : theme.isInstanceOf (s.provider i).theme with
  | false => exact .inl ⟨_, exec_updateTheme_of_wrong again haccepted⟩
  | true =>
    cases hcompared : (s.provider i).theme.quickSame? theme with
    | none => exact .inl ⟨_, exec_updateTheme_of_incomparable again haccepted hcompared⟩
    | some same =>
      cases same with
      | true => exact .inr (.inl ⟨rfl, rfl, exec_updateTheme_of_same again haccepted hcompared⟩)
      | false => exact .inr (.inr ⟨rfl, rfl, exec_updateTheme_of_differs again haccepted hcompared⟩)

/-! ### Telling -/

/-- With no subscriptions an event is told to nobody. -/
theorem exec_tell_of_silent (hsilent : s.bus.subscriptions = []) (e : Event) :
    exec (tell again i e) s = (.ok ⟨⟩, s) := by
  have hnone (t : Topic) : s.bus.listeners t = [] := by rw [Bus.listeners, hsilent]; rfl
  simp only [tell, exec_get_bind]
  split
  · simp only [announce, exec_get_bind, hnone]
    rw [exec_bind_of_ok (show exec (callListeners again e []) s = (.ok ⟨⟩, s) from rfl)]
    simp only [exec_get_bind, hnone]
    rfl
  · rfl

theorem exec_tellMounted_of_silent (hsilent : s.bus.subscriptions = []) (g : Generator)
    (start stop : Int) :
    ∃ lines, exec (tellMounted again i g start stop) s = (.ok start, s.addLogs lines) := by
  rw [tellMounted, log, exec_modify_bind,
    exec_bind_of_ok (exec_tell_of_silent again (by exact hsilent) _)]
  exact ⟨_, rfl⟩

end Provider
end ScopedCss

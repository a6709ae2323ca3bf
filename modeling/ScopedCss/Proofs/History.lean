import ScopedCss.Proofs.Serving

/-!
Histories of a provider: a new provider on a page of its own, and any requests to it in any order,
each made whatever came of those before it. Main statement: after every history of classes whose
values only compute, the windows, the page, what rendering gives and what a new provider would show
agree.
-/
namespace ScopedCss

/-- What can be asked of a provider. Classes are told by their numbers. -/
inductive Request where
  | mountClass (n : Nat)
  | mountGenerator (n : Nat)
  | updateTheme (theme : Theme)
  | render

/-- A session with one more provider, whose stylesheet is in a page of its own. -/
def Session.withProvider (s : Session) (id : String) (theme : Theme) (onBus : Bool) : Session :=
  (exec (Step.addProvider id .memory theme onBus) s).2

section
variable (classes : Nat → StyleClass) (again : Step → Act Outcome) (i : Nat)

def Request.run : Request → Act Unit
  | .mountClass n => discard (Provider.mountClass again i (.compiled n (classes n)))
  | .mountGenerator n => discard (Provider.mount again i (generatorOf classes n))
  | .updateTheme theme => Provider.updateTheme again i theme
  | .render => discard (Provider.render again i)

/-- The session after requests to a provider. A request that fails is followed by the next one. -/
def serve (s : Session) (requests : List Request) : Session :=
  requests.foldl (fun s request => (exec (request.run classes again i) s).2) s

end

variable {classes : Nat → StyleClass} {id : String} {i b : Nat} {before : List Registration}
  {s : Session}

/-! ### Every history keeps the provider consistent -/

theorem Session.provider_withProvider (s : Session) (id : String) (theme : Theme) (onBus : Bool) :
    (s.withProvider id theme onBus).provider s.providers.length =
      .fresh s.backends.length theme.orEmpty onBus := by
  show (s.providers ++ [_]).getD s.providers.length _ = _
  simp

theorem Session.backend_withProvider (s : Session) (id : String) (theme : Theme) (onBus : Bool) :
    (s.withProvider id theme onBus).backend s.backends.length = .memory "" 0 := by
  show (s.backends ++ [_]).getD s.backends.length _ = _
  simp

theorem Session.onPage_withProvider (s : Session) (id : String) (theme : Theme) (onBus : Bool) :
    OnPage s.providers.length s.backends.length (s.withProvider id theme onBus) := by
  refine ⟨?_, ?_, ?_⟩
  · show _ < (s.providers ++ [_]).length
    simp
  · show _ < (s.backends ++ [_]).length
    simp
  · rw [s.provider_withProvider]
    rfl

theorem serving_withProvider (horderly : s.Orderly classes id) (theme : Theme) (onBus : Bool) :
    Serving classes id s.providers.length s.backends.length []
      (s.withProvider id theme onBus) := by
  refine ⟨s.onPage_withProvider id theme onBus, ⟨horderly.plain, horderly.known, horderly.tame⟩,
    ?_, List.nil_prefix, [], [], ?_⟩
  · show List.lookup id ((id, s.providers.length) :: s.providerIds) = _
    simp
  · rw [s.provider_withProvider, s.backend_withProvider]
    refine ⟨rfl, ?_, Provider.mounted_fresh _ _ _, .nil, 0, rfl⟩
    show theme.orEmpty.orEmpty = theme.orEmpty
    cases theme with
    | plain v => cases v <;> rfl
    | _ => rfl

theorem keeps_request (depth : Nat) (request : Request) :
    Keeps (Serving classes id i b before) (request.run classes (Step.perform depth) i) := by
  have hnested : ∀ before, ∀ step : Step, step.uses id = true →
      Keeps (Serving classes id i b before) (step.perform depth) :=
    fun _ _ huses => keeps_perform depth huses
  cases request with
  | mountClass n => exact (keeps_mountClass hnested (.inr ⟨n, rfl⟩)).discard
  | mountGenerator n => exact (keeps_mount_compiled hnested n).discard
  | updateTheme theme => exact keeps_updateTheme hnested theme
  | render => exact keeps_render.discard

theorem serving_serve (depth : Nat) (h : Serving classes id i b before s)
    (requests : List Request) :
    Serving classes id i b before (serve classes (Step.perform depth) i s requests) := by
  induction requests generalizing s with
  | nil => exact h
  | cons request requests ih => exact ih (keeps_request depth request s h)

/-! ### A new provider with the same classes -/

/-- A provider that nobody listens to holds these classes against this theme. -/
structure Quiet (classes : Nat → StyleClass) (theme : Theme) (i b : Nat) (ns : List Nat)
    (texts : List Text) (s : Session) : Prop extends OnPage i b s where
  plain : ∀ n, (classes n).isPlain = true
  silent : s.bus.subscriptions = []
  theme : (s.provider i).theme = theme
  consistent : (s.provider i).Consistent classes ns texts (s.backend b)

variable (again : Step → Act Outcome) {theme : Theme} {ns : List Nat} {texts : List Text}

theorem Quiet.mount (h : Quiet classes theme i b ns texts s) {n : Nat} {text : Text} {stop : Int}
    (habsent : n ∉ ns)
    (hwrote : (classes n).generate theme (slotsOf classes ns) = .ok (text, stop)) :
    Quiet classes theme i b (ns ++ [n]) (texts ++ [text])
      (exec (Provider.mount again i (generatorOf classes n)) s).2 := by
  obtain ⟨count, hpage⟩ := h.consistent.page
  rw [← h.theme, ← h.consistent.mounted.counter] at hwrote
  have hcounted : OnPage i b (s.countCall n) := ⟨h.here, h.stored, h.backend⟩
  obtain ⟨hplaced, hprovider, hreplaced⟩ := hcounted.change (f := fun p =>
    { p with counter := stop, busy := false }.register (generatorOf classes n)
      (s.provider i).counter stop) h.backend (Backend.write count text)
  rw [Provider.exec_mount_of_ok again h.here h.consistent.idle h.backend hpage
    (h.consistent.mounted.registered?_of_notMem habsent) rfl hwrote]
  obtain ⟨lines, htold⟩ := Provider.exec_tellMounted_of_silent again (i := i)
    (s := ((s.countCall n).modifyBackend b (Backend.write count text)).modifyProvider i _)
    h.silent (generatorOf classes n) (s.provider i).counter stop
  have hafter := congrArg Prod.snd htold
  refine hafter ▸ ⟨⟨hplaced.here, hplaced.stored, hplaced.backend⟩, h.plain, h.silent, ?_, ?_⟩
  · exact (congrArg Provider.theme hprovider).trans h.theme
  · exact hprovider ▸ hreplaced ▸ h.consistent.register habsent (h.plain n) hpage hwrote

/-- Class names are handed out without a change. -/
theorem exec_mountClass_snd (n : Nat) :
    (exec (Request.run classes again i (.mountClass n)) s).2 =
      (exec (Provider.mount again i (generatorOf classes n)) s).2 := by
  have hstill (start : Int) (t : Session) :
      (exec (Act.ofExcept (((classes n).fields start).mapError .eval)) t).2 = t := by
    cases (classes n).fields start <;> rfl
  exact (exec_bind_snd (fun _ _ => rfl) s).trans (exec_bind_snd hstill s)

/-- Classes whose texts are known are mounted one after the other. -/
theorem Quiet.serve_mounts (h : Quiet classes theme i b ns texts s) {rest : List Nat}
    {others : List Text} (hdistinct : (ns ++ rest).Nodup)
    (hwrites : List.Forall₂ (Registration.Writes theme)
      (windows classes (slotsOf classes ns) rest) others) :
    Quiet classes theme i b (ns ++ rest) (texts ++ others)
      (serve classes again i s (rest.map .mountClass)) := by
  induction rest generalizing ns texts others s with
  | nil =>
    cases hwrites
    rw [List.append_nil, List.append_nil]
    exact h
  | cons n rest ih =>
    rw [windows] at hwrites
    cases hwrites with
    | @cons _ text _ others hfirst hlater =>
      obtain ⟨c, hbody, hwrote⟩ := hfirst
      cases hbody
      have habsent : n ∉ ns := fun hmember =>
        (List.nodup_append.1 hdistinct).2.2 n hmember n List.mem_cons_self rfl
      have hmounted := h.mount again habsent hwrote
      rw [← exec_mountClass_snd] at hmounted
      rw [List.append_cons] at hdistinct
      rw [← slotsOf_concat] at hlater
      have hdone := ih hmounted hdistinct hlater
      rw [List.append_assoc, List.append_assoc] at hdone
      exact hdone

/-! ### Agreement -/

/-- The windows of a provider, its page and what rendering gives agree, and a new provider with its
theme and its classes agrees with them. A class that is mounted next gets a window that starts where
mounting says, unless it fails on the theme. -/
structure Agreement (classes : Nat → StyleClass) (again : Step → Act Outcome) (i : Nat)
    (s : Session) (ns : List Nat) (css : Text) : Prop where
  mounted : (s.provider i).Mounted classes ns
  page : ∃ count, s.backend (s.provider i).backend = .memory css count
  current : ∃ texts, css = Text.join texts ∧
    List.Forall₂ (Registration.Writes (s.provider i).theme) (s.provider i).registrations texts
  rendered : ∃ calls, exec (Provider.render again i) s = (.ok css, { s with calls := calls })
  rebuilt : ∀ id onBus,
    let t := serve classes again 0 (({} : Session).withProvider id (s.provider i).theme onBus)
      (ns.map .mountClass)
    (t.provider 0).registrations = (s.provider i).registrations ∧
      (t.provider 0).counter = (s.provider i).counter ∧
      ∃ count, t.backend (t.provider 0).backend = .memory css count
  next : ∀ n,
    let done := exec (Provider.mount again i (generatorOf classes n)) s
    (∃ r ∈ (done.2.provider i).registrations, r.generator = generatorOf classes n ∧
      ∀ start, done.1 = .ok start → r.start = start) ∨
    ∃ e, (classes n).generate (s.provider i).theme (s.provider i).counter = .error e ∧
      done.1 = .error (.eval e)

/-- What a provider without classes shows in an empty session. -/
theorem quiet_withProvider (hplain : ∀ n, (classes n).isPlain = true)
    (hnonempty : theme.orEmpty = theme) (id : String) (onBus : Bool) :
    Quiet classes theme 0 0 [] [] (({} : Session).withProvider id theme onBus) := by
  have hprovider : (({} : Session).withProvider id theme onBus).provider 0 =
      .fresh 0 theme onBus := by
    conv => rhs; rw [← hnonempty]
    rfl
  refine ⟨⟨Nat.one_pos, Nat.one_pos, ?_⟩, hplain, rfl, ?_, ?_⟩
  · rw [hprovider]
    rfl
  · rw [hprovider]
    rfl
  · rw [hprovider]
    exact ⟨rfl, hnonempty, Provider.mounted_fresh _ _ _, .nil, 0, rfl⟩

theorem Serving.next (depth : Nat) (h : Serving classes id i b before s)
    (hconsistent : (s.provider i).Consistent classes ns texts (s.backend b)) (n : Nat) :
    let done := exec (Provider.mount (Step.perform depth) i (generatorOf classes n)) s
    (∃ r ∈ (done.2.provider i).registrations, r.generator = generatorOf classes n ∧
      ∀ start, done.1 = .ok start → r.start = start) ∨
    ∃ e, (classes n).generate (s.provider i).theme (s.provider i).counter = .error e ∧
      done.1 = .error (.eval e) := by
  have hnested : ∀ before, ∀ step : Step, step.uses id = true →
      Keeps (Serving classes id i b before) (step.perform depth) :=
    fun _ _ huses => keeps_perform depth huses
  obtain ⟨count, hpage⟩ := hconsistent.page
  by_cases hmember : n ∈ ns
  · obtain ⟨r, hknown, hregistered, hgenerator⟩ := hconsistent.mounted.registered?_of_mem hmember
    have hnow : Serving classes id i b (s.provider i).registrations s :=
      ⟨h.toOnPage, h.orderly, h.named, List.prefix_rfl, h.consistent⟩
    have hafter := keeps_mount_compiled hnested n s hnow
    refine .inl ⟨r, hafter.grown.subset hregistered, hgenerator, fun start hended => ?_⟩
    simp only [Provider.mount, exec_get_bind, hknown, Provider.log, exec_modify_bind] at hended
    exact eq_of_exec_bind_pure (Prod.ext hended rfl)
  · cases hrun : (classes n).generate (s.provider i).theme (s.provider i).counter with
    | error e =>
      refine .inr ⟨e, rfl, ?_⟩
      rw [Provider.exec_mount_of_failed _ h.here hconsistent.idle h.backend hpage
        (hconsistent.mounted.registered?_of_notMem hmember) (exec_call_of_error _ rfl
          (StyleClass.isPlain_iff.1 (h.orderly.plain n)).1 hrun _)]
    | ok p =>
      have hafter := serving_mount_of_ok hnested h hconsistent hmember hrun
      refine .inl ⟨_, hafter.grown.subset (List.mem_append_right _ (List.mem_singleton_self _)),
        rfl, fun start hended => ?_⟩
      rw [Provider.exec_mount_of_ok _ h.here hconsistent.idle h.backend hpage
        (hconsistent.mounted.registered?_of_notMem hmember) rfl hrun, Provider.tellMounted,
        Provider.log, exec_modify_bind] at hended
      exact eq_of_exec_bind_pure (Prod.ext hended rfl)

theorem Serving.agreement (depth : Nat) (h : Serving classes id i b before s) :
    ∃ ns css, Agreement classes (Step.perform depth) i s ns css := by
  obtain ⟨ns, texts, hconsistent⟩ := h.consistent
  refine ⟨ns, Text.join texts, hconsistent.mounted, ?_, ⟨texts, rfl, hconsistent.writes⟩,
    h.render _ hconsistent, ?_, h.next depth hconsistent⟩
  · rw [h.backend]
    exact hconsistent.page
  · intro id onBus
    have hwrites := hconsistent.writes
    rw [hconsistent.mounted.registrations] at hwrites
    have hagain := (quiet_withProvider h.orderly.plain hconsistent.theme id onBus).serve_mounts
      (Step.perform depth) hconsistent.mounted.distinct hwrites
    refine ⟨?_, ?_, ?_⟩
    · rw [hagain.consistent.mounted.registrations, hconsistent.mounted.registrations]
      rfl
    · rw [hagain.consistent.mounted.counter, hconsistent.mounted.counter]
      rfl
    · rw [hagain.backend]
      exact hagain.consistent.page

/-- After every history of a provider its windows, its page, what rendering gives and what a new
provider would show agree, and what was registered on the way is registered still. -/
theorem history_agreement (classes : Nat → StyleClass) (depth : Nat) (s : Session) (id : String)
    (theme : Theme) (onBus : Bool) (horderly : s.Orderly classes id)
    (first later : List Request) :
    let i := s.providers.length
    let early := serve classes (Step.perform depth) i (s.withProvider id theme onBus) first
    let now := serve classes (Step.perform depth) i early later
    (early.provider i).registrations <+: (now.provider i).registrations ∧
      ∃ ns css, Agreement classes (Step.perform depth) i now ns css := by
  have hearly := serving_serve depth (serving_withProvider horderly theme onBus) first
  have hnow := serving_serve depth
    (⟨hearly.toOnPage, hearly.orderly, hearly.named, List.prefix_rfl, hearly.consistent⟩ :
      Serving classes id _ _ _ _) later
  exact ⟨hnow.grown, hnow.agreement depth⟩

/-- A class with one class name, colored by the theme. -/
def tinted : StyleClass where
  definition := {
    name := "Tinted", themeVar := "theme", themeType := "Theme", fields := [("text", 0)]
    classPrefix := "css-", literals := [".css-\x7b\x7d \x7b\x7b color: \x7b\x7d; \x7d\x7d\n"]
    arguments := [.slot 0, .value "theme.color"], slotCount := 1 }
  arguments := [.slot 0, .value (.expr (.attribute (.name "theme") "color"))]
  globals := []

/-- A session in which one listener fails whenever a class is mounted and another one switches the
theme back whenever the stylesheet was replaced. -/
def troubled : Session where
  classes := [("Classes", .base), ("Tinted", .compiled 1 tinted)]
  bus := ⟨[⟨.type "StylesheetReplaced", "painter"⟩, ⟨.type "StyleMounted", "critic"⟩]⟩
  listeners := [("painter", [.perform (.updateTheme "p" (.color (.text "red")))]),
    ("critic", [.raise "ValueError" "no"])]

theorem history_agreement_troubled :
    troubled.Orderly (fun _ => tinted) "p" ∧
      let early := serve (fun _ => tinted) (Step.perform 100) 0
        (troubled.withProvider "p" (.color (.text "red")) true) [.mountClass 1, .mountClass 1]
      let now := serve (fun _ => tinted) (Step.perform 100) 0 early
        [.updateTheme (.color (.text "blue")), .mountGenerator 2, .updateTheme .empty, .render]
      (early.provider 0).registrations <+: (now.provider 0).registrations ∧
        ∃ ns css, Agreement (fun _ => tinted) (Step.perform 100) 0 now ns css := by
  have horderly : troubled.Orderly (fun _ => tinted) "p" := by
    refine ⟨fun _ => rfl, ?_, ?_⟩
    · simp [troubled]
    · simp [troubled, Reaction.uses, Step.uses]
  exact ⟨horderly, history_agreement _ 100 troubled "p" _ true horderly _ _⟩

end ScopedCss

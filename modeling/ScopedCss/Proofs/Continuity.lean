import ScopedCss.Proofs.Courses

/-!
What no step can do to a provider. Scripts and listeners may ask for any steps, at any depth of
nesting, and a step may use any provider. Main statement: whatever is done, a busy provider stays as
it is, an idle one is idle afterwards, and what is mounted is found again in its own window.
-/
namespace ScopedCss

/-! ### Providers and sessions that continue others -/

/-- A provider that may have come of another one by any steps. -/
structure Provider.Continues (p q : Provider) : Prop where
  still : p.busy = true → q = p
  idle : p.busy = false → q.busy = false
  found : ∀ g r, p.registered? g = some r → q.registered? g = some r

namespace Provider

theorem Continues.refl (p : Provider) : p.Continues p :=
  ⟨fun _ => rfl, fun hidle => hidle, fun _ _ hknown => hknown⟩

theorem Continues.trans {p q r : Provider} (h : p.Continues q) (hk : q.Continues r) :
    p.Continues r where
  still hbusy := by
    have hsame := h.still hbusy
    subst hsame
    exact hk.still hbusy
  idle hidle := hk.idle (h.idle hidle)
  found g r hknown := hk.found g r (h.found g r hknown)

theorem continues_fresh (backend : Nat) (theme : Theme) (onBus : Bool) {q : Provider}
    (hidle : q.busy = false) : (fresh backend theme onBus).Continues q where
  still hbusy := by cases hbusy
  idle _ := hidle
  found g r hknown := by simp [registered?, fresh] at hknown

/-- Registering a generator that is not found loses none that is. -/
theorem registered?_register_of_absent {p : Provider} {g h : Generator} {r : Registration}
    (habsent : p.registered? g = none) (hknown : p.registered? h = some r) (start stop : Int) :
    (p.register g start stop).registered? h = some r := by
  have hdifferent : (h.identity == g.identity) = false := by
    rw [beq_eq_false_iff_ne]
    intro hsame
    rw [registered?, hsame, ← registered?, habsent] at hknown
    cases hknown
  obtain ⟨k, hindexed, hplace⟩ := Option.bind_eq_some_iff.1 hknown
  have hinside := (List.getElem?_eq_some_iff.1 hplace).1
  simp only [registered?, register, List.lookup_cons, hdifferent, hindexed, Option.bind_some,
    List.getElem?_append_left hinside, hplace]

/-- A generator that is not found gets its window at the end of what the provider was busy with. -/
theorem continues_register {p : Provider} {g : Generator} (hidle : p.busy = false)
    (habsent : p.registered? g = none) (counter start stop : Int) :
    p.Continues ({ p with counter := counter, busy := false }.register g start stop) where
  still hbusy := by simp [hidle] at hbusy
  idle _ := rfl
  found _ _ hknown := registered?_register_of_absent
    (p := { p with counter := counter, busy := false }) habsent hknown start stop

end Provider

/-- A session that may have come of another one by any steps. -/
structure Session.Continues (s t : Session) : Prop where
  placed : t.Placed
  length : s.providers.length ≤ t.providers.length
  each : ∀ i, (s.provider i).Continues (t.provider i)

namespace Session

variable {s t u : Session} {i : Nat}

theorem Placed.continues (h : s.Placed) : s.Continues s :=
  ⟨h, Nat.le_refl _, fun _ => .refl _⟩

theorem Continues.trans (h : s.Continues t) (hk : t.Continues u) : s.Continues u :=
  ⟨hk.placed, Nat.le_trans h.length hk.length, fun i => (h.each i).trans (hk.each i)⟩

/-- All but the providers and their names may change. -/
theorem Continues.same (h : s.Continues t) (hproviders : u.providers = t.providers)
    (hids : u.providerIds = t.providerIds) : s.Continues u := by
  refine ⟨?_, ?_, fun i => ?_⟩
  · rw [Placed, hproviders, hids]
    exact h.placed
  · rw [hproviders]
    exact h.length
  · have hsame : u.provider i = t.provider i := by rw [provider, provider, hproviders]
    rw [hsame]
    exact h.each i

theorem provider_modifyProvider (s : Session) (i j : Nat) (f : Provider → Provider) :
    (s.modifyProvider i f).provider j = s.provider j ∨
      i = j ∧ (s.modifyProvider i f).provider j = f (s.provider j) := by
  by_cases hi : i < s.providers.length
  · by_cases hsame : i = j
    · subst hsame
      exact .inr ⟨rfl, provider_modifyProvider_self f hi⟩
    · exact .inl (provider_modifyProvider_of_ne f hsame)
  · have houtside : s.providers.modify i f = s.providers := by
      rw [List.modify_eq_self (Nat.not_lt.1 hi)]
    rw [modifyProvider, houtside]
    exact .inl rfl

theorem Placed.modifyProvider (h : s.Placed) (f : Provider → Provider) :
    (s.modifyProvider i f).Placed := by
  intro entry hmember
  rw [length_modifyProvider]
  exact h entry hmember

theorem Placed.continues_modify (h : s.Placed) {f : Provider → Provider}
    (hchange : (s.provider i).Continues (f (s.provider i))) :
    s.Continues (s.modifyProvider i f) := by
  refine ⟨h.modifyProvider f, by simp, fun j => ?_⟩
  rcases s.provider_modifyProvider i j f with hsame | ⟨rfl, hchanged⟩
  · rw [hsame]
    exact .refl _
  · rw [hchanged]
    exact hchange

theorem Placed.continues_busy (h : s.Placed) (i : Nat) :
    (s.modifyProvider i fun p => { p with busy := true }).Continues
      (s.modifyProvider i fun p => { p with busy := true }) := (h.modifyProvider _).continues

/-- While it is busy a provider does not change. -/
theorem Continues.provider_of_busy (hi : i < s.providers.length)
    (hmeanwhile : (s.modifyProvider i fun p => { p with busy := true }).Continues t) :
    t.provider i = { s.provider i with busy := true } := by
  have hstill := (hmeanwhile.each i).still
  rw [provider_modifyProvider_self _ hi] at hstill
  exact hstill rfl

/-- What happens while a provider is busy, and a change of the provider at the end of it. -/
theorem Continues.release (hi : i < s.providers.length)
    (hmeanwhile : (s.modifyProvider i fun p => { p with busy := true }).Continues t)
    {f : Provider → Provider}
    (hchange : (s.provider i).Continues (f { s.provider i with busy := true })) :
    s.Continues (t.modifyProvider i f) := by
  have hlength : s.providers.length ≤ t.providers.length := by
    simpa using hmeanwhile.length
  refine ⟨hmeanwhile.placed.modifyProvider f, by simpa using hlength, fun j => ?_⟩
  by_cases hsame : i = j
  · subst hsame
    rw [provider_modifyProvider_self _ (Nat.lt_of_lt_of_le hi hlength),
      hmeanwhile.provider_of_busy hi]
    exact hchange
  · have hothers := hmeanwhile.each j
    rw [provider_modifyProvider_of_ne _ hsame] at hothers ⊢
    exact hothers

theorem Placed.addProvider (h : s.Placed) (id : String) (backend : Nat) (theme : Theme)
    (onBus : Bool) :
    s.Continues { s with
      providers := s.providers ++ [.fresh backend theme onBus]
      providerIds := (id, s.providers.length) :: s.providerIds } := by
  refine ⟨?_, by simp, fun i => ?_⟩
  · intro entry hmember
    rw [List.length_append, List.length_singleton]
    rcases List.mem_cons.1 hmember with rfl | hmember
    · exact Nat.lt_succ_self _
    · exact Nat.lt_succ_of_lt (h entry hmember)
  · by_cases hi : i < s.providers.length
    · simp only [provider, List.getD_eq_getElem?_getD, List.getElem?_append_left hi]
      exact .refl _
    · -- What stands for a provider that there is not is idle, and so is a new provider.
      have hnone : s.provider i = .fresh 0 .empty false := by
        rw [provider, List.getD_eq_getElem?_getD, List.getElem?_eq_none (Nat.not_lt.1 hi)]
        rfl
      rw [hnone]
      refine Provider.continues_fresh 0 .empty false ?_
      simp only [provider, List.getD_eq_getElem?_getD, List.getElem?_append, hi, if_false]
      cases i - s.providers.length <;> rfl

end Session

/-- Sessions continue along all that any steps do outside of providers. -/
theorem Session.course_continues : Session.Course (fun _ => True) Session.Continues where
  trans := .trans
  ready h := h.placed.continues
  listeners _ _ _ _ _ := trivial
  scripts _ _ _ _ := trivial
  same h hparts := h.same hparts.providers hparts.ids
  addProvider id backend theme onBus h := h.placed.addProvider id backend theme onBus
  keepClass _ _ _ h := h.same rfl rfl
  define h _ := h.same rfl rfl
  subscribe h _ := h.same rfl rfl

theorem Session.Continues.put {s t : Session} (h : s.Continues t) (sink : Sink) (text : Text) :
    s.Continues (sink.put text t) := Session.course_continues.put h sink text

section
variable {again : Step → Act Outcome} {s₀ : Session}

/-- Replacing a stylesheet does nothing to providers. -/
theorem keeps_providers_replaceAll (b : Nat) (css : Text) :
    Keeps (fun s => s.providers = s₀.providers ∧ s.providerIds = s₀.providerIds)
      (Provider.replaceAll b css) :=
  keeps_replaceAll_of_same
    (fun h hparts => ⟨hparts.providers.trans h.1, hparts.ids.trans h.2⟩) b css

variable (hnested : ∀ (s₀ : Session) (step : Step), Keeps s₀.Continues (again step))
include hnested

theorem keeps_continues_call (g : Generator) (theme : Theme) (sink : Sink) (start : Int) :
    Keeps s₀.Continues (g.call again theme sink start) :=
  Session.course_continues.keeps_call (fun s step _ => hnested s step) (fun _ _ => trivial) theme
    sink start

theorem keeps_continues_append (b : Nat) (theme : Theme) (g : Generator) (start : Int) :
    Keeps s₀.Continues (Provider.append again b theme g start) :=
  Session.course_continues.keeps_append (fun s step _ => hnested s step) (fun _ _ => trivial) b
    theme start

theorem keeps_continues_tellReused (i : Nat) (g : Generator) (start : Int) :
    Keeps s₀.Continues (Provider.tellReused again i g start) :=
  Session.course_continues.keeps_tellReused (fun s step _ => hnested s step) i g start

theorem keeps_continues_tellMounted (i : Nat) (g : Generator) (start stop : Int) :
    Keeps s₀.Continues (Provider.tellMounted again i g start stop) :=
  Session.course_continues.keeps_tellMounted (fun s step _ => hnested s step) i g start stop

/-! ### Operations -/

section
variable {s : Session} {i : Nat} (hplaced : s.Placed) (hi : i < s.providers.length)
include hplaced hi

theorem continues_mount (g : Generator) :
    s.Continues (exec (Provider.mount again i g) s).2 := by
  have hmeanwhile := keeps_continues_append hnested (s.provider i).backend (s.provider i).theme g
    (s.provider i).counter _ (hplaced.continues_busy i)
  have hmounting := Provider.mounting again hi g
  generalize exec (Provider.mount again i g) s = done at hmounting
  cases hmounting with
  | reused hknown => exact keeps_continues_tellReused hnested i g _ s hplaced.continues
  | busy habsent hbusy => exact hplaced.continues
  | refused habsent hidle hran =>
    rw [hran] at hmeanwhile
    exact hmeanwhile.release hi ⟨by simp [hidle], fun _ => rfl, fun _ _ hknown => hknown⟩
  | failed habsent hidle hran hresult =>
    rw [hran] at hmeanwhile
    exact hmeanwhile.release hi ⟨by simp [hidle], fun _ => rfl, fun _ _ hknown => hknown⟩
  | done habsent hidle hran hresult =>
    rw [hran] at hmeanwhile
    exact keeps_continues_tellMounted hnested i g _ _ _ (hmeanwhile.release hi
      (Provider.continues_register hidle habsent _ _ _))

/-- What mounting gives is the start of the window in which the generator is found from then on. -/
theorem found_of_mount {g : Generator} {start : Int} {t : Session}
    (hdone : exec (Provider.mount again i g) s = (.ok start, t)) :
    ∃ r, (t.provider i).registered? g = some r ∧ r.start = start := by
  have hmeanwhile := keeps_continues_append hnested (s.provider i).backend (s.provider i).theme g
    (s.provider i).counter _ (hplaced.continues_busy i)
  have hmounting := Provider.mounting again hi g
  rw [hdone] at hmounting
  generalize htold : (Except.ok start, t) = result at hmounting
  cases hmounting with
  | busy | refused | failed => cases htold
  | @reused r hknown =>
    have hafter := keeps_continues_tellReused hnested i g r.start s hplaced.continues
    rw [← htold] at hafter
    obtain ⟨_, _, -, hgiven⟩ := exec_bind_eq_ok.1 htold.symm
    exact ⟨r, (hafter.each i).found g r hknown, eq_of_exec_bind_pure hgiven⟩
  | @done called u habsent hidle hran hresult =>
    rw [hran] at hmeanwhile
    have hplacedThen := hmeanwhile.placed.modifyProvider (i := i) fun p =>
      { p with counter := called.counter, busy := false }.register g (s.provider i).counter
        called.counter
    have hafter := keeps_continues_tellMounted hnested i g (s.provider i).counter called.counter _
      hplacedThen.continues
    rw [← htold] at hafter
    have hinside : i < u.providers.length :=
      Nat.lt_of_lt_of_le (by simpa using hi) hmeanwhile.length
    obtain ⟨_, _, -, hgiven⟩ := exec_bind_eq_ok.1 htold.symm
    refine ⟨⟨g, (s.provider i).counter, called.counter⟩, (hafter.each i).found g _ ?_,
      eq_of_exec_bind_pure hgiven⟩
    rw [Session.provider_modifyProvider_self _ hinside]
    exact Provider.registered?_register _ _ _ _

/-- Rendering changes no provider, not even the one that is rendered. -/
theorem continues_renderWith (theme : Theme) :
    s.Continues (exec (Provider.renderWith again i theme) s).2 ∧
      (exec (Provider.renderWith again i theme) s).2.provider i = s.provider i := by
  cases hidle : (s.provider i).busy with
  | true =>
    rw [Provider.renderWith, Provider.exec_exclusive_of_busy _ hidle]
    exact ⟨hplaced.continues, rfl⟩
  | false =>
    rw [Provider.exec_renderWith_of_idle again theme hi hidle]
    have hmeanwhile := Session.course_continues.keeps_replayAll (fun s step _ => hnested s step)
      hplaced.continues i theme _ (hplaced.continues_busy i)
    refine ⟨hmeanwhile.release hi ⟨by simp [hidle], fun _ => rfl, fun _ _ hknown => hknown⟩, ?_⟩
    have hinside := Nat.lt_of_lt_of_le (by simpa using hi) hmeanwhile.length
    exact Session.provider_release hinside (hmeanwhile.provider_of_busy hi) hidle

theorem continues_render : s.Continues (exec (Provider.render again i) s).2 := by
  rw [Provider.render, exec_get_bind]
  exact (continues_renderWith hnested hplaced hi _).1

omit hplaced hi in
theorem keeps_continues_commit (hidle : (s₀.provider i).busy = false) (theme : Theme) (css : Text) :
    Keeps s₀.Continues (Provider.commit again i theme css) := by
  refine keeps_get_bind fun s _ =>
    Keeps.bind (Session.course_continues.keeps_replaceAll _ css) fun _ => ?_
  refine Keeps.bind (keeps_modify fun t h => ?_) fun _ =>
    Session.course_continues.keeps_tellReplaced (fun s step _ => hnested s step) i css
  have hnow := (h.each i).idle hidle
  exact h.trans (h.placed.continues_modify
    ⟨by simp [hnow], fun hidle => hidle, fun _ _ hknown => hknown⟩)

theorem continues_updateTheme (theme : Theme) :
    s.Continues (exec (Provider.updateTheme again i theme) s).2 := by
  rcases Provider.updateTheme_cases again i theme s with
    ⟨e, hrefused⟩ | ⟨-, -, hunchanged⟩ | ⟨-, -, hrendered⟩
  · rw [hrefused]
    exact hplaced.continues
  · rw [hunchanged]
    exact Session.course_continues.keeps_tellUnchanged (fun s step _ => hnested s step) i theme s
      hplaced.continues
  · rw [hrendered]
    cases hidle : (s.provider i).busy with
    | true =>
      rw [exec_bind_of_error
        (show exec (Provider.renderWith again i theme) s = (.error .reentrant, s) from
          Provider.exec_exclusive_of_busy _ hidle)]
      exact hplaced.continues
    | false =>
      exact holds_bind (continues_renderWith hnested hplaced hi theme).1 fun css =>
        keeps_continues_commit hnested hidle theme css

end

/-! ### Steps -/

theorem along_continues : Provider.Along Session.Continues again where
  mount hready hnamed _ _ h :=
    h.trans (continues_mount hnested h.placed (hready.placed.here h.length hnamed) _)
  updateTheme theme hready hnamed _ h :=
    h.trans (continues_updateTheme hnested h.placed (hready.placed.here h.length hnamed) theme)
  render hready hnamed _ h :=
    h.trans (continues_render hnested h.placed (hready.placed.here h.length hnamed))

end

theorem keeps_continues_perform (depth : Nat) {s₀ : Session} (step : Step) :
    Keeps s₀.Continues (step.perform depth) :=
  Session.course_continues.keeps_perform
    (fun _ hnested => along_continues fun s step => hnested s step trivial) depth trivial

/-! ### Runs -/

namespace Session

theorem placed_empty : ({} : Session).Placed := by simp [Placed]

theorem Placed.continues_run {s : Session} (hplaced : s.Placed) (steps : List Step) :
    s.Continues (s.run steps) :=
  course_continues.run (fun _ hnested => along_continues fun s step => hnested s step trivial)
    hplaced.continues fun _ _ => trivial

/-- Between the steps of a run every provider is idle. -/
theorem idle_run (steps : List Step) (i : Nat) : ((run {} steps).provider i).busy = false :=
  ((placed_empty.continues_run steps).each i).idle (by simp [provider, Provider.fresh])

end Session

end ScopedCss

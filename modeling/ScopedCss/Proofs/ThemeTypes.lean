import ScopedCss.Proofs.Continuity

/-!
The class of a provider's theme. A new theme is refused unless it belongs to the class of the theme
that the provider has at that time. Main statement: over any steps the class only moves on to
derived ones, so what is refused stays refused, and what is refused in addition belongs to the class
of before and not to that of now. All this is for any classes, whatever they derive from.
-/
namespace ScopedCss

/-! ### Classes -/

namespace ThemeClass

theorem self_mem_ancestors (c : ThemeClass) : c ∈ c.ancestors := by
  cases c <;> exact List.mem_cons_self

mutual

theorem ancestors_subset {d : ThemeClass} : (c : ThemeClass) → d ∈ c.ancestors →
    d.ancestors ⊆ c.ancestors
  | .bare typeName, h => by
    rcases mem_ancestors_bare.1 h with rfl | ⟨rfl, rfl⟩
    · exact List.Subset.refl _
    · decide
  | .make name number bases, h => by
    rcases List.mem_cons.1 h with rfl | h
    · exact List.Subset.refl _
    · exact List.subset_cons_of_subset _ (ancestorsOf_subset bases h)

theorem ancestorsOf_subset {d : ThemeClass} : (cs : List ThemeClass) → d ∈ ancestorsOf cs →
    d.ancestors ⊆ ancestorsOf cs
  | c :: cs, h => by
    rcases List.mem_append.1 h with h | h
    · exact List.subset_append_of_subset_left _ (ancestors_subset c h)
    · exact List.subset_append_of_subset_right _ (ancestorsOf_subset cs h)

end

mutual

/-- What a class derives from is a part of it. -/
theorem sizeOf_le_of_mem_ancestors {d : ThemeClass} : (c : ThemeClass) → d ∈ c.ancestors →
    d = c ∨ sizeOf d < sizeOf c
  | .bare typeName, h => by
    rcases mem_ancestors_bare.1 h with rfl | ⟨rfl, rfl⟩
    · exact .inl rfl
    · exact .inr (by decide)
  | .make name number bases, h => by
    rcases List.mem_cons.1 h with rfl | h
    · exact .inl rfl
    · have := sizeOf_lt_of_mem_ancestorsOf bases h
      exact .inr (by simp only [make.sizeOf_spec]; omega)

theorem sizeOf_lt_of_mem_ancestorsOf {d : ThemeClass} : (cs : List ThemeClass) →
    d ∈ ancestorsOf cs → sizeOf d < sizeOf cs
  | c :: cs, h => by
    rcases List.mem_append.1 h with h | h
    · rcases sizeOf_le_of_mem_ancestors c h with rfl | h
      · simp only [List.cons.sizeOf_spec]; omega
      · simp only [List.cons.sizeOf_spec]; omega
    · have := sizeOf_lt_of_mem_ancestorsOf cs h
      simp only [List.cons.sizeOf_spec]; omega

end

variable {a b c : ThemeClass}

theorem derivesFrom_refl (c : ThemeClass) : c.derivesFrom c = true :=
  List.contains_iff_mem.2 c.self_mem_ancestors

theorem derivesFrom_trans (hab : a.derivesFrom b = true) (hbc : b.derivesFrom c = true) :
    a.derivesFrom c = true :=
  List.contains_iff_mem.2
    (ancestors_subset a (List.contains_iff_mem.1 hab) (List.contains_iff_mem.1 hbc))

/-- No two classes derive from each other. -/
theorem derivesFrom_antisymm (hab : a.derivesFrom b = true) (hba : b.derivesFrom a = true) :
    a = b := by
  rcases sizeOf_le_of_mem_ancestors a (List.contains_iff_mem.1 hab) with rfl | hlt
  · rfl
  · rcases sizeOf_le_of_mem_ancestors b (List.contains_iff_mem.1 hba) with rfl | hlt'
    · rfl
    · omega

end ThemeClass

/-- What the class of a theme can become: one that derives from it. -/
def Theme.Narrows (held now : Theme) : Prop := now.type.derivesFrom held.type = true

theorem Theme.Narrows.refl (held : Theme) : held.Narrows held := held.type.derivesFrom_refl

theorem Theme.Narrows.trans {a b c : Theme} (hab : a.Narrows b) (hbc : b.Narrows c) :
    a.Narrows c :=
  ThemeClass.derivesFrom_trans hbc hab

/-- The theme of a provider that there is has a class that came of the class of another theme. -/
structure Session.Narrowed (i : Nat) (held : Theme) (s : Session) : Prop where
  here : i < s.providers.length
  narrows : held.Narrows (s.provider i).theme

namespace Session.Narrowed

variable {i : Nat} {held : Theme} {s t : Session}

theorem same (h : s.Narrowed i held) (hproviders : t.providers = s.providers) :
    t.Narrowed i held := by
  have hthere : t.provider i = s.provider i := by rw [provider, provider, hproviders]
  exact ⟨hproviders ▸ h.here, hthere ▸ h.narrows⟩

theorem modifyProvider (h : s.Narrowed i held) {j : Nat} {f : Provider → Provider}
    (hchange : j = i → held.Narrows (f (s.provider i)).theme) :
    (s.modifyProvider j f).Narrowed i held := by
  refine ⟨by simpa using h.here, ?_⟩
  rcases s.provider_modifyProvider j i f with hother | ⟨this, hchanged⟩
  · exact hother ▸ h.narrows
  · exact hchanged ▸ hchange this

theorem addProvider (h : s.Narrowed i held) (p : Provider) (ids : List (String × Nat)) :
    { s with providers := s.providers ++ [p], providerIds := ids }.Narrowed i held := by
  refine ⟨?_, ?_⟩
  · rw [List.length_append]
    exact Nat.lt_add_right _ h.here
  · rw [provider, List.getD_eq_getElem?_getD, List.getElem?_append_left h.here,
      ← List.getD_eq_getElem?_getD]
    exact h.narrows

end Session.Narrowed

/-- The types of all themes narrow from a session to another one. -/
def Session.Narrows (s t : Session) : Prop := ∀ i held, s.Narrowed i held → t.Narrowed i held

theorem Session.course_narrows : Session.Course (fun _ => True) Session.Narrows where
  trans h hk i held hnarrowed := hk i held (h i held hnarrowed)
  ready _ _ _ hnarrowed := hnarrowed
  listeners _ _ _ _ _ := trivial
  scripts _ _ _ _ := trivial
  same _ hparts _ _ hnarrowed := hnarrowed.same hparts.providers
  addProvider _ _ _ _ _ _ _ hnarrowed := hnarrowed.addProvider _ _
  keepClass _ _ _ _ _ _ hnarrowed := hnarrowed.same rfl
  define _ _ _ _ hnarrowed := hnarrowed.same rfl
  subscribe _ _ _ _ hnarrowed := hnarrowed.same rfl

theorem Session.Narrows.modifyProvider {s t : Session} (h : s.Narrows t) {j : Nat}
    {f : Provider → Provider} (hkept : ∀ p, (f p).theme = p.theme) :
    s.Narrows (t.modifyProvider j f) := by
  intro i held hnarrowed
  refine (h i held hnarrowed).modifyProvider fun _ => ?_
  rw [hkept]
  exact (h i held hnarrowed).narrows

/-! ### Operations -/

section
variable {again : Step → Act Outcome} {s₀ : Session}

/-- The mark that a provider is busy says nothing about its theme. -/
theorem keeps_narrows_exclusive {α : Type} {act : Act α} (hkept : Keeps s₀.Narrows act) (j : Nat) :
    Keeps s₀.Narrows (Provider.exclusive j act) := by
  have hmarks (busy : Bool) : Keeps s₀.Narrows (Provider.setBusy j busy) :=
    keeps_modify fun _ h => h.modifyProvider fun _ => rfl
  have hmarked : Keeps s₀.Narrows (do
      Provider.setBusy j true
      let a ← tryCatch act fun e => do
        Provider.setBusy j false
        throw e
      Provider.setBusy j false
      return a) :=
    Keeps.bind (hmarks true) fun _ => Keeps.bind
      (hkept.tryCatch fun _ => Keeps.bind (hmarks false) fun _ => keeps_throw _) fun _ =>
        Keeps.bind (hmarks false) fun _ => keeps_pure _
  refine keeps_get_bind fun s _ => ?_
  split
  · exact Keeps.bind (keeps_throw _) fun _ => hmarked
  · exact hmarked

variable (hnested : ∀ (s₀ : Session) (step : Step), True → Keeps s₀.Narrows (again step))
include hnested

theorem keeps_narrows_mount (j : Nat) (g : Generator) :
    Keeps s₀.Narrows (Provider.mount again j g) := by
  refine keeps_get_bind fun s _ => ?_
  split
  · exact Session.course_narrows.keeps_tellReused hnested j g _
  · have happends (b : Nat) (theme : Theme) (start : Int) :
        Keeps s₀.Narrows (Provider.append again b theme g start) :=
      Session.course_narrows.keeps_append hnested (fun _ _ => trivial) b theme start
    have hwindows : Keeps s₀.Narrows (do
        let p := (← get).provider j
        let called ← Provider.append again p.backend p.theme g p.counter
        modify (·.modifyProvider j fun p => { p with counter := called.counter })
        Act.ofExcept called.result
        return (p.counter, called.counter)) :=
      keeps_get_bind fun _ _ => Keeps.bind (happends _ _ _) fun _ =>
        Keeps.bind (keeps_modify fun _ h => h.modifyProvider fun _ => rfl) fun _ =>
          Keeps.bind (keeps_ofExcept _) fun _ => keeps_pure _
    exact Keeps.bind (keeps_narrows_exclusive hwindows j) fun _ =>
      Keeps.bind (keeps_modify fun _ h => h.modifyProvider fun _ => rfl) fun _ =>
        Session.course_narrows.keeps_tellMounted hnested j g _ _

theorem keeps_narrows_renderWith (j : Nat) (theme : Theme) :
    Keeps s₀.Narrows (Provider.renderWith again j theme) :=
  keeps_narrows_exclusive (keeps_get_bind fun _ _ =>
    Session.course_narrows.keeps_replayAll hnested (fun _ _ hnarrowed => hnarrowed) j theme) j

theorem keeps_narrows_commit {j : Nat} {theme : Theme}
    (hnarrows : ∀ held, s₀.Narrowed j held → held.Narrows theme) (css : Text) :
    Keeps s₀.Narrows (Provider.commit again j theme css) := by
  refine keeps_get_bind fun s _ =>
    Keeps.bind (Session.course_narrows.keeps_replaceAll _ css) fun _ => ?_
  refine Keeps.bind (keeps_modify fun t h i held hnarrowed => ?_) fun _ =>
    Session.course_narrows.keeps_tellReplaced hnested j css
  refine (h i held hnarrowed).modifyProvider fun this => ?_
  subst this
  exact hnarrows held hnarrowed

/-- A theme is compared with the one that the provider has at that time. That one narrows, so the
new theme does, whatever happens while it is rendered. -/
theorem keeps_narrows_updateTheme (j : Nat) (theme : Theme) :
    Keeps s₀.Narrows (Provider.updateTheme again j theme) := by
  intro s h
  rcases Provider.updateTheme_cases again j theme s with
    ⟨e, hrefused⟩ | ⟨-, -, hunchanged⟩ | ⟨haccepted, -, hrendered⟩
  · rw [hrefused]
    exact h
  · rw [hunchanged]
    exact Session.course_narrows.keeps_tellUnchanged hnested j theme s h
  · rw [hrendered]
    refine Keeps.bind (keeps_narrows_renderWith hnested j theme) (fun css => ?_) s h
    refine keeps_narrows_commit hnested (fun held hnarrowed => ?_) css
    exact (h j held hnarrowed).narrows.trans haccepted

theorem along_narrows : Provider.Along Session.Narrows again where
  mount _ _ _ := keeps_narrows_mount hnested _ _
  updateTheme theme _ _ := keeps_narrows_updateTheme hnested _ theme
  render _ _ := keeps_get_bind fun _ _ => keeps_narrows_renderWith hnested _ _

end

theorem Session.Narrowed.run {i : Nat} {held : Theme} {s : Session} (h : s.Narrowed i held)
    (steps : List Step) : (s.run steps).Narrowed i held :=
  Session.course_narrows.run (fun _ => along_narrows) (fun _ _ hnarrowed => hnarrowed)
    (fun _ _ => trivial) i held h

/-! ### Refusals -/

/-- The failure is not about the type of a theme. -/
def Failure.Untyped (e : Failure) : Prop := ∀ expected got, e ≠ .wrongTheme expected got

section
variable {again : Step → Act Outcome} (hasked : ∀ step, FailsBy Failure.Untyped (again step))
include hasked

theorem failsBy_reaction (reaction : Reaction) :
    FailsBy Failure.Untyped (reaction.run again) := by
  cases reaction with
  | raise kind text => exact failsBy_throw (by simp [Failure.Untyped])
  | perform step => exact (hasked step).bind fun _ => failsBy_pure _

theorem failsBy_action (c : Call) (a : Action) : FailsBy Failure.Untyped (a.run again c) := by
  induction a with
  | write | advance | advanceByCalls => exact failsBy_modify _
  | rules label count =>
    exact failsBy_get_bind fun _ => (failsBy_modify _).bind fun _ => failsBy_modify _
  | onCall number a ih =>
    rw [Action.run]
    split
    · exact ih
    · exact failsBy_pure _
  | attempt a ih => exact failsBy_tryCatch fun _ => failsBy_modify _
  | react reaction => exact fun r => failsBy_reaction hasked reaction r.session

theorem failsBy_body (c : Call) (body : Generator.Body) :
    FailsBy Failure.Untyped (body.run again c) := by
  cases body with
  | base => exact failsBy_throw (by simp [Failure.Untyped])
  | compiled cls =>
    refine failsBy_get_bind fun r => (failsBy_modify _).bind fun _ => ?_
    split
    · exact failsBy_throw (by simp [Failure.Untyped])
    · exact failsBy_pure _
  | script actions => exact failsBy_forM (failsBy_action hasked c) actions

theorem failsBy_replay (theme : Theme) (r : Registration) :
    FailsBy Failure.Untyped (Provider.replay again theme r) := by
  intro s e hfailed
  -- A call always answers; what it failed with is part of the answer.
  rw [Provider.replay, exec_bind_of_ok (exec_call again r.generator theme .collected r.start s)]
    at hfailed
  refine FailsBy.bind (failsBy_ofExcept (failsBy_body hasked _ r.generator.body _)) (fun _ => ?_) _
    e hfailed
  split
  · exact failsBy_throw (by simp [Failure.Untyped])
  · exact failsBy_pure _

theorem failsBy_replayAll (theme : Theme) (rs : List Registration) :
    FailsBy Failure.Untyped (Provider.replayAll again theme rs) := by
  induction rs with
  | nil => exact failsBy_pure _
  | cons r rs ih =>
    exact (failsBy_replay hasked theme r).bind fun _ => ih.bind fun _ => failsBy_pure _

theorem failsBy_renderWith (i : Nat) (theme : Theme) :
    FailsBy Failure.Untyped (Provider.renderWith again i theme) := by
  intro s e hfailed
  cases hidle : (s.provider i).busy with
  | true =>
    rw [Provider.renderWith, Provider.exec_exclusive_of_busy _ hidle] at hfailed
    cases hfailed
    simp [Failure.Untyped]
  | false =>
    rw [Provider.renderWith, Provider.exec_exclusive _ hidle] at hfailed
    exact failsBy_get_bind (fun _ => failsBy_replayAll hasked theme _) _ e hfailed

theorem failsBy_listeners (e : Event) (ls : List String) :
    FailsBy Failure.Untyped (callListeners again e ls) := by
  induction ls with
  | nil => exact failsBy_pure _
  | cons l ls ih =>
    exact (failsBy_modify _).bind fun _ => failsBy_get_bind fun _ =>
      (failsBy_forM (failsBy_reaction hasked) _).bind fun _ => ih

theorem failsBy_log_tell (message : String) (i : Nat) (e : Event) :
    FailsBy Failure.Untyped (do
      Provider.log message
      Provider.tell again i e) := by
  refine (failsBy_modify _).bind fun _ => failsBy_get_bind fun s => ?_
  split
  · exact failsBy_get_bind fun _ => (failsBy_listeners hasked e _).bind fun _ =>
      failsBy_get_bind fun _ => failsBy_listeners hasked e _
  · exact failsBy_pure _

omit hasked in
theorem failsBy_replaceAll (b : Nat) (css : Text) :
    FailsBy Failure.Untyped (Provider.replaceAll b css) := by
  refine failsBy_get_bind fun s => ?_
  split
  · exact failsBy_modify _
  · refine failsBy_get_bind fun _ => (failsBy_ofFiles _ (by simp [Failure.Untyped])).bind
      fun written => ?_
    split
    · exact (failsBy_throw (by simp [Failure.Untyped])).bind fun _ => failsBy_modify _
    · exact failsBy_modify _

theorem failsBy_commit (i : Nat) (theme : Theme) (css : Text) :
    FailsBy Failure.Untyped (Provider.commit again i theme css) :=
  failsBy_get_bind fun _ => (failsBy_replaceAll _ css).bind fun _ =>
    (failsBy_modify _).bind fun _ => failsBy_get_bind fun _ => failsBy_log_tell hasked _ i _

/-- A switch to a theme of the right type fails for other reasons only. -/
theorem untyped_of_accepted {i : Nat} {s : Session} {theme : Theme} {e : Failure}
    (haccepted : theme.isInstanceOf (s.provider i).theme = true)
    (hfailed : (exec (Provider.updateTheme again i theme) s).1 = .error e) : e.Untyped := by
  cases hcompared : (s.provider i).theme.quickSame? theme with
  | none =>
    rw [Provider.exec_updateTheme_of_incomparable again haccepted hcompared] at hfailed
    cases hfailed
    simp [Failure.Untyped]
  | some same =>
    cases same with
    | true =>
      rw [Provider.exec_updateTheme_of_same again haccepted hcompared] at hfailed
      exact failsBy_log_tell hasked _ i _ s e hfailed
    | false =>
      rw [Provider.exec_updateTheme_of_differs again haccepted hcompared] at hfailed
      exact (failsBy_renderWith hasked i theme).bind (failsBy_commit hasked i theme) s e hfailed

end

/-- The provider refuses a theme for its type: whatever generators and listeners ask for, the switch
fails with that reason and changes nothing. -/
def Provider.Refuses (i : Nat) (s : Session) (theme : Theme) : Prop :=
  ∀ again, exec (updateTheme again i theme) s =
    (.error (.wrongTheme (s.provider i).theme.typeName theme.typeName), s)

theorem Provider.refuses_iff {i : Nat} {s : Session} {theme : Theme} :
    Refuses i s theme ↔ ¬ theme.isInstanceOf (s.provider i).theme = true := by
  constructor
  · intro hrefused haccepted
    -- Steps that do nothing do not fail, so the reason would have to be another one.
    have hasked (_ : Step) : FailsBy Failure.Untyped (pure .nothing : Act Outcome) :=
      failsBy_pure _
    exact untyped_of_accepted hasked haccepted (congrArg Prod.fst (hrefused _)) _ _ rfl
  · intro hwrong again
    exact exec_updateTheme_of_wrong again (Bool.eq_false_iff.2 hwrong)

/-- Over any steps, with all that generators and listeners ask for, and for any classes of themes,
the class of a provider's theme only moves on to derived classes. What the provider refuses for its
class stays refused; in addition it refuses exactly the themes that belong to the class of before
and not to that of now. The theme of before is among them as soon as the class has moved on, and as
long as it has not, the same themes are refused. -/
theorem refusals_narrow (before steps : List Step) {i : Nat}
    (hi : i < (Session.run {} before).providers.length) :
    let s := Session.run {} before
    let t := s.run steps
    let held := (s.provider i).theme
    let now := (t.provider i).theme
    now.type.derivesFrom held.type = true ∧
    (∀ theme, Provider.Refuses i s theme → Provider.Refuses i t theme) ∧
    (∀ theme, Provider.Refuses i t theme ↔ Provider.Refuses i s theme ∨
      theme.type.derivesFrom held.type = true ∧ theme.type.derivesFrom now.type = false) ∧
    (Provider.Refuses i t held ↔ now.type ≠ held.type) ∧
    (now.type = held.type → ∀ theme, Provider.Refuses i t theme ↔ Provider.Refuses i s theme) := by
  intro s t held now
  have hnow : now.type.derivesFrom held.type = true :=
    (Session.Narrowed.run ⟨hi, .refl held⟩ steps).narrows
  have hstays (theme : Theme) (hrefused : ¬ theme.type.derivesFrom held.type = true) :
      ¬ theme.type.derivesFrom now.type = true :=
    fun htaken => hrefused (ThemeClass.derivesFrom_trans htaken hnow)
  simp only [Provider.refuses_iff]
  refine ⟨hnow, hstays, fun theme => ⟨fun hrefused => ?_, ?_⟩, ?_, ?_⟩
  · by_cases hbefore : theme.type.derivesFrom held.type = true
    · exact .inr ⟨hbefore, Bool.eq_false_iff.2 hrefused⟩
    · exact .inl hbefore
  · rintro (hbefore | ⟨-, hrefused⟩)
    · exact hstays theme hbefore
    · exact Bool.eq_false_iff.1 hrefused
  · refine not_congr ⟨fun hback => ThemeClass.derivesFrom_antisymm hnow hback, fun hsame => ?_⟩
    change held.type.derivesFrom now.type = true
    rw [hsame]
    exact held.type.derivesFrom_refl
  · intro hsame theme
    change ¬ theme.type.derivesFrom now.type = true ↔ ¬ theme.type.derivesFrom held.type = true
    rw [hsame]

/-- A provider whose theme has a color, on which something is mounted. -/
def beforeSwitching : List Step := [
  .newProvider "p" .memory (.mapping [("color", .text "red")]) true,
  .define "g" (.whole 1) "g" [.rules "a" 2],
  .mountGenerator "p" "g"]

/-- Two classes that both derive from the mapping themes, and one that derives from both of them. -/
def warmTheme : MappingClass := ⟨.make "Warm" 1 [.mappingTheme], by decide⟩

def darkTheme : MappingClass := ⟨.make "Dark" 2 [.mappingTheme], by decide⟩

def emberTheme : MappingClass := ⟨.make "Ember" 3 [warmTheme.1, darkTheme.1], by decide⟩

/-- A switch that keeps the class of the theme, one to a derived class and one to a class derived
from that. -/
def switches : List Step := [
  .updateTheme "p" (.mapping [("color", .text "blue")]),
  .updateTheme "p" (.derived warmTheme [("color", .text "green")]),
  .updateTheme "p" (.derived emberTheme [("color", .text "black")])]

theorem refusals_narrow_colors :
    let s := Session.run {} beforeSwitching
    let t := s.run (switches.take 1)
    let u := s.run (switches.take 2)
    let w := s.run switches
    0 < s.providers.length ∧
      (s.provider 0).theme.display ≠ (t.provider 0).theme.display ∧
      (t.provider 0).theme.type = .mappingTheme ∧ (u.provider 0).theme.type = warmTheme.1 ∧
      (w.provider 0).theme.type = emberTheme.1 ∧
      ¬ Provider.Refuses 0 t (s.provider 0).theme ∧ Provider.Refuses 0 u (s.provider 0).theme ∧
      Provider.Refuses 0 u (.derived darkTheme []) ∧
      ¬ Provider.Refuses 0 s (.derived darkTheme []) ∧
      Provider.Refuses 0 w (.derived warmTheme []) := by
  have hhere : 0 < (Session.run {} beforeSwitching).providers.length := by decide +kernel
  obtain ⟨-, -, -, honce, -⟩ := refusals_narrow beforeSwitching (switches.take 1) hhere
  obtain ⟨-, -, htwice, hback, -⟩ := refusals_narrow beforeSwitching (switches.take 2) hhere
  obtain ⟨-, -, hthrice, -, -⟩ := refusals_narrow beforeSwitching switches hhere
  refine ⟨hhere, by decide +kernel, by decide +kernel, by decide +kernel, by decide +kernel,
    fun hrefused => honce.1 hrefused (by decide +kernel), hback.2 (by decide +kernel),
    (htwice _).2 (.inr (by decide +kernel)), ?_, (hthrice _).2 (.inr (by decide +kernel))⟩
  rw [Provider.refuses_iff]
  decide +kernel

/-- A switch to a derived theme cannot be switched back. -/
theorem derived_switch_final :
    let s := Session.run {} [.newProvider "p" .memory (.mapping []) true]
    let t := s.run [.updateTheme "p" (.submapping [("a", .int 1)])]
    (s.provider 0).theme = .mapping [] ∧ (t.provider 0).theme = .submapping [("a", .int 1)] ∧
      ¬ Provider.Refuses 0 s (.mapping []) ∧ Provider.Refuses 0 t (.mapping []) := by
  intro s t
  have hheld : (s.provider 0).theme = .mapping [] := rfl
  have hnow : (t.provider 0).theme = .submapping [("a", .int 1)] := rfl
  rw [Provider.refuses_iff, Provider.refuses_iff, hheld, hnow]
  exact ⟨rfl, rfl, by decide, by decide⟩

end ScopedCss

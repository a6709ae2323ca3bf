import Mathlib
import ScopedCss.Proofs.Continuity
import ScopedCss.Proofs.Evolution

/-!
The class names that a provider gives. A class name is the prefix of its class and the number of a
slot, with nothing between them. Main statement: over a whole run, the class names that one provider
gives are different for different classes and for different fields, as long as no prefix is the
other one with a number behind it, no generator moves a counter back and no value suspends its
class. Otherwise two classes can be given the same class name.

All of Mathlib is imported, for the equations by which the sources at the end are compiled.
-/
namespace ScopedCss

/-! ### Prefixes and numbers -/

/-- Neither prefix is the other one with a number behind it. -/
def Apart (p q : String) : Prop :=
  ∀ k : Nat, 0 < k → p ++ toString k ≠ q ∧ q ++ toString k ≠ p

/-- The digits that a number starts with are those of a number. -/
theorem exists_toDigits_of_append {n : Nat} {front back : List Char} (hpositive : 0 < n)
    (hsplit : Nat.toDigits 10 n = front ++ back) (hnonempty : front ≠ []) :
    ∃ k, 0 < k ∧ Nat.toDigits 10 k = front := by
  induction n using Nat.strongRecOn generalizing back with
  | ind n ih =>
    rcases List.eq_nil_or_concat back with rfl | ⟨back, last, rfl⟩
    · exact ⟨n, hpositive, by simpa using hsplit⟩
    · -- The last digit of the number stands behind the front, so it can be dropped.
      have hmany : 10 ≤ n := by
        by_contra hfew
        rw [Nat.toDigits_of_lt_base (Nat.not_le.1 hfew)] at hsplit
        have hlength := congrArg List.length hsplit
        rw [List.length_singleton, List.length_append, List.length_concat] at hlength
        have := List.length_pos_of_ne_nil hnonempty
        omega
      rw [Nat.toDigits_of_base_le (by decide) hmany, List.concat_eq_append,
        ← List.append_assoc] at hsplit
      exact ih (n / 10) (by omega) (by omega) (List.append_inj_left' hsplit rfl)

section
variable {p q : String} {a b : Nat}

theorem eq_nil_of_toDigits {middle : List Char} (hapart : ∀ k : Nat, 0 < k → p ++ toString k ≠ q)
    (hlonger : q.toList = p.toList ++ middle)
    (hsplit : Nat.toDigits 10 a = middle ++ Nat.toDigits 10 b) : middle = [] := by
  by_contra hnonempty
  have hpositive : 0 < a := by
    by_contra hzero
    obtain rfl : a = 0 := Nat.eq_zero_of_not_pos hzero
    have hlength := congrArg List.length hsplit
    rw [Nat.toDigits_of_lt_base (by decide), List.length_singleton, List.length_append] at hlength
    have := List.length_pos_of_ne_nil hnonempty
    have : 0 < (Nat.toDigits 10 b).length := Nat.length_toDigits_pos
    omega
  obtain ⟨k, hk, rfl⟩ := exists_toDigits_of_append hpositive hsplit hnonempty
  refine hapart k hk (String.toList_inj.1 ?_)
  rw [hlonger, String.toList_append, Nat.toString_eq_repr, Nat.toList_repr]

/-- With prefixes that are apart, a class name tells its prefix and its slot. -/
theorem Apart.eq_of_append (hapart : Apart p q) (h : p ++ toString a = q ++ toString b) :
    p = q ∧ a = b := by
  have hletters : p.toList ++ Nat.toDigits 10 a = q.toList ++ Nat.toDigits 10 b := by
    simpa [Nat.toString_eq_repr, Nat.toList_repr] using congrArg String.toList h
  have hsame : p = q := by
    rcases List.append_eq_append_iff.1 hletters with
      ⟨middle, hlonger, hsplit⟩ | ⟨middle, hlonger, hsplit⟩
    · obtain rfl := eq_nil_of_toDigits (fun k hk => (hapart k hk).1) hlonger hsplit
      exact String.toList_inj.1 (by simpa using hlonger.symm)
    · obtain rfl := eq_nil_of_toDigits (fun k hk => (hapart k hk).2) hlonger hsplit
      exact String.toList_inj.1 (by simpa using hlonger)
  subst hsame
  have hdigits := congrArg (Nat.ofDigitChars 10 · 0) (List.append_cancel_left hletters)
  exact ⟨rfl, by simpa using hdigits⟩

/-- What ends in a number ends in a digit. -/
theorem append_toString_ne (hq : ∀ c ∈ q.toList.getLast?, c.isDigit = false) (k : Nat) :
    p ++ toString k ≠ q := by
  rintro rfl
  rw [Nat.toString_eq_repr, String.toList_append, Nat.toList_repr,
    List.getLast?_append_of_ne_nil _ Nat.toDigits_ne_nil,
    List.getLast?_eq_some_getLast Nat.toDigits_ne_nil] at hq
  have hdigit := Nat.isDigit_of_mem_toDigits (n := k) (by decide) (Nat.le_refl 10)
    (List.getLast_mem Nat.toDigits_ne_nil)
  rw [hq _ rfl] at hdigit
  cases hdigit

/-- Prefixes that end in no digit are apart. -/
theorem apart_of_getLast (hp : ∀ c ∈ p.toList.getLast?, c.isDigit = false)
    (hq : ∀ c ∈ q.toList.getLast?, c.isDigit = false) : Apart p q :=
  fun k _ => ⟨append_toString_ne hq k, append_toString_ne hp k⟩

/-- What can stand behind the number of a slot. -/
def units : List String := ["", "px"]

theorem append_px_ne : p ++ toString a ≠ q ++ "px" := by
  refine append_toString_ne (fun c hlast => ?_) a
  rw [String.toList_append, List.getLast?_append_of_ne_nil _ (by decide)] at hlast
  obtain rfl : 'x' = c := by simpa using hlast
  rfl

/-- Units do not hide numbers. -/
theorem eq_of_append_unit {first second : String} (hf : first ∈ units) (hs : second ∈ units)
    (h : p ++ toString a ++ first = q ++ toString b ++ second) :
    p ++ toString a = q ++ toString b := by
  simp only [units, List.mem_cons, List.not_mem_nil, or_false] at hf hs
  rcases hf with rfl | rfl <;> rcases hs with rfl | rfl
  · simpa using h
  · exact absurd (by simpa using h) append_px_ne
  · exact absurd (by simpa using h.symm) append_px_ne
  · exact String.append_left_inj "px" |>.1 h

end

/-! ### The class names of a window -/

namespace Value

theorem eq_of_toText_int {n : Int} {u : Text} (h : (Value.int n).toText = .ok u) :
    u = .ofString (toString n) := by
  obtain ⟨shown, hmade, hrest⟩ := bind_eq_ok.1 h
  cases hrest
  rw [display, intText] at hmade
  split at hmade
  · cases hmade
  · cases hmade
    rfl

/-- Only texts can be joined to a text. -/
theorem text_of_add {t : Text} {v w : Value} (h : arith .add (.text t) v = .ok w) :
    ∃ u, v = .text u ∧ w = .text (t ++ u) := by
  cases v <;> simp_all [arith, numeric?, sequenceArith]

/-- Whatever makes a text of a number prints the number, with a unit behind it or without. -/
theorem text_of_call {f : Value} {n : Int} {t : Text} (h : f.call [.int n] [] = .ok (.text t)) :
    ∃ unit ∈ units, t = .ofString (toString n ++ unit) := by
  cases f with
  | function g =>
    cases g with
    | pixels =>
      obtain ⟨args, hbound, h⟩ := bind_eq_ok.1 h
      cases hbound
      obtain ⟨u, hshown, h⟩ := bind_eq_ok.1 h
      cases h
      exact ⟨"px", by decide, by rw [eq_of_toText_int hshown]; rfl⟩
    | _ => cases h
  | classRef c =>
    cases c with
    | text =>
      obtain ⟨args, hbound, h⟩ := bind_eq_ok.1 h
      cases hbound
      obtain ⟨_, -, h⟩ := bind_eq_ok.1 h
      obtain ⟨_, -, h⟩ := bind_eq_ok.1 h
      obtain ⟨u, hshown, h⟩ := bind_eq_ok.1 h
      cases h
      exact ⟨"", by decide, by rw [eq_of_toText_int hshown, String.append_empty]⟩
    | generated name fields =>
      obtain ⟨values, -, h⟩ := bind_eq_ok.1 h
      cases h
    | _ => cases h
  | method receiver name =>
    -- Neither a comparison nor a reading of a member makes a text of a number.
    change callMethod receiver name [.int n] [] = _ at h
    unfold callMethod at h
    split at h
    · obtain ⟨args, hbound, h⟩ := bind_eq_ok.1 h
      cases hbound
      cases h
    · obtain ⟨args, hbound, h⟩ := bind_eq_ok.1 h
      cases hbound
      cases h
    · cases h
  | _ => cases h

end Value

section
variable {cls : StyleClass}

theorem StyleClass.className_eq_ok {slot : Int} {u : Text} (h : cls.className slot = .ok u) :
    ∃ unit ∈ units, u = .ofString (cls.definition.classPrefix ++ toString slot ++ unit) := by
  unfold className at h
  split at h
  · cases h
    exact ⟨"", by decide, by rw [String.append_empty]⟩
  · obtain ⟨v, hcalled, h⟩ := bind_eq_ok.1 h
    obtain ⟨w, hjoined, h⟩ := bind_eq_ok.1 h
    obtain ⟨t, rfl, rfl⟩ := Value.text_of_add hjoined
    obtain ⟨unit, hknown, rfl⟩ := Value.text_of_call hcalled
    cases h
    exact ⟨unit, hknown, by rw [String.append_assoc]; rfl⟩

/-- A class name is the prefix and the slot of its field. -/
theorem StyleClass.slot_of_fields {start : Int} {names : List (String × Text)}
    (hgiven : cls.fields start = .ok names) {x : String} {u : Text} (hmember : (x, u) ∈ names) :
    ∃ k, (x, k) ∈ cls.definition.fields ∧ ∃ unit ∈ units,
      u = .ofString (cls.definition.classPrefix ++ toString (start + k) ++ unit) := by
  unfold fields at hgiven
  split at hgiven
  · cases hgiven
  · obtain ⟨⟨y, k⟩, hfield, hmade⟩ := exists_of_mem_mapM hgiven hmember
    obtain ⟨name, hnamed, hmade⟩ := bind_eq_ok.1 hmade
    cases hmade
    exact ⟨k, hfield, className_eq_ok hnamed⟩

end

namespace ClassDef

variable {c : CompiledStyle} {x y : String} {k : Nat}

theorem lt_slotCount_of_mem (h : (x, k) ∈ (ofCompiled c).fields) :
    k < (ofCompiled c).slotCount := by
  have hinside := (List.getElem?_eq_some_iff.1 (List.mem_zipIdx_iff_getElem?.1 h)).1
  rwa [SlotTable.names, List.length_map] at hinside

/-- No slot is that of two fields. -/
theorem eq_of_mem_fields (hx : (x, k) ∈ (ofCompiled c).fields)
    (hy : (y, k) ∈ (ofCompiled c).fields) : x = y :=
  Option.some.inj ((List.mem_zipIdx_iff_getElem?.1 hx).symm.trans
    (List.mem_zipIdx_iff_getElem?.1 hy))

end ClassDef

/-! ### What a provider has given -/

/-- The class names of a class are those of its window on a provider. -/
structure Session.Gave (s : Session) (i n : Nat) (cls : StyleClass)
    (names : List (String × Text)) : Prop where
  here : i < s.providers.length
  window : ∃ r ∈ (s.provider i).registrations,
    r.generator = (Mountable.compiled n cls).generator ∧ cls.fields r.start = .ok names

namespace Session

variable {language : Language} {s t : Session} {i n m : Nat} {A B : StyleClass}
  {names others : List (String × Text)}

theorem Gave.later (h : s.Gave i n A names) (hevolves : s.Evolves language t) :
    t.Gave i n A names := by
  obtain ⟨r, hmember, hown⟩ := h.window
  exact ⟨Nat.lt_of_lt_of_le h.here hevolves.length, r,
    (hevolves.changes i h.here).registrations_grow.subset hmember, hown⟩

/-- Every class name that was given is the prefix and a slot of the window. -/
theorem Gave.slot (h : s.Gave i n A names) (hsound : s.Sound language)
    (hrunning : A.isSuspended = false) {x : String} {u : Text} (hx : (x, u) ∈ names) :
    ∃ r ∈ (s.provider i).registrations, r.generator = (Mountable.compiled n A).generator ∧
      ∃ j k : Nat, (x, j) ∈ A.definition.fields ∧ (k : Int) = r.start + j ∧ k < r.stop ∧
        ∃ unit ∈ units, u = .ofString (A.definition.classPrefix ++ toString k ++ unit) := by
  obtain ⟨r, hmember, hown, hgiven⟩ := h.window
  have hlayered := hsound.layered _ (mem_provider h.here)
  have hbody : r.generator.body = .compiled A := by rw [hown]; rfl
  obtain ⟨c, hcompiled⟩ := (hsound.proper _ (knows_registered hmember)).compiled A hbody
  obtain ⟨j, hfield, unit, hknown, rfl⟩ := StyleClass.slot_of_fields hgiven hx
  obtain ⟨a, ha⟩ := Int.eq_ofNat_of_zero_le (hlayered.bounded r hmember).1
  refine ⟨r, hmember, hown, j, a + j, hfield, by omega, ?_, unit, hknown, by rw [ha]; rfl⟩
  have hlow := ClassDef.lt_slotCount_of_mem (hcompiled ▸ hfield)
  have hwide := hlayered.width r hmember A hbody hrunning
  rw [hcompiled] at hwide
  omega

/-- In a sound session, the class names that a provider has given are different. -/
theorem Gave.ne (hA : s.Gave i n A names) (hB : s.Gave i m B others) (hsound : s.Sound language)
    (hrunA : A.isSuspended = false) (hrunB : B.isSuspended = false)
    (hapart : Apart A.definition.classPrefix B.definition.classPrefix) {x y : String} {u v : Text}
    (hx : (x, u) ∈ names) (hy : (y, v) ∈ others) (hdifferent : (n, x) ≠ (m, y)) : u ≠ v := by
  rintro rfl
  obtain ⟨r, hinR, hownR, j, a, hfieldX, hslotA, hendA, first, hf, rfl⟩ := hA.slot hsound hrunA hx
  obtain ⟨q, hinQ, hownQ, k, b, hfieldY, hslotB, hendB, second, hs, hsame⟩ :=
    hB.slot hsound hrunB hy
  -- The prefixes are apart, so the two names are of one slot, and only one window has it.
  obtain ⟨-, rfl⟩ := hapart.eq_of_append (eq_of_append_unit hf hs (congrArg Text.front hsame))
  have hlayered := hsound.layered _ (mem_provider hA.here)
  obtain rfl : r = q := hlayered.eq_of_slot hinR hinQ ⟨by omega, hendA⟩ ⟨by omega, hendB⟩
  obtain ⟨rfl, -, -, hbody⟩ := Generator.mk.inj (hownR.symm.trans hownQ)
  cases hbody
  obtain rfl : j = k := by omega
  obtain ⟨c, hcompiled⟩ :=
    (hsound.proper _ (knows_registered hinR)).compiled A (by rw [hownR]; rfl)
  rw [hcompiled] at hfieldX hfieldY
  exact hdifferent (by rw [ClassDef.eq_of_mem_fields hfieldX hfieldY])

/-- A step that mounts a class on a provider gives its class names. -/
structure Gives (s : Session) (step : Step) (i n : Nat) (cls : StyleClass)
    (names : List (String × Text)) : Prop where
  asks : ∃ p c, (step = .mount p c ∨ step = .useStyle p c) ∧ s.providerIds.lookup p = some i ∧
    s.classes.lookup c = some (.compiled n cls)
  given : (s.perform step).1 = .ok (.fields names)

theorem gave_of_mountClass {again : Step → Act Outcome}
    (hnested : ∀ (s₀ : Session) (step : Step), step.Forward language →
      Keeps (s₀.Evolves language) (again step))
    (hcontinued : ∀ (s₀ : Session) (step : Step), Keeps s₀.Continues (again step))
    (hsound : s.Sound language) (hi : i < s.providers.length)
    (hknown : s.Knows (Mountable.compiled n A).generator)
    (hdone : exec (Provider.mountClass again i (.compiled n A)) s = (.ok names, t)) :
    t.Gave i n A names := by
  have hevolved := evolves_mountClass hnested hsound hi hknown
  rw [hdone] at hevolved
  obtain ⟨start, u, hmounted, hgiven⟩ := exec_bind_eq_ok.1 hdone
  obtain ⟨hmade, rfl⟩ := exec_ofExcept_eq_ok.1 hgiven
  have hinside := Nat.lt_of_lt_of_le hi hevolved.length
  obtain ⟨r, hfound, rfl⟩ := found_of_mount hcontinued hsound.ids hi hmounted
  obtain ⟨hmember, hidentity⟩ :=
    (hevolved.sound.layered _ (mem_provider hinside)).registered? hfound
  have hown := hevolved.sound.sole _ _ n (knows_registered hmember) (hevolved.knows _ hknown)
    hidentity rfl
  exact ⟨hinside, r, hmember, hown, mapError_eq_ok.1 hmade⟩

theorem exec_run_of_asks {again : Step → Act Outcome} {step : Step} {p c : String} {m : Mountable}
    (hmounts : step = .mount p c ∨ step = .useStyle p c) (hplace : s.providerIds.lookup p = some i)
    (hnamed : s.classes.lookup c = some m) :
    exec (step.run again) s =
      exec (Provider.mountClass again i m >>= fun names => pure (.fields names)) s := by
  rcases hmounts with rfl | rfl
  · rw [Step.run, exec_bind_of_ok (Step.exec_providerNumber hplace),
      exec_bind_of_ok (Step.exec_className hnamed)]
  · rw [Step.run, exec_bind_of_ok (Step.exec_className hnamed),
      exec_bind_of_ok (Step.exec_providerNumber hplace)]

theorem Gives.gave {step : Step} (h : s.Gives step i n A names) (hsound : s.Sound language) :
    (s.perform step).2.Gave i n A names := by
  obtain ⟨p, c, hmounts, hplace, hnamed⟩ := h.asks
  have hquiet := hsound.evolves_quiet
  have hdone : exec (step.run (Step.perform (depth - 1))) s.quiet =
      (.ok (.fields names), (s.perform step).2) := Prod.ext h.given rfl
  rw [exec_run_of_asks (s := s.quiet) hmounts hplace hnamed] at hdone
  obtain ⟨_, t, hmounted, hgiven⟩ := exec_bind_eq_ok.1 hdone
  cases hgiven
  exact gave_of_mountClass (fun _ _ => keeps_evolves_perform (depth - 1))
    (fun _ => keeps_continues_perform (depth - 1)) hquiet.sound
    (hquiet.sound.ids (p, i) (mem_of_lookup_eq_some hplace)) (knows_class hnamed) hmounted

/-- In a run from the start, with values of a language, one of the steps gives the class names. -/
def Handed (language : Language) (steps : List Step) (i n : Nat) (cls : StyleClass)
    (names : List (String × Text)) : Prop :=
  ∃ before step behind, steps = before ++ step :: behind ∧
    (run { language := language } before).Gives step i n cls names

theorem Handed.gave {steps : List Step} (h : Handed language steps i n A names)
    (hforward : ∀ step ∈ steps, step.Forward language) :
    (run { language := language } steps).Gave i n A names := by
  obtain ⟨before, step, behind, rfl, hgives⟩ := h
  have hsound := ((sound_empty language).evolves_run fun step hmember =>
    hforward step (List.mem_append_left _ hmember)).sound
  have hfirst := hsound.evolves_perform (hforward step (by simp))
  rw [run, List.foldl_append]
  exact (hgives.gave hsound).later (hfirst.sound.evolves_run fun step hmember =>
    hforward step (by simp [hmember]))

end Session

namespace Session

variable {s : Session} {p c start x : String} {u : Text} {i n : Nat}

/-- The class names that a step gives; most steps give none. -/
def names (s : Session) (step : Step) : List (String × Text) :=
  match (s.perform step).1 with
  | .ok (.fields names) => names
  | _ => []

/-- The number and the prefix of a class whose calls run. -/
def classPrefix? (s : Session) (c : String) : Option (Nat × String) :=
  match s.classes.lookup c with
  | some (.compiled n cls) => if cls.isSuspended then none else some (n, cls.definition.classPrefix)
  | _ => none

theorem perform_of_mem_names {step : Step} (hgiven : (x, u) ∈ s.names step) :
    (s.perform step).1 = .ok (.fields (s.names step)) := by
  unfold names at hgiven ⊢
  split
  · assumption
  · simp_all

theorem class_of_classPrefix? (h : s.classPrefix? c = some (n, start)) :
    ∃ cls, s.classes.lookup c = some (.compiled n cls) ∧ cls.definition.classPrefix = start ∧
      cls.isSuspended = false := by
  unfold classPrefix? at h
  split at h
  · next cls hnamed =>
    split at h
    · cases h
    · next hrunning =>
      cases h
      exact ⟨cls, hnamed, rfl, Bool.not_eq_true _ ▸ hrunning⟩
  · cases h

/-- What mounting a class in a run gives can be computed. -/
theorem exists_handed {language : Language} (before behind : List Step)
    (hreached : run { language := language } before = s)
    (hplace : s.providerIds.lookup p = some i) (hknown : s.classPrefix? c = some (n, start))
    (hgiven : (x, u) ∈ s.names (.mount p c)) :
    ∃ cls names, Handed language (before ++ .mount p c :: behind) i n cls names ∧
      (x, u) ∈ names ∧ cls.definition.classPrefix = start ∧ cls.isSuspended = false := by
  subst hreached
  obtain ⟨cls, hnamed, hown, hrunning⟩ := class_of_classPrefix? hknown
  exact ⟨cls, _, ⟨before, _, behind, rfl, ⟨p, c, .inl rfl, hplace, hnamed⟩,
    perform_of_mem_names hgiven⟩, hgiven, hown, hrunning⟩

end Session

section
variable {language : Language} {source : String} {given : Namespace} {settings : Settings}
  {config : Config} {compiled : List CompiledStyle} {classes : List StyleClass}
  (hconfig : Config.ofSettings? settings = some config)
  (hloads : StyleClass.Loads language given config source compiled classes)
include hconfig hloads

theorem Step.forward_of_loads (hstill : classes.all (·.isInactive) = true) (label : String) :
    (Step.compile source given settings label).Forward language := by
  have hmade := StyleClass.madeFrom_eq hconfig hloads.accepted hloads.loaded
  simp only [Step.Forward, hmade]
  exact fun cls hmember => StyleClass.forward_of_inactive (List.all_eq_true.1 hstill cls hmember)

theorem Session.perform_of_loads {s : Session} (hspoken : s.language = language) (label : String) :
    (s.perform (.compile source given settings label)).2 =
      (exec (classes.forM (Step.keepClass label))
        (s.quiet.addLogs (Compile.source config source).logs)).2 := by
  subst hspoken
  show (exec (Step.compileSource source given settings label >>= fun names =>
    pure (Outcome.names names)) s.quiet).2 = _
  rw [exec_bind_snd fun _ _ => rfl, Step.compileSource, hconfig]
  dsimp only
  rw [exec_modify_bind, hloads.accepted]
  dsimp only [Except.mapError]
  rw [exec_bind_of_ok (exec_ofExcept_ok compiled _), exec_get_bind,
    show (s.quiet.addLogs _).language = s.language from rfl, hloads.loaded]
  dsimp only [Except.mapError]
  rw [exec_bind_of_ok (exec_ofExcept_ok classes _), exec_bind_snd fun _ _ => rfl]

end

theorem Step.language_keepAll (label : String) (classes : List StyleClass) (s : Session) :
    (exec (classes.forM (Step.keepClass label)) s).2.language = s.language := by
  have hkept : Keeps (fun t : Session => t.language = s.language)
      (classes.forM (Step.keepClass label)) :=
    keeps_forM fun _ _ => keeps_modify fun _ h => h
  exact hkept s rfl

def narrowBlock : String := "(t: T) -> A \x7b a \x7b c: t \x7d \x7d"

def wideBlocks : String :=
  "(t: T) -> B \x7b \".a.b.c.d.e.f.g.h.i.j\" \x7b c: t \x7d \x7d " ++
    "(t: T) -> C \x7b k \x7b c: t \x7d \x7d"

/-- A provider and three classes, the first with the prefix css-1 and the others with css-. -/
def beforeCrowded : List Step := [
  .newProvider "p" .memory .empty true,
  .compile narrowBlock [] { classPrefix := "css-1" } "",
  .compile wideBlocks [] {} ""]

/-- The classes are mounted one after the other, so that the last slot of the second is slot 10. -/
def crowded : List Step := beforeCrowded ++ [.mount "p" "A", .mount "p" "B", .mount "p" "C"]

/-- What mounting the classes gives on the way. -/
def Session.Crowds (s : Session) : Prop :=
  let t := (s.perform (.mount "p" "A")).2
  let u := (t.perform (.mount "p" "B")).2
  (s.providerIds.lookup "p" = some 0 ∧ s.classPrefix? "A" = some (1, "css-1") ∧
    ("a", Text.ofString "css-10") ∈ s.names (.mount "p" "A")) ∧
  (t.providerIds.lookup "p" = some 0 ∧ t.classPrefix? "B" = some (2, "css-") ∧
    ("j", Text.ofString "css-10") ∈ t.names (.mount "p" "B")) ∧
  u.providerIds.lookup "p" = some 0 ∧ u.classPrefix? "C" = some (3, "css-") ∧
    ("k", Text.ofString "css-11") ∈ u.names (.mount "p" "C")

theorem crowded_names : (∀ step ∈ crowded, step.Forward .basic) ∧
    ∃ s, Session.run {} beforeCrowded = s ∧ s.Crowds := by
  obtain ⟨config, compiled, narrow, config', compiled', wide, s, hconfig, hnarrow, hconfig', hwide,
    hstill, hstill', hs, hnames⟩ : ∃ config compiled narrow config' compiled' wide s,
      Config.ofSettings? { classPrefix := "css-1" } = some config ∧
      StyleClass.Loads .basic [] config narrowBlock compiled narrow ∧
      Config.ofSettings? {} = some config' ∧
      StyleClass.Loads .basic [] config' wideBlocks compiled' wide ∧
      narrow.all (·.isInactive) = true ∧ wide.all (·.isInactive) = true ∧
      (exec (wide.forM (Step.keepClass "")) ((exec (narrow.forM (Step.keepClass ""))
        ((({} : Session).perform (.newProvider "p" .memory .empty true)).2.quiet.addLogs
          (Compile.source config narrowBlock).logs)).2.quiet.addLogs
            (Compile.source config' wideBlocks).logs)).2 = s ∧ s.Crowds :=
    ⟨_, _, _, _, _, _, _, by cbv, ⟨by cbv, by cbv, by cbv, by cbv⟩, by cbv,
      ⟨by cbv, by cbv, by cbv, by cbv⟩, by cbv, by cbv, by cbv,
      by unfold Session.Crowds; decide +kernel⟩
  refine ⟨?_, s, ?_, hnames⟩
  · simp only [crowded, beforeCrowded, List.cons_append, List.nil_append, List.forall_mem_cons]
    exact ⟨trivial, Step.forward_of_loads hconfig hnarrow hstill "",
      Step.forward_of_loads hconfig' hwide hstill' "", trivial, trivial, trivial,
      List.forall_mem_nil _⟩
  · rw [← hs]
    simp only [beforeCrowded, Session.run, List.foldl_cons, List.foldl_nil]
    rw [Session.perform_of_loads hconfig hnarrow rfl,
      Session.perform_of_loads hconfig' hwide (Step.language_keepAll _ _ _)]

theorem crowded_handed :
    (∃ A names, Session.Handed .basic crowded 0 1 A names ∧
      ("a", Text.ofString "css-10") ∈ names ∧ A.definition.classPrefix = "css-1" ∧
      A.isSuspended = false) ∧
    (∃ B names, Session.Handed .basic crowded 0 2 B names ∧
      ("j", Text.ofString "css-10") ∈ names ∧ B.definition.classPrefix = "css-" ∧
      B.isSuspended = false) ∧
    ∃ C names, Session.Handed .basic crowded 0 3 C names ∧
      ("k", Text.ofString "css-11") ∈ names ∧ C.definition.classPrefix = "css-" ∧
      C.isSuspended = false := by
  obtain ⟨-, s, hreached, ⟨hplace, hknown, hgiven⟩, ⟨hplace', hknown', hgiven'⟩, hplace'', hknown'',
    hgiven''⟩ := crowded_names
  have hsecond : Session.run {} (beforeCrowded ++ [.mount "p" "A"]) =
      (s.perform (.mount "p" "A")).2 := by
    rw [Session.run, List.foldl_append, ← hreached]
    rfl
  have hthird : Session.run {} (beforeCrowded ++ [.mount "p" "A", .mount "p" "B"]) =
      ((s.perform (.mount "p" "A")).2.perform (.mount "p" "B")).2 := by
    rw [Session.run, List.foldl_append, ← hreached]
    rfl
  exact ⟨Session.exists_handed beforeCrowded [.mount "p" "B", .mount "p" "C"] hreached hplace hknown
      hgiven,
    Session.exists_handed _ [.mount "p" "C"] hsecond hplace' hknown' hgiven',
    Session.exists_handed _ [] hthird hplace'' hknown'' hgiven''⟩

end ScopedCss

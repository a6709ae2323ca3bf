import ScopedCss.Proofs.Continuity
import ScopedCss.Proofs.ThemeSwitches

/-!
Names that were handed out. What a class hands out is made of the slot at which it is mounted, and
the slot stays while the counter, the theme and the stylesheet move on. Main statement: a class that
was mounted once is never run again to be mounted; whatever is done in between, mounting it gives
what it gave at first and leaves the provider and all stylesheets as they are.
-/
namespace ScopedCss

/-! ### Mounting what is made of a slot -/

/-- Mounts a generator and makes something of its first slot. -/
def Provider.mountWith {α : Type} (again : Step → Act Outcome) (i : Nat) (g : Generator)
    (new : Int → Except Failure α) : Act α := do
  let start ← mount again i g
  Act.ofExcept (new start)

/-- What a class makes of a slot. -/
def Mountable.new : Mountable → Int → Except Failure (List (String × Text))
  | .base, _ => .error .notImplemented
  | .compiled _ c, start => (c.fields start).mapError .eval

/-- To mount a class is to mount its generator and to make the class names of its slot. -/
theorem Provider.mountClass_eq_mountWith (again : Step → Act Outcome) (i : Nat) (m : Mountable) :
    mountClass again i m = mountWith again i m.generator m.new := by
  cases m <;> rfl

/-- To mount a generator alone is to make nothing of its slot but the slot. -/
theorem Provider.mountWith_ok (again : Step → Act Outcome) (i : Nat) (g : Generator) :
    mountWith again i g .ok = mount again i g := bind_pure _

theorem Provider.mountWith_bind_pure {α β : Type} (again : Step → Act Outcome) (i : Nat)
    (g : Generator) (new : Int → Except Failure α) (f : α → β) :
    (mountWith again i g new >>= fun a => pure (f a)) =
      mountWith again i g fun start => (new start).map f := by
  rw [mountWith, mountWith, bind_assoc]
  congr
  funext start
  cases new start <;> rfl

section
variable {α : Type} {again : Step → Act Outcome} {i : Nat} {g : Generator} {s t : Session}

/-- The slot from which something was made is where the generator is found from then on. -/
theorem found_of_mountWith
    (hnested : ∀ (s₀ : Session) (step : Step), Keeps s₀.Continues (again step))
    (hplaced : s.Placed) (hi : i < s.providers.length) {new : Int → Except Failure α} {a : α}
    (hdone : exec (Provider.mountWith again i g new) s = (.ok a, t)) :
    ∃ r, (t.provider i).registered? g = some r ∧ new r.start = .ok a ∧ t.Placed := by
  obtain ⟨start, u, hmounted, hmade⟩ := exec_bind_eq_ok.1 hdone
  obtain ⟨hnamed, rfl⟩ := exec_ofExcept_eq_ok.1 hmade
  have hcontinues := continues_mount hnested hplaced hi g
  rw [hmounted] at hcontinues
  obtain ⟨r, hknown, rfl⟩ := found_of_mount hnested hplaced hi hmounted
  exact ⟨r, hknown, hnamed, hcontinues.placed⟩

/-- What is mounted is not mounted again: that it is there is told, and all else is made of the
slot it has. -/
theorem Provider.exec_mountWith_of_registered (again : Step → Act Outcome) {r : Registration}
    (hknown : (s.provider i).registered? g = some r) (new : Int → Except Failure α) :
    let told := exec (tellReused again i g r.start) s
    exec (mountWith again i g new) s = (told.1.bind fun _ => new r.start, told.2) := by
  rw [mountWith, exec_bind, exec_mount_of_registered again hknown]
  cases htold : exec (tellReused again i g r.start) s with
  | mk result t =>
    cases result with
    | error e => rfl
    | ok start =>
      obtain ⟨_, _, -, hgiven⟩ := exec_bind_eq_ok.1 htold
      obtain rfl := eq_of_exec_bind_pure hgiven
      exact exec_ofExcept (new r.start) t

/-- Where listeners only hear, telling that a generator is there changes nothing else. -/
theorem Provider.exec_tellReused_of_passive (again : Step → Act Outcome) (i : Nat) (g : Generator)
    (hpassive : ∀ entry ∈ s.listeners, entry.2 = []) (start : Int) :
    ∃ logs heard, exec (tellReused again i g start) s =
      (.ok start, { s with logs := logs, heard := heard }) := by
  obtain ⟨logs, heard, htold⟩ := exec_log_tell_of_passive again i hpassive
    ("Style " ++ g.name ++ " already mounted at " ++ toString start) (.styleReused g.name start)
  refine ⟨logs, heard, ?_⟩
  rw [tellReused, ← bind_assoc, exec_bind_of_ok htold]
  rfl

end

/-! ### Runs -/

/-- Once a class is mounted on a provider, and something was made of its slot, the class keeps its
slot through every run. Mounting it again tells that it is there, and makes something of the same
slot; where the listeners only hear that, nothing else changes in the session. -/
theorem mounted_names_stay {α β : Type} {before : List Step} {i : Nat} {g : Generator}
    {given : Int → Except Failure α} {a : α} {t : Session} (depth : Nat)
    (hi : i < (Session.run {} before).providers.length)
    (hfirst : exec (Provider.mountWith (Step.perform depth) i g given) (Session.run {} before) =
      (.ok a, t)) :
    ∃ start, given start = .ok a ∧
      ∀ (between : List Step) (again : Step → Act Outcome) (new : Int → Except Failure β),
        let u := t.run between
        let told := exec (Provider.tellReused again i g start) u
        exec (Provider.mountWith again i g new) u = (told.1.bind fun _ => new start, told.2) ∧
          ((∀ entry ∈ u.listeners, entry.2 = []) → ∃ logs heard,
            exec (Provider.mountWith again i g new) u =
              (new start, { u with logs := logs, heard := heard })) := by
  have hreached := (Session.placed_empty.continues_run before).placed
  obtain ⟨r, hknown, hmade, hplaced⟩ := found_of_mountWith
    (fun _ step => keeps_continues_perform depth step) hreached hi hfirst
  refine ⟨r.start, hmade, fun between again new => ?_⟩
  have hstill := ((hplaced.continues_run between).each i).found g r hknown
  have hremounted := Provider.exec_mountWith_of_registered again hstill new
  refine ⟨hremounted, fun hpassive => ?_⟩
  obtain ⟨logs, heard, htold⟩ := Provider.exec_tellReused_of_passive again i g hpassive r.start
  refine ⟨logs, heard, ?_⟩
  rw [hremounted, htold]
  rfl

/-- A provider and three generators: one that takes three slots and fails, one that is mounted at
once, and one that is not mounted yet. -/
def beforeNaming : List Step := [
  .newProvider "p" .memory (.color (.text "red")) true,
  .subscribe .all "ear" [] "",
  .define "broken" (.whole 1) "broken" [.advance 3, .react (.raise "ValueError" "no")],
  .define "first" (.whole 2) "first" [.rules "a" 2],
  .define "later" (.whole 3) "later" [.rules "b" 1],
  .mountGenerator "p" "broken"]

/-- Mounts that fail and take slots, another generator, themes that are taken, equal and refused. -/
def upheaval : List Step := [
  .mountGenerator "p" "broken", .mountGenerator "p" "later",
  .updateTheme "p" (.color (.text "blue")), .updateTheme "p" (.color (.text "blue")),
  .updateTheme "p" .empty, .mountGenerator "p" "broken", .render "p"]

/-- The generator that `beforeNaming` calls the first. -/
def firstGenerator : Generator := ⟨2, .key (.whole 2), "first", .script [.rules "a" 2]⟩

def slotName (start : Int) : Except Failure String := .ok ("a-" ++ toString start)

theorem mounted_names_stay_upheaval : ∃ t,
    exec (Provider.mountWith (Step.perform 100) 0 firstGenerator slotName)
      (Session.run {} beforeNaming) = (.ok "a-3", t) ∧
    ((t.run upheaval).provider 0).counter = 12 ∧
    ∃ logs heard, exec (Provider.mountWith (Step.perform 100) 0 firstGenerator slotName)
      (t.run upheaval) = (.ok "a-3", { t.run upheaval with logs := logs, heard := heard }) := by
  have hfirst : (exec (Provider.mountWith (Step.perform 100) 0 firstGenerator slotName)
      (Session.run {} beforeNaming)).1 = .ok "a-3" := by rfl
  refine ⟨_, Prod.ext hfirst rfl, by decide +kernel, ?_⟩
  obtain ⟨start, hmade, hstay⟩ := mounted_names_stay 100 (by decide +kernel) (Prod.ext hfirst rfl)
  have hremounted := (hstay upheaval (Step.perform 100) slotName).2 (by decide +kernel)
  rw [hmade] at hremounted
  exact hremounted

end ScopedCss

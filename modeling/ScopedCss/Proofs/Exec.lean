import ScopedCss.Perform

/-!
Execution of acts from a state. An act ends with a result or a failure and in both cases with a
state, so its laws are equations between such pairs. What an act keeps is kept whether it fails or
not.
-/
namespace ScopedCss

variable {ε σ α β : Type}

/-- What an act comes to from a state, and the state after it. -/
def exec (m : ExceptT ε (StateM σ) α) (s : σ) : Except ε α × σ := m.run.run s

@[simp] theorem exec_pure (a : α) (s : σ) :
    exec (pure a : ExceptT ε (StateM σ) α) s = (.ok a, s) := rfl

@[simp] theorem exec_throw (e : ε) (s : σ) :
    exec (throw e : ExceptT ε (StateM σ) α) s = (.error e, s) := rfl

@[simp] theorem exec_modify (f : σ → σ) (s : σ) :
    exec (modify f : ExceptT ε (StateM σ) PUnit) s = (.ok ⟨⟩, f s) := rfl

theorem exec_bind (m : ExceptT ε (StateM σ) α) (f : α → ExceptT ε (StateM σ) β) (s : σ) :
    exec (m >>= f) s =
      match exec m s with
      | (.ok a, t) => exec (f a) t
      | (.error e, t) => (.error e, t) := by
  show (StateT.bind (ExceptT.run m) (ExceptT.bindCont f)).run s = _
  simp only [exec, StateT.bind, StateT.run, bind]
  cases ExceptT.run m s with
  | mk r t => cases r <;> rfl

theorem exec_tryCatch (m : ExceptT ε (StateM σ) α) (f : ε → ExceptT ε (StateM σ) α) (s : σ) :
    exec (tryCatch m f) s =
      match exec m s with
      | (.ok a, t) => (.ok a, t)
      | (.error e, t) => exec (f e) t := by
  simp only [exec, tryCatch, tryCatchThe, MonadExceptOf.tryCatch, ExceptT.tryCatch, ExceptT.mk,
    ExceptT.run, StateT.run, bind, StateT.bind]
  cases m s with
  | mk r t => cases r <;> rfl

theorem exec_bind_of_ok {m : ExceptT ε (StateM σ) α} {f : α → ExceptT ε (StateM σ) β} {s t : σ}
    {a : α} (h : exec m s = (.ok a, t)) : exec (m >>= f) s = exec (f a) t := by
  rw [exec_bind, h]

theorem exec_bind_of_error {m : ExceptT ε (StateM σ) α} {f : α → ExceptT ε (StateM σ) β}
    {s t : σ} {e : ε} (h : exec m s = (.error e, t)) : exec (m >>= f) s = (.error e, t) := by
  rw [exec_bind, h]

/-- An act that ends well went well in both of its parts. -/
theorem exec_bind_eq_ok {m : ExceptT ε (StateM σ) α} {f : α → ExceptT ε (StateM σ) β} {s t : σ}
    {b : β} : exec (m >>= f) s = (.ok b, t) ↔
      ∃ a u, exec m s = (.ok a, u) ∧ exec (f a) u = (.ok b, t) := by
  rw [exec_bind]
  cases exec m s with
  | mk r u =>
    cases r with
    | ok a => exact ⟨fun h => ⟨a, u, rfl, h⟩, fun ⟨_, _, hfirst, h⟩ => by cases hfirst; exact h⟩
    | error e => simp

theorem exec_bind_congr {m n : ExceptT ε (StateM σ) α} {f g : α → ExceptT ε (StateM σ) β} {s : σ}
    (hfirst : exec m s = exec n s)
    (hrest : ∀ a t, exec n s = (.ok a, t) → exec (f a) t = exec (g a) t) :
    exec (m >>= f) s = exec (n >>= g) s := by
  rw [exec_bind, exec_bind, hfirst]
  cases hran : exec n s with
  | mk r t =>
    cases r with
    | ok a => exact hrest a t hran
    | error e => rfl

@[simp] theorem exec_get_bind (f : σ → ExceptT ε (StateM σ) β) (s : σ) :
    exec (get >>= f) s = exec (f s) s := rfl

@[simp] theorem exec_modify_bind (g : σ → σ) (f : PUnit → ExceptT ε (StateM σ) β) (s : σ) :
    exec (modify g >>= f) s = exec (f ⟨⟩) (g s) := rfl

theorem exec_mapM_cons (f : α → ExceptT ε (StateM σ) β) (a : α) (as : List α) (s : σ) :
    exec ((a :: as).mapM f) s =
      match exec (f a) s with
      | (.ok b, t) =>
        match exec (as.mapM f) t with
        | (.ok bs, u) => (.ok (b :: bs), u)
        | (.error e, u) => (.error e, u)
      | (.error e, t) => (.error e, t) := by
  rw [List.mapM_cons, exec_bind]
  rcases exec (f a) s with ⟨e | b, t⟩
  · rfl
  · dsimp only
    rw [exec_bind]
    rcases exec (as.mapM f) t with ⟨e | bs, u⟩ <;> rfl

/-- Going through a list of acts that change no state only collects their results. -/
theorem exec_mapM_of_still {f : α → ExceptT ε (StateM σ) β} {g : α → Except ε β} {as : List α}
    {s : σ} (hstill : ∀ a ∈ as, exec (f a) s = (g a, s)) :
    exec (as.mapM f) s = (as.mapM g, s) := by
  induction as with
  | nil => rfl
  | cons a as ih =>
    rw [exec_mapM_cons, hstill a List.mem_cons_self, List.mapM_cons]
    cases g a with
    | error e => rfl
    | ok b =>
      dsimp only
      rw [ih fun other hother => hstill other (List.mem_cons_of_mem a hother)]
      cases as.mapM g <;> rfl

/-- What is made of the result changes no state. -/
theorem exec_bind_snd {m : ExceptT ε (StateM σ) α} {f : α → ExceptT ε (StateM σ) β}
    (hstill : ∀ a t, (exec (f a) t).2 = t) (s : σ) : (exec (m >>= f) s).2 = (exec m s).2 := by
  rw [exec_bind]
  cases exec m s with
  | mk r t =>
    cases r with
    | ok a => exact hstill a t
    | error e => rfl

theorem eq_of_exec_bind_pure {m : ExceptT ε (StateM σ) α} {a b : β} {s t : σ}
    (h : exec (m >>= fun _ => pure a) s = (.ok b, t)) : a = b := by
  rw [exec_bind] at h
  cases hrun : exec m s with
  | mk r u =>
    rw [hrun] at h
    cases r with
    | ok _ => cases h; rfl
    | error _ => cases h

/-! ### What acts keep -/

/-- The property holds after the act if it holds before it. -/
def Keeps (P : σ → Prop) (m : ExceptT ε (StateM σ) α) : Prop := ∀ s, P s → P (exec m s).2

section
variable {P : σ → Prop}

theorem keeps_pure (a : α) : Keeps P (pure a : ExceptT ε (StateM σ) α) := fun _ h => h

theorem keeps_throw (e : ε) : Keeps P (throw e : ExceptT ε (StateM σ) α) := fun _ h => h

theorem keeps_modify {f : σ → σ} (h : ∀ s, P s → P (f s)) :
    Keeps P (modify f : ExceptT ε (StateM σ) PUnit) := h

/-- A property that holds after the first part of an act and that the rest of it keeps. -/
theorem holds_bind {m : ExceptT ε (StateM σ) α} {f : α → ExceptT ε (StateM σ) β} {s : σ}
    (hfirst : P (exec m s).2) (hrest : ∀ a, Keeps P (f a)) : P (exec (m >>= f) s).2 := by
  rw [exec_bind]
  cases hrun : exec m s with
  | mk r t =>
    rw [hrun] at hfirst
    cases r with
    | ok a => exact hrest a t hfirst
    | error e => exact hfirst

theorem Keeps.bind {m : ExceptT ε (StateM σ) α} {f : α → ExceptT ε (StateM σ) β}
    (hm : Keeps P m) (hf : ∀ a, Keeps P (f a)) : Keeps P (m >>= f) :=
  fun s hs => holds_bind (hm s hs) hf

/-- What is read off the state may be used, with the property, in the rest of the act. -/
theorem keeps_get_bind {f : σ → ExceptT ε (StateM σ) β} (h : ∀ s, P s → Keeps P (f s)) :
    Keeps P (get >>= f) := fun s hs => h s hs s hs

theorem Keeps.discard {m : ExceptT ε (StateM σ) α} (hm : Keeps P m) :
    Keeps P (discard m) :=
  Keeps.bind (f := fun _ => pure PUnit.unit) hm fun _ => keeps_pure _

theorem keeps_forM {f : α → ExceptT ε (StateM σ) PUnit} {as : List α}
    (h : ∀ a ∈ as, Keeps P (f a)) : Keeps P (as.forM f) := by
  induction as with
  | nil => exact keeps_pure _
  | cons a as ih =>
    exact Keeps.bind (h a List.mem_cons_self) fun _ =>
      ih fun b hb => h b (List.mem_cons_of_mem a hb)

end

/-! ### What acts fail with -/

/-- The property holds of all that the act may fail with. -/
def FailsBy (Q : ε → Prop) (m : ExceptT ε (StateM σ) α) : Prop :=
  ∀ s e, (exec m s).1 = .error e → Q e

section
variable {Q : ε → Prop}

theorem failsBy_pure (a : α) : FailsBy Q (pure a : ExceptT ε (StateM σ) α) :=
  fun _ _ hfailed => nomatch hfailed

theorem failsBy_throw {e : ε} (h : Q e) : FailsBy Q (throw e : ExceptT ε (StateM σ) α) := by
  rintro _ _ ⟨⟩
  exact h

theorem failsBy_modify (f : σ → σ) : FailsBy Q (modify f : ExceptT ε (StateM σ) PUnit) :=
  fun _ _ hfailed => nomatch hfailed

theorem failsBy_get_bind {f : σ → ExceptT ε (StateM σ) β} (h : ∀ s, FailsBy Q (f s)) :
    FailsBy Q (get >>= f) := fun s e hfailed => h s s e hfailed

theorem FailsBy.bind {m : ExceptT ε (StateM σ) α} {f : α → ExceptT ε (StateM σ) β}
    (hm : FailsBy Q m) (hf : ∀ a, FailsBy Q (f a)) : FailsBy Q (m >>= f) := by
  intro s e hfailed
  rw [exec_bind] at hfailed
  cases hran : exec m s with
  | mk r t =>
    rw [hran] at hfailed
    cases r with
    | ok a => exact hf a t e hfailed
    | error e' =>
      cases hfailed
      exact hm s e (by rw [hran])

/-- What is caught is forgotten. -/
theorem failsBy_tryCatch {m : ExceptT ε (StateM σ) α} {f : ε → ExceptT ε (StateM σ) α}
    (hf : ∀ e, FailsBy Q (f e)) : FailsBy Q (tryCatch m f) := by
  intro s e hfailed
  rw [exec_tryCatch] at hfailed
  cases hran : exec m s with
  | mk r t =>
    rw [hran] at hfailed
    cases r with
    | ok a => cases hfailed
    | error e' => exact hf e' t e hfailed

theorem failsBy_forM {f : α → ExceptT ε (StateM σ) PUnit} (h : ∀ a, FailsBy Q (f a))
    (as : List α) : FailsBy Q (as.forM f) := by
  induction as with
  | nil => exact failsBy_pure _
  | cons a as ih => exact (h a).bind fun _ => ih

end

/-! ### Acts in a session -/

@[simp] theorem exec_ofExcept_ok (a : α) (s : Session) :
    exec (Act.ofExcept (.ok a)) s = (.ok a, s) := rfl

@[simp] theorem exec_ofExcept_error (e : Failure) (s : Session) :
    exec (Act.ofExcept (.error e) : Act α) s = (.error e, s) := rfl

theorem exec_ofExcept (r : Except Failure α) (s : Session) :
    exec (Act.ofExcept r) s = (r, s) := by
  cases r <;> rfl

theorem exec_ofExcept_eq_ok {r : Except Failure α} {a : α} {s t : Session} :
    exec (Act.ofExcept r) s = (.ok a, t) ↔ r = .ok a ∧ s = t := by
  cases r <;> simp

theorem keeps_ofExcept {P : Session → Prop} (r : Except Failure α) :
    Keeps P (Act.ofExcept r) := by
  cases r with
  | ok a => exact keeps_pure a
  | error e => exact keeps_throw e

theorem keeps_ofExcept_bind {P : Session → Prop} {r : Except Failure α} {f : α → Act β}
    (h : ∀ a, r = .ok a → Keeps P (f a)) : Keeps P (Act.ofExcept r >>= f) := by
  cases r with
  | ok a => exact h a rfl
  | error e => exact keeps_throw e

theorem failsBy_ofExcept {Q : Failure → Prop} {r : Except Failure α}
    (h : ∀ e, r = .error e → Q e) : FailsBy Q (Act.ofExcept r) := by
  intro s e hfailed
  rw [exec_ofExcept] at hfailed
  exact h e hfailed

theorem failsBy_ofFiles {Q : Failure → Prop} (r : Except FileFault α)
    (h : ∀ fault, Q (.file fault)) : FailsBy Q (Act.ofFiles r) := by
  refine failsBy_ofExcept fun e hfailed => ?_
  cases r with
  | ok a => cases hfailed
  | error fault =>
    cases hfailed
    exact h fault

/-! ### What names stand for -/

namespace Step

variable {s : Session}

theorem exec_providerNumber {p : String} {i : Nat} (hnamed : s.providerIds.lookup p = some i) :
    exec (providerNumber p) s = (.ok i, s) := by
  rw [providerNumber, exec_get_bind, Session.named, hnamed, exec_ofExcept]

theorem exec_className {c : String} {m : Mountable} (hnamed : s.classes.lookup c = some m) :
    exec (className c) s = (.ok m, s) := by
  rw [className, exec_get_bind, Session.named, hnamed, exec_ofExcept]

theorem exec_generatorNamed {id : String} {g : Generator}
    (hnamed : s.generators.lookup id = some g) : exec (generatorNamed id) s = (.ok g, s) := by
  rw [generatorNamed, exec_get_bind, Session.named, hnamed, exec_ofExcept]

end Step
end ScopedCss

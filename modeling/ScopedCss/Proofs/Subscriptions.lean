import ScopedCss.Proofs.Evolution

/-!
Subscriptions and their handles. A bus knows a subscription only by its topic and its listener, so a
handle takes the oldest equal subscription back, which need not be its own. Main statement: an event
is told to as many callbacks as there are live subscriptions, global ones first, and in their order
unless a handle was called while another listener stood between its own subscription and an older
equal one.
-/
namespace ScopedCss

/-! ### Uses of a bus -/

/-- What is done with a bus. A callback is a listener and what it does when it is called. -/
inductive BusUse where
  | subscribe (sub : Subscription) (reactions : List Reaction) (handle : String)
  | unsubscribe (handle : String)
  | emit (event : Event)

def BusUse.step : BusUse → Step
  | .subscribe sub reactions handle => .subscribe sub.topic sub.listener reactions handle
  | .unsubscribe handle => .unsubscribe handle
  | .emit event => .emit event

/-- The live subscriptions under their handles, oldest first. -/
abbrev Ledger := List (String × Subscription)

namespace Ledger

/-- A bus with just the live subscriptions. -/
def bus (l : Ledger) : Bus := ⟨l.map (·.2)⟩

/-- Takes the subscription of a handle back and no other one. -/
def remove (l : Ledger) (handle : String) : Ledger := l.filter (·.1 != handle)

def after (l : Ledger) : BusUse → Ledger
  | .subscribe sub _ handle => l ++ [(handle, sub)]
  | .unsubscribe handle => l.remove handle
  | .emit _ => l

/-- The subscriptions that uses of a new bus leave live. -/
def ofUses (uses : List BusUse) : Ledger := uses.foldl after []

end Ledger

/-- A session in which calls were heard and nothing was done to the bus. -/
structure Session.Hears (calls : List (String × Event)) (s t : Session) : Prop where
  bus : t.bus = s.bus
  listeners : t.listeners = s.listeners
  handles : t.handles = s.handles
  heard : t.heard = s.heard ++ calls

theorem Session.Hears.trans {s t u : Session} {first last : List (String × Event)}
    (h : s.Hears first t) (hk : t.Hears last u) : s.Hears (first ++ last) u where
  bus := hk.bus.trans h.bus
  listeners := hk.listeners.trans h.listeners
  handles := hk.handles.trans h.handles
  heard := by rw [hk.heard, h.heard, List.append_assoc]

/-- What a callback does that returns and leaves the bus alone. -/
def Harmless (again : Step → Act Outcome) (reactions : List Reaction) : Prop :=
  ∀ s, ∃ t, exec (reactions.forM (Reaction.run again)) s = (.ok (), t) ∧ s.Hears [] t

/-- Steps asked for by callbacks are nested in the step that calls them. -/
def nestedStep : Step → Act Outcome := Step.perform (Session.depth - 1)

/-- A handle is new when it is given and live when it is called. -/
def BusUse.Fits (l : Ledger) : BusUse → Prop
  | .subscribe _ reactions handle => handle ∉ l.map (·.1) ∧ Harmless nestedStep reactions
  | .unsubscribe handle => handle ∈ l.map (·.1)
  | .emit _ => True

/-- Uses that fit one after the other. -/
def BusUse.AllFit : Ledger → List BusUse → Prop
  | _, [] => True
  | l, use :: uses => use.Fits l ∧ AllFit (l.after use) uses

/-- The subscriptions that are older than that of a handle. -/
def Ledger.olderThan (l : Ledger) (handle : String) : Ledger := l.takeWhile (·.1 != handle)

/-- Where the handle of a subscription to the topic is called, no other listener to the topic stands
between it and an older subscription of its own listener. -/
def BusUse.InTurn (t : Topic) (l : Ledger) : BusUse → Prop
  | .unsubscribe handle => ∀ entry ∈ l, entry.1 = handle → entry.2.topic = t →
      ∀ listener ∈ ((l.olderThan handle).bus.listeners t).dropWhile (· != entry.2.listener),
        listener = entry.2.listener
  | _ => True

def BusUse.AllInTurn (t : Topic) : Ledger → List BusUse → Prop
  | _, [] => True
  | l, use :: uses => use.InTurn t l ∧ AllInTurn t (l.after use) uses

/-! ### Taking back the oldest equal one -/

section
variable {α : Type} [DecidableEq α]

omit [DecidableEq α] in
theorem concat_eq_cons_iff {x : α} {xs : List α} :
    xs ++ [x] = x :: xs ↔ ∀ y ∈ xs, y = x := by
  induction xs with
  | nil => simp
  | cons y xs ih =>
    rw [List.cons_append, List.cons.injEq, List.forall_mem_cons, ← ih]
    constructor
    · rintro ⟨rfl, h⟩
      exact ⟨rfl, h⟩
    · rintro ⟨rfl, h⟩
      exact ⟨rfl, h⟩

/-- The oldest equal element may be taken for another one if no different one stands between. -/
theorem erase_middle_iff {x : α} {before after : List α} :
    (before ++ x :: after).erase x = before ++ after ↔
      ∀ y ∈ before.dropWhile (· != x), y = x := by
  induction before with
  | nil => simp
  | cons b before ih =>
    rw [List.cons_append, List.cons_append, List.erase_cons]
    by_cases hsame : b = x
    · subst hsame
      rw [if_pos (beq_self_eq_true b), List.append_cons, ← List.cons_append,
        List.append_left_inj, concat_eq_cons_iff, List.dropWhile_cons_of_neg (by simp)]
      simp
    · rw [if_neg (by simpa using hsame), List.cons.injEq, and_iff_right rfl, ih,
        List.dropWhile_cons_of_pos (by simpa using hsame)]

end

namespace Bus

/-- Among the listeners of its topic the oldest one of its name goes. -/
theorem listeners_unsubscribe_self {b c : Bus} {s : Subscription}
    (h : b.unsubscribe? s = some c) :
    c.listeners s.topic = (b.listeners s.topic).erase s.listener := by
  have heach (l : List Subscription) (hown : ∀ r ∈ l, r.topic = s.topic) :
      (l.erase s).map (·.listener) = (l.map (·.listener)).erase s.listener := by
    induction l with
    | nil => rfl
    | cons r l ih =>
      obtain ⟨hfirst, hrest⟩ := List.forall_mem_cons.1 hown
      by_cases hsame : r.listener = s.listener
      · obtain rfl : r = s := by
          cases r
          cases s
          exact Subscription.mk.injEq .. ▸ ⟨hfirst, hsame⟩
        simp
      · have hother : r ≠ s := fun he => hsame (by rw [he])
        simp [hsame, hother, ih hrest]
  unfold unsubscribe? at h
  split at h
  · cases h
    rw [listeners, listeners, ← List.erase_filter]
    exact heach _ fun r hmember => by simpa using (List.mem_filter.1 hmember).2
  · cases h

theorem listeners_perm {b c : Bus} (h : b.subscriptions.Perm c.subscriptions) (t : Topic) :
    (b.listeners t).Perm (c.listeners t) := (h.filter _).map _

end Bus

namespace Ledger

variable {l before after : Ledger} {handle : String} {sub : Subscription}

theorem listeners_append (l m : Ledger) (t : Topic) :
    (bus (l ++ m)).listeners t = (bus l).listeners t ++ (bus m).listeners t := by
  simp [bus, Bus.listeners]

/-- Handles tell subscriptions apart, so only one goes with a handle. -/
theorem remove_of_split (hdistinct : (l.map (·.1)).Nodup)
    (hsplit : l = before ++ (handle, sub) :: after) : l.remove handle = before ++ after := by
  subst hsplit
  rw [List.map_append, List.map_cons, List.nodup_middle, List.nodup_cons, ← List.map_append]
    at hdistinct
  have hothers : ∀ entry ∈ before ++ after, entry.1 ≠ handle := fun entry hmember hsame =>
    hdistinct.1 (List.mem_map.2 ⟨entry, hmember, hsame⟩)
  rw [List.forall_mem_append] at hothers
  rw [remove, List.filter_append, List.filter_cons_of_neg (by simp),
    List.filter_eq_self.2 (by simpa using hothers.1),
    List.filter_eq_self.2 (by simpa using hothers.2)]

theorem olderThan_of_split (hdistinct : (l.map (·.1)).Nodup)
    (hsplit : l = before ++ (handle, sub) :: after) : l.olderThan handle = before := by
  subst hsplit
  have hothers : ∀ entry ∈ before, entry.1 ≠ handle := by
    intro entry hmember hsame
    rw [List.map_append, List.map_cons, List.nodup_middle, List.nodup_cons] at hdistinct
    exact hdistinct.1 (List.mem_append_left _ (List.mem_map.2 ⟨entry, hmember, hsame⟩))
  rw [olderThan, List.takeWhile_append_of_pos (by simpa using hothers),
    List.takeWhile_cons_of_neg (by simp), List.append_nil]

theorem distinct_remove (hdistinct : (l.map (·.1)).Nodup) (handle : String) :
    ((l.remove handle).map (·.1)).Nodup :=
  hdistinct.sublist (List.filter_sublist.map _)

end Ledger

/-! ### Telling -/

section
variable {again : Step → Act Outcome} {s : Session}

/-- Listeners that return where something holds, and keep it, are called one after the other. -/
theorem exec_callListeners_of {P : Session → Prop} (hheard : ∀ l e s, P s → P (s.hear l e))
    (hreturns : ∀ s, P s → ∀ entry ∈ s.listeners,
      ∃ t, exec (entry.2.forM (Reaction.run again)) s = (.ok (), t) ∧ s.Hears [] t ∧ P t)
    (hstart : P s) (e : Event) (ls : List String) :
    ∃ t, exec (callListeners again e ls) s = (.ok (), t) ∧ s.Hears (ls.map (·, e)) t ∧ P t := by
  induction ls generalizing s with
  | nil => exact ⟨s, rfl, ⟨rfl, rfl, rfl, (List.append_nil _).symm⟩, hstart⟩
  | cons l ls ih =>
    have hhears : s.Hears [(l, e)] (s.hear l e) := ⟨rfl, rfl, rfl, rfl⟩
    have hcalled : ∃ t, exec (((s.listeners.lookup l).getD []).forM (Reaction.run again))
        (s.hear l e) = (.ok (), t) ∧ (s.hear l e).Hears [] t ∧ P t := by
      cases hfound : s.listeners.lookup l with
      | none => exact ⟨_, rfl, ⟨rfl, rfl, rfl, (List.append_nil _).symm⟩, hheard l e s hstart⟩
      | some reactions =>
        exact hreturns _ (hheard l e s hstart) (l, reactions) (mem_of_lookup_eq_some hfound)
    obtain ⟨t, hdone, hstill, hholds⟩ := hcalled
    have hnow := hhears.trans hstill
    obtain ⟨u, hrest, hlater, hkept⟩ := ih hholds
    refine ⟨u, ?_, hnow.trans hlater, hkept⟩
    rw [callListeners, exec_modify_bind, exec_get_bind]
    exact (exec_bind_of_ok hdone).trans hrest

/-- An event is told to those who listen to all events and then to those who listen to its type. -/
theorem exec_announce_of {P : Session → Prop} (hheard : ∀ l e s, P s → P (s.hear l e))
    (hreturns : ∀ s, P s → ∀ entry ∈ s.listeners,
      ∃ t, exec (entry.2.forM (Reaction.run again)) s = (.ok (), t) ∧ s.Hears [] t ∧ P t)
    (hstart : P s) (e : Event) :
    ∃ t, exec (announce again e) s = (.ok (), t) ∧
      s.Hears ((s.bus.listeners .all ++ s.bus.listeners (.type e.typeName)).map (·, e)) t ∧
      P t := by
  obtain ⟨t, hall, hfirst, hholds⟩ :=
    exec_callListeners_of hheard hreturns hstart e (s.bus.listeners .all)
  obtain ⟨u, htyped, hlast, hstill⟩ :=
    exec_callListeners_of hheard hreturns hholds e (s.bus.listeners (.type e.typeName))
  refine ⟨u, ?_, ?_, hstill⟩
  · rw [announce, exec_get_bind, exec_bind_of_ok hall, exec_get_bind, hfirst.bus]
    exact htyped
  · rw [List.map_append]
    exact hfirst.trans hlast

theorem exec_announce_of_harmless
    (hharmless : ∀ entry ∈ s.listeners, Harmless again entry.2) (e : Event) :
    ∃ t, exec (announce again e) s = (.ok (), t) ∧
      s.Hears ((s.bus.listeners .all ++ s.bus.listeners (.type e.typeName)).map (·, e)) t := by
  have hreturns (u : Session) (h : ∀ entry ∈ u.listeners, Harmless again entry.2)
      (entry : String × List Reaction) (hmember : entry ∈ u.listeners) :
      ∃ v, exec (entry.2.forM (Reaction.run again)) u = (.ok (), v) ∧ u.Hears [] v ∧
        ∀ entry ∈ v.listeners, Harmless again entry.2 := by
    obtain ⟨v, hran, hstill⟩ := h entry hmember u
    exact ⟨v, hran, hstill, hstill.listeners ▸ h⟩
  obtain ⟨t, hdone, hhears, -⟩ := exec_announce_of (fun _ _ _ h => h) hreturns hharmless e
  exact ⟨t, hdone, hhears⟩

end

/-! ### What uses keep -/

/-- The bus has the live subscriptions, in whatever order, and every live handle stands for its
own. -/
structure Session.Books (l : Ledger) (s : Session) : Prop where
  distinct : (l.map (·.1)).Nodup
  named : ∀ entry ∈ l, s.handles.lookup entry.1 = some entry.2
  subscriptions : s.bus.subscriptions.Perm l.bus.subscriptions
  harmless : ∀ entry ∈ s.listeners, Harmless nestedStep entry.2

namespace Session.Books

variable {l : Ledger} {s : Session}

theorem subscribe (h : s.Books l) {sub : Subscription} {reactions : List Reaction}
    {handle : String} (hnew : handle ∉ l.map (·.1)) (hharmless : Harmless nestedStep reactions) :
    (s.perform (.subscribe sub.topic sub.listener reactions handle)).2.Books
      (l ++ [(handle, sub)]) where
  distinct := by
    rw [List.map_append, List.nodup_append]
    refine ⟨h.distinct, List.nodup_singleton _, ?_⟩
    rintro a ha b hb rfl
    obtain rfl : a = handle := List.mem_singleton.1 hb
    exact hnew ha
  named entry hmember := by
    show List.lookup entry.1 ((handle, sub) :: s.handles) = _
    rw [List.lookup_cons]
    rcases List.mem_append.1 hmember with hmember | hlast
    · have hother : (entry.1 == handle) = false := by
        rw [beq_eq_false_iff_ne]
        exact fun hsame => hnew (hsame ▸ List.mem_map_of_mem (f := (·.1)) hmember)
      rw [hother]
      exact h.named entry hmember
    · rw [List.mem_singleton.1 hlast, beq_self_eq_true]
  subscriptions := by
    show (s.bus.subscriptions ++ [sub]).Perm _
    rw [Ledger.bus, List.map_append]
    exact h.subscriptions.append_right [sub]
  harmless entry hmember := by
    rcases List.mem_append.1 hmember with hmember | hlast
    · exact h.harmless entry hmember
    · rw [List.mem_singleton.1 hlast]
      exact hharmless

/-- What a live handle does when it is called. -/
theorem exec_unsubscribe (h : s.Books l) {handle : String} {sub : Subscription}
    (hlive : (handle, sub) ∈ l) : ∃ bus, s.bus.unsubscribe? sub = some bus ∧
      s.perform (.unsubscribe handle) = (.ok .nothing, { s.quiet with bus := bus }) := by
  have hmember : sub ∈ s.bus.subscriptions :=
    h.subscriptions.mem_iff.2 (List.mem_map_of_mem hlive)
  have htaken : s.bus.unsubscribe? sub = some ⟨s.bus.subscriptions.erase sub⟩ := if_pos hmember
  refine ⟨_, htaken, ?_⟩
  have hnamed : s.quiet.handles.lookup handle = some sub := h.named _ hlive
  show exec (Step.run nestedStep (.unsubscribe handle)) s.quiet = _
  have hremoved : exec (Step.removeSubscription handle) s.quiet =
      (.ok ⟨⟩, { s.quiet with bus := ⟨s.bus.subscriptions.erase sub⟩ }) := by
    rw [Step.removeSubscription, exec_get_bind, Session.named, hnamed,
      exec_bind_of_ok (exec_ofExcept_ok sub _), exec_get_bind]
    have hstill : s.quiet.bus.unsubscribe? sub = some ⟨s.bus.subscriptions.erase sub⟩ := htaken
    rw [hstill]
    rfl
  rw [Step.run, exec_bind_of_ok hremoved]
  rfl

theorem unsubscribe (h : s.Books l) {handle : String} (hlive : handle ∈ l.map (·.1)) :
    (s.perform (.unsubscribe handle)).2.Books (l.remove handle) := by
  obtain ⟨⟨_, sub⟩, hmember, rfl⟩ := List.mem_map.1 hlive
  obtain ⟨bus, htaken, hdone⟩ := h.exec_unsubscribe hmember
  obtain ⟨before, after, hsplit⟩ := List.append_of_mem hmember
  have hremoved := Ledger.remove_of_split h.distinct hsplit
  rw [hdone]
  refine ⟨Ledger.distinct_remove h.distinct _, fun entry hkept => ?_, ?_, h.harmless⟩
  · exact h.named entry (List.mem_of_mem_filter hkept)
  · have herased : bus = ⟨s.bus.subscriptions.erase sub⟩ := by
      unfold Bus.unsubscribe? at htaken
      split at htaken
      · exact (Option.some.inj htaken).symm
      · cases htaken
    have hlisted : l.bus.subscriptions = before.map (·.2) ++ sub :: after.map (·.2) := by
      rw [hsplit, Ledger.bus, List.map_append, List.map_cons]
    show bus.subscriptions.Perm _
    rw [hremoved, herased, Ledger.bus, List.map_append]
    refine (h.subscriptions.erase sub).trans ?_
    rw [hlisted]
    exact List.erase_cons_head sub (before.map (·.2) ++ after.map (·.2)) ▸
      List.perm_middle.erase sub

theorem exec_emit (h : s.Books l) (e : Event) : ∃ t, s.perform (.emit e) = (.ok .nothing, t) ∧
    s.quiet.Hears ((s.bus.listeners .all ++ s.bus.listeners (.type e.typeName)).map (·, e)) t := by
  obtain ⟨t, htold, hhears⟩ := exec_announce_of_harmless (s := s.quiet) h.harmless e
  refine ⟨t, ?_, hhears⟩
  show exec (Step.run nestedStep (.emit e)) s.quiet = _
  rw [Step.run, exec_bind_of_ok htold]
  rfl

theorem emit (h : s.Books l) (e : Event) : (s.perform (.emit e)).2.Books l := by
  obtain ⟨t, hdone, hhears⟩ := h.exec_emit e
  rw [hdone]
  refine ⟨h.distinct, ?_, ?_, ?_⟩
  · rw [hhears.handles]
    exact h.named
  · rw [hhears.bus]
    exact h.subscriptions
  · rw [hhears.listeners]
    exact h.harmless

/-- Every use that fits comes to nothing but its effect on the bus. -/
theorem perform (h : s.Books l) {use : BusUse} (hfits : use.Fits l) :
    (s.perform use.step).1 = .ok .nothing ∧ (s.perform use.step).2.Books (l.after use) := by
  cases use with
  | subscribe sub reactions handle => exact ⟨rfl, h.subscribe hfits.1 hfits.2⟩
  | unsubscribe handle =>
    obtain ⟨⟨_, sub⟩, hmember, rfl⟩ := List.mem_map.1 hfits
    obtain ⟨bus, -, hdone⟩ := h.exec_unsubscribe hmember
    exact ⟨congrArg Prod.fst hdone, h.unsubscribe hfits⟩
  | emit e =>
    obtain ⟨t, hdone, -⟩ := h.exec_emit e
    exact ⟨congrArg Prod.fst hdone, h.emit e⟩

/-- A handle that is called leaves the order of the others exactly if it is called in turn. -/
theorem listeners_unsubscribe_iff (h : s.Books l) {handle : String} {sub : Subscription}
    (hlive : (handle, sub) ∈ l)
    (hagree : s.bus.listeners sub.topic = l.bus.listeners sub.topic) :
    (s.perform (.unsubscribe handle)).2.bus.listeners sub.topic =
        (l.remove handle).bus.listeners sub.topic ↔
      (BusUse.unsubscribe handle).InTurn sub.topic l := by
  obtain ⟨bus, htaken, hdone⟩ := h.exec_unsubscribe hlive
  obtain ⟨before, after, hsplit⟩ := List.append_of_mem hlive
  have hmiddle (m : Ledger) : (Ledger.bus ((handle, sub) :: m)).listeners sub.topic =
      sub.listener :: (Ledger.bus m).listeners sub.topic := by simp [Ledger.bus, Bus.listeners]
  rw [hdone, Ledger.remove_of_split h.distinct hsplit]
  show bus.listeners sub.topic = _ ↔ _
  rw [Bus.listeners_unsubscribe_self htaken, hagree, hsplit, Ledger.listeners_append, hmiddle,
    Ledger.listeners_append, erase_middle_iff]
  rw [← hsplit]
  constructor
  · rintro hinTurn ⟨_, own⟩ hmember rfl -
    obtain rfl : own = sub := by
      have hfirst := h.named _ hmember
      exact Option.some.inj (hfirst.symm.trans (h.named _ hlive))
    rw [Ledger.olderThan_of_split h.distinct hsplit]
    exact hinTurn
  · intro hinTurn
    have hown := hinTurn (handle, sub) hlive rfl rfl
    rwa [Ledger.olderThan_of_split h.distinct hsplit] at hown

theorem listeners_perform (h : s.Books l) {use : BusUse} {t : Topic} (hfits : use.Fits l)
    (hinTurn : use.InTurn t l) (hagree : s.bus.listeners t = l.bus.listeners t) :
    (s.perform use.step).2.bus.listeners t = (l.after use).bus.listeners t := by
  cases use with
  | subscribe sub reactions handle =>
    show (s.bus.subscribe sub).listeners t = (Ledger.bus (l ++ [(handle, sub)])).listeners t
    have hmore : (s.bus.subscribe sub).listeners t =
        s.bus.listeners t ++ (Ledger.bus [(handle, sub)]).listeners t := by
      simp [Bus.listeners, Bus.subscribe, Ledger.bus]
    rw [hmore, hagree, Ledger.listeners_append]
  | unsubscribe handle =>
    obtain ⟨⟨_, sub⟩, hlive, rfl⟩ := List.mem_map.1 hfits
    by_cases hown : sub.topic = t
    · subst hown
      exact (h.listeners_unsubscribe_iff hlive hagree).2 hinTurn
    · -- The lists of the other topics are not touched by either.
      obtain ⟨bus, htaken, hdone⟩ := h.exec_unsubscribe hlive
      obtain ⟨before, after, hsplit⟩ := List.append_of_mem hlive
      have hkept : (Ledger.bus (before ++ after)).listeners t = l.bus.listeners t := by
        simp [hsplit, Ledger.bus, Bus.listeners, hown]
      rw [BusUse.step, hdone, Ledger.after, Ledger.remove_of_split h.distinct hsplit, hkept,
        ← hagree]
      exact Bus.listeners_unsubscribe_of_ne htaken hown
  | emit e =>
    obtain ⟨u, hdone, hhears⟩ := h.exec_emit e
    rw [BusUse.step, hdone, hhears.bus]
    exact hagree

theorem run (h : s.Books l) {uses : List BusUse} (hfit : BusUse.AllFit l uses) :
    (s.run (uses.map BusUse.step)).Books (uses.foldl Ledger.after l) := by
  induction uses generalizing s l with
  | nil => exact h
  | cons use uses ih => exact ih (h.perform hfit.1).2 hfit.2

theorem listeners_run (h : s.Books l) {uses : List BusUse} {t : Topic}
    (hfit : BusUse.AllFit l uses) (hinTurn : BusUse.AllInTurn t l uses)
    (hagree : s.bus.listeners t = l.bus.listeners t) :
    (s.run (uses.map BusUse.step)).bus.listeners t =
      (uses.foldl Ledger.after l).bus.listeners t := by
  induction uses generalizing s l with
  | nil => exact hagree
  | cons use uses ih =>
    exact ih (h.perform hfit.1).2 hfit.2 hinTurn.2 (h.listeners_perform hfit.1 hinTurn.1 hagree)

end Session.Books

theorem Session.books_empty : ({} : Session).Books [] where
  distinct := .nil
  named := by simp
  subscriptions := .nil
  harmless := by simp

theorem BusUse.allFit_append {l : Ledger} {first last : List BusUse}
    (hfit : AllFit l (first ++ last)) :
    AllFit l first ∧ AllFit (first.foldl Ledger.after l) last := by
  induction first generalizing l with
  | nil => exact ⟨trivial, hfit⟩
  | cons use first ih =>
    obtain ⟨hown, hrest⟩ := ih hfit.2
    exact ⟨⟨hfit.1, hown⟩, hrest⟩

/-- Whatever is done with a new bus, each handle being called once at most, nothing fails, and an
event is told to the listeners of the live subscriptions: to as many as there are, first to those of
all events and then to those of its type. The listeners to a topic are told in the order of their
subscriptions if every handle is called in turn, and a handle that is not called in turn puts them
out of order. -/
theorem told_to_live {uses : List BusUse} (hfit : BusUse.AllFit [] uses) :
    let s := Session.run {} (uses.map BusUse.step)
    let live := Ledger.ofUses uses
    (∀ before use after, uses = before ++ use :: after →
      ((Session.run {} (before.map BusUse.step)).perform use.step).1 = .ok .nothing) ∧
    (∀ e, ∃ globals typed,
      (s.perform (.emit e)).1 = .ok .nothing ∧
      (s.perform (.emit e)).2.heard = (globals ++ typed).map (·, e) ∧
      globals.Perm (live.bus.listeners .all) ∧
      typed.Perm (live.bus.listeners (.type e.typeName)) ∧
      (BusUse.AllInTurn .all [] uses → globals = live.bus.listeners .all) ∧
      (BusUse.AllInTurn (.type e.typeName) [] uses →
        typed = live.bus.listeners (.type e.typeName))) ∧
    ∀ handle sub, (handle, sub) ∈ live → BusUse.AllInTurn sub.topic [] uses →
      ((s.perform (.unsubscribe handle)).2.bus.listeners sub.topic =
          (live.remove handle).bus.listeners sub.topic ↔
        (BusUse.unsubscribe handle).InTurn sub.topic live) := by
  intro s live
  have hbooks : s.Books live := Session.books_empty.run hfit
  have hagree (t : Topic) (hinTurn : BusUse.AllInTurn t [] uses) :
      s.bus.listeners t = live.bus.listeners t := Session.books_empty.listeners_run hfit hinTurn rfl
  refine ⟨?_, fun e => ?_, fun handle sub hmember hinTurn => ?_⟩
  · rintro before use after rfl
    obtain ⟨hfirst, hfits, -⟩ := BusUse.allFit_append hfit
    exact ((Session.books_empty.run hfirst).perform hfits).1
  · obtain ⟨t, hdone, hhears⟩ := hbooks.exec_emit e
    exact ⟨s.bus.listeners .all, s.bus.listeners (.type e.typeName), congrArg Prod.fst hdone,
      (congrArg (·.2.heard) hdone).trans hhears.heard, Bus.listeners_perm hbooks.subscriptions _,
      Bus.listeners_perm hbooks.subscriptions _, hagree _, hagree _⟩
  · exact hbooks.listeners_unsubscribe_iff hmember (hagree _ hinTurn)

/-- A listener that subscribes to everything and twice to numbers, with another one between, which
looks at the files whenever it is called. The older of the two is taken back. -/
def crossed : List BusUse := [
  .subscribe ⟨.type "int", "a"⟩ [] "first", .subscribe ⟨.type "int", "b"⟩ [.perform .files] "b",
  .subscribe ⟨.type "int", "a"⟩ [] "second", .subscribe ⟨.all, "a"⟩ [] "all"]

theorem allFit_crossed (handle : String) (hlive : handle ∈ ["first", "b", "second", "all"]) :
    BusUse.AllFit [] (crossed ++ [.unsubscribe handle]) := by
  have hpassive : Harmless nestedStep [] :=
    fun s => ⟨s, rfl, rfl, rfl, rfl, (List.append_nil _).symm⟩
  have hlooks : Harmless nestedStep [.perform .files] :=
    fun s => ⟨s, rfl, rfl, rfl, rfl, (List.append_nil _).symm⟩
  exact ⟨⟨by decide, hpassive⟩, ⟨by decide, hlooks⟩, ⟨by decide, hpassive⟩, ⟨by decide, hpassive⟩,
    hlive, trivial⟩

theorem told_to_live_crossed :
    let uses := crossed ++ [.unsubscribe "first"]
    let e := Event.plain (.int 1)
    ((Session.run {} (uses.map BusUse.step)).perform (.emit e)).2.heard =
        [("a", e), ("b", e), ("a", e)] ∧
      ((Ledger.ofUses uses).bus.listeners .all = ["a"] ∧
        (Ledger.ofUses uses).bus.listeners (.type "int") = ["b", "a"]) := by
  intro uses e
  have hinTurn (t : Topic) : BusUse.AllInTurn t [] uses := by
    refine ⟨trivial, trivial, trivial, trivial, ?_, trivial⟩
    intro entry _ _ _ listener hmember
    simp [Ledger.olderThan, Ledger.after, Ledger.bus, Bus.listeners] at hmember
  obtain ⟨globals, typed, -, hheard, -, -, hfirst, hlast⟩ :=
    (told_to_live (allFit_crossed "first" (by decide))).2.1 e
  refine ⟨?_, by decide, by decide⟩
  rw [hheard, hfirst (hinTurn _), hlast (hinTurn _)]
  rfl

/-- The younger handle takes the older subscription back, and the listener that stands between is
called first. -/
theorem later_handle_takes_older :
    let uses := crossed ++ [.unsubscribe "second"]
    let e := Event.plain (.int 1)
    BusUse.AllFit [] uses ∧ (Ledger.ofUses uses).bus.listeners (.type "int") = ["a", "b"] ∧
      ((Session.run {} (uses.map BusUse.step)).perform (.emit e)).2.heard =
        [("a", e), ("b", e), ("a", e)] :=
  ⟨allFit_crossed "second" (by decide), by decide, rfl⟩

end ScopedCss

import Mathlib.Logic.Relation
import ScopedCss.Proofs.Forward

/-!
What can happen to a provider, and how its slots lie. A provider changes only when it is idle, and
in three ways: a generator fails and leaves the counter behind, a generator gets its window, or the
theme is switched. So the windows of a provider never overlap, and each lies behind those before it.
-/
namespace ScopedCss.Provider

/-- The ways in which a provider changes. -/
inductive Change (language : Language) : Provider → Provider → Prop where
  | failed {p : Provider} {g : Generator} {e : Failure} {stop : Int} (hidle : p.busy = false)
      (hforward : g.body.Forward language) (hended : g.Ends p.counter (.error e) stop) :
      Change language p { p with counter := stop }
  | mounted {p : Provider} {g : Generator} {stop : Int} (hidle : p.busy = false)
      (hforward : g.body.Forward language) (habsent : p.registered? g = none)
      (hended : g.Ends p.counter (.ok ()) stop) :
      Change language p ({ p with counter := stop }.register g p.counter stop)
  | switched {p : Provider} {theme : Theme} (hidle : p.busy = false)
      (haccepted : theme.isInstanceOf p.theme = true)
      (hdiffers : p.theme.quickSame? theme = some false) :
      Change language p { p with theme := theme }

/-- Any number of changes. -/
abbrev Changes (language : Language) : Provider → Provider → Prop :=
  Relation.ReflTransGen (Change language)

variable {language : Language}

/-- Nothing can happen to a provider while it is busy. -/
theorem Changes.eq_of_busy {p q : Provider} (h : Changes language p q) (hbusy : p.busy = true) :
    q = p := by
  rcases Relation.ReflTransGen.cases_head h with rfl | ⟨r, hfirst, -⟩
  · rfl
  · cases hfirst <;> simp_all

theorem Change.registrations_grow {p q : Provider} (h : Change language p q) :
    p.registrations <+: q.registrations := by
  cases h with
  | mounted _ _ _ _ => exact List.prefix_append _ _
  | _ => exact List.prefix_rfl

/-- What is mounted stays mounted. -/
theorem Changes.registrations_grow {p q : Provider} (h : Changes language p q) :
    p.registrations <+: q.registrations := by
  induction h with
  | refl => exact List.prefix_rfl
  | tail _ hlast ih => exact ih.trans hlast.registrations_grow

/-- Where the index says that a generator is, it is. -/
def Indexed (p : Provider) : Prop := ∀ identity k, p.index.lookup identity = some k →
  ∃ r, p.registrations[k]? = some r ∧ r.generator.identity = identity

theorem indexed_fresh (backend : Nat) (theme : Theme) (onBus : Bool) :
    (fresh backend theme onBus).Indexed := by
  intro identity k hindexed
  cases hindexed

/-- A generator that is found is found with its own window. -/
theorem Indexed.registered? {p : Provider} (h : p.Indexed) {g : Generator} {r : Registration}
    (hknown : p.registered? g = some r) :
    r ∈ p.registrations ∧ r.generator.identity = g.identity := by
  obtain ⟨k, hindexed, hfound⟩ := Option.bind_eq_some_iff.1 hknown
  obtain ⟨r', hplace, hidentity⟩ := h _ _ hindexed
  obtain rfl : r' = r := Option.some.inj (hplace.symm.trans hfound)
  exact ⟨List.mem_of_getElem? hplace, hidentity⟩

theorem Indexed.register {p : Provider} (h : p.Indexed) (g : Generator) (start stop : Int) :
    (p.register g start stop).Indexed := by
  intro identity k hindexed
  simp only [Provider.register, List.lookup_cons] at hindexed ⊢
  by_cases hsame : identity = g.identity
  · subst hsame
    obtain rfl : p.registrations.length = k := by simpa using hindexed
    exact ⟨⟨g, start, stop⟩, by simp, rfl⟩
  · have hother : (identity == g.identity) = false := by simpa using hsame
    rw [hother] at hindexed
    obtain ⟨r, hplace, hown⟩ := h identity k hindexed
    have hinside := (List.getElem?_eq_some_iff.1 hplace).1
    exact ⟨r, by rw [List.getElem?_append_left hinside, hplace], hown⟩

/-- The windows lie one behind the other, up to the counter, the index finds them, and the window of
a compiled class has a slot for each of its class names, unless its calls do not run. -/
structure Layered (p : Provider) : Prop where
  positive : 0 ≤ p.counter
  ordered : p.registrations.Pairwise fun r q => r.stop ≤ q.start
  bounded : ∀ r ∈ p.registrations, 0 ≤ r.start ∧ r.start ≤ r.stop ∧ r.stop ≤ p.counter
  found : ∀ identity k, p.index.lookup identity = some k →
    ∃ r, p.registrations[k]? = some r ∧ r.generator.identity = identity
  width : ∀ r ∈ p.registrations, ∀ cls, r.generator.body = .compiled cls →
    cls.isSuspended = false → r.stop = r.start + cls.definition.slotCount

theorem layered_fresh (backend : Nat) (theme : Theme) (onBus : Bool) :
    (fresh backend theme onBus).Layered where
  positive := Int.le_refl 0
  ordered := .nil
  bounded := by simp [fresh]
  found := by simp [fresh]
  width := by simp [fresh]

namespace Layered

variable {p : Provider}

theorem registered? (h : p.Layered) {g : Generator} {r : Registration}
    (hknown : p.registered? g = some r) :
    r ∈ p.registrations ∧ r.generator.identity = g.identity :=
  Indexed.registered? h.found hknown

/-- The counter may move on. -/
theorem advance (h : p.Layered) {stop : Int} (hforth : p.counter ≤ stop) :
    ({ p with counter := stop } : Provider).Layered where
  positive := Int.le_trans h.positive hforth
  ordered := h.ordered
  bounded r hmember := by
    obtain ⟨hlow, hwindow, hhigh⟩ := h.bounded r hmember
    exact ⟨hlow, hwindow, Int.le_trans hhigh hforth⟩
  found := h.found
  width := h.width

theorem register (h : p.Layered) {g : Generator} {stop : Int} (hforth : p.counter ≤ stop)
    (hwide : ∀ cls, g.body = .compiled cls → cls.isSuspended = false →
      stop = p.counter + cls.definition.slotCount) :
    ({ p with counter := stop }.register g p.counter stop).Layered where
  positive := (h.advance hforth).positive
  ordered := by
    refine List.pairwise_append.2 ⟨h.ordered, List.pairwise_singleton _ _, ?_⟩
    intro r hmember q hlast
    rw [List.mem_singleton.1 hlast]
    exact (h.bounded r hmember).2.2
  bounded r hmember := by
    rcases List.mem_append.1 hmember with hmember | hlast
    · exact (h.advance hforth).bounded r hmember
    · rw [List.mem_singleton.1 hlast]
      exact ⟨h.positive, hforth, Int.le_refl stop⟩
  found := Indexed.register (p := { p with counter := stop }) h.found g p.counter stop
  width r hmember := by
    rcases List.mem_append.1 hmember with hmember | hlast
    · exact h.width r hmember
    · rw [List.mem_singleton.1 hlast]
      exact hwide

/-- No slot lies in two windows. -/
theorem eq_of_slot (h : p.Layered) {r q : Registration} (hr : r ∈ p.registrations)
    (hq : q ∈ p.registrations) {slot : Int} (hinside : r.start ≤ slot ∧ slot < r.stop)
    (hwithin : q.start ≤ slot ∧ slot < q.stop) : r = q := by
  obtain ⟨j, hj, rfl⟩ := List.getElem_of_mem hr
  obtain ⟨k, hk, rfl⟩ := List.getElem_of_mem hq
  rcases Nat.lt_trichotomy j k with hbefore | rfl | hbehind
  · have := List.pairwise_iff_getElem.1 h.ordered j k hj hk hbefore
    omega
  · rfl
  · have := List.pairwise_iff_getElem.1 h.ordered k j hk hj hbehind
    omega

end Layered

theorem Change.layered {p q : Provider} (hchange : Change language p q) (h : p.Layered) :
    q.Layered := by
  cases hchange with
  | failed _ hforward hended => exact h.advance (hended.le hforward)
  | mounted _ hforward _ hended =>
    exact h.register (hended.le hforward) fun cls hbody => hended.width hbody
  | switched _ _ _ => exact ⟨h.positive, h.ordered, h.bounded, h.found, h.width⟩

theorem Changes.layered {p q : Provider} (hchanges : Changes language p q) (h : p.Layered) :
    q.Layered := by
  induction hchanges with
  | refl => exact h
  | tail _ hlast ih => exact hlast.layered ih

end ScopedCss.Provider

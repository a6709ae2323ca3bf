import ScopedCss.Theme

/-!
Events and who listens to them. A listener subscribes to the events of one type or to all of them;
subscriptions are kept in the order in which they were made.
-/
namespace ScopedCss

inductive Event where
  | styleMounted (generator : String) (start stop : Int)
  | styleReused (generator : String) (start : Int)
  | themeUnchanged (theme : Theme)
  | stylesheetReplaced (styles length : Int)
  /-- A bare value as an event. -/
  | plain (value : Json)

/-- The name of an event's exact type. -/
def Event.typeName : Event → String
  | .styleMounted _ _ _ => "StyleMounted"
  | .styleReused _ _ => "StyleReused"
  | .themeUnchanged _ => "ThemeUnchanged"
  | .stylesheetReplaced _ _ => "StylesheetReplaced"
  | .plain v => v.typeName

/-- What can be subscribed to. -/
inductive Topic where
  | all
  | type (name : String)
deriving DecidableEq, Repr

structure Subscription where
  topic : Topic
  listener : String
deriving DecidableEq, Repr

/-- The subscriptions, oldest first. -/
structure Bus where
  subscriptions : List Subscription := []
deriving DecidableEq, Repr

namespace Bus

/-- The listeners of a topic, in order of subscription. -/
def listeners (b : Bus) (t : Topic) : List String :=
  (b.subscriptions.filter (·.topic == t)).map (·.listener)

def subscribe (b : Bus) (s : Subscription) : Bus := ⟨b.subscriptions ++ [s]⟩

/-- Takes the oldest subscription of a listener to a topic back; none if there is none. -/
def unsubscribe? (b : Bus) (s : Subscription) : Option Bus :=
  if s ∈ b.subscriptions then some ⟨b.subscriptions.erase s⟩ else none

theorem listeners_subscribe_self (b : Bus) (s : Subscription) :
    (b.subscribe s).listeners s.topic = b.listeners s.topic ++ [s.listener] := by
  simp [listeners, subscribe]

theorem listeners_subscribe_of_ne (b : Bus) {s : Subscription} {t : Topic} (h : s.topic ≠ t) :
    (b.subscribe s).listeners t = b.listeners t := by
  simp [listeners, subscribe, h]

/-- Subscriptions to other topics stay as they are. -/
theorem listeners_unsubscribe_of_ne {b c : Bus} {s : Subscription} {t : Topic}
    (h : b.unsubscribe? s = some c) (ht : s.topic ≠ t) : c.listeners t = b.listeners t := by
  unfold unsubscribe? at h
  split at h
  · cases h
    have hs : s ∉ b.subscriptions.filter (·.topic == t) := by simp [ht]
    rw [listeners, listeners, ← List.erase_filter, List.erase_of_not_mem hs]
  · cases h

end Bus
end ScopedCss

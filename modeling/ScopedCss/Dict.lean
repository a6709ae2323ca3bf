/-!
Dictionaries: keys with their values, in the order in which the keys came in. A key stands in a
dictionary once, and `List.lookup` finds its value.
-/
namespace ScopedCss.Dict

variable {α β : Type} [BEq α]

/-- Gives a key a value. A key that is there already keeps its place. -/
def put (key : α) (value : β) : List (α × β) → List (α × β)
  | [] => [(key, value)]
  | e :: es => if e.1 == key then (e.1, value) :: es else e :: put key value es

/-- Gives a key a value, unless it has one. -/
def putNew (d : List (α × β)) (e : α × β) : List (α × β) :=
  if d.any (·.1 == e.1) then d else d ++ [e]

/-- The dictionary of a row of pairs; of two pairs with one key the later one counts. -/
def ofPairs (ps : List (α × β)) : List (α × β) := ps.foldl (fun d p => put p.1 p.2 d) []

/-- How often each key occurs. -/
def tally (keys : List α) : List (α × Nat) :=
  keys.foldl (fun d k => put k ((d.lookup k).getD 0 + 1) d) []

end ScopedCss.Dict

import ScopedCss.Check

/-!
Slots of class names. The distinct class names of a rule tree, in code-point order, get the slots
0, 1, 2 and so on, so that moving rules around changes no slot.
-/
namespace ScopedCss

/-- The class names in slot order, each with the location of its first occurrence. -/
structure SlotTable where
  entries : List (String × Option Location)
deriving DecidableEq, Repr

namespace SlotTable

/-- The table of a rule tree. All names are collected, each with the first location it comes with,
before they are sorted. -/
def ofRules (rules : List Rule) : SlotTable :=
  let seen := (classnameParts rules).foldl Dict.putNew []
  let names := Check.sortNames (seen.map (·.1))
  ⟨names.map fun n => (n, (seen.lookup n).join)⟩

def names (t : SlotTable) : List String := t.entries.map (·.1)

def size (t : SlotTable) : Nat := t.entries.length

def slot? (t : SlotTable) (name : String) : Option Nat := t.names.idxOf? name

def location? (t : SlotTable) (name : String) : Option Location := (t.entries.lookup name).join

/-- The names with their slots. -/
def slots (t : SlotTable) : List (String × Nat) := t.names.zipIdx

end SlotTable
end ScopedCss

/-!
The classes of themes. A class derives from any number of others, and what belongs to a class
belongs to all that it derives from.
-/
namespace ScopedCss

inductive ThemeClass where
  /-- The class of the bare values of a type. -/
  | bare (typeName : String)
  /-- Any other class with what it derives from. Classes of one name are told apart by numbers. -/
  | make (name : String) (number : Nat) (bases : List ThemeClass)
deriving Repr

namespace ThemeClass

mutual

def decEq : (c d : ThemeClass) → Decidable (c = d)
  | .bare m, .bare n =>
    if hname : m = n then isTrue (hname ▸ rfl) else isFalse fun h => hname (by injection h)
  | .bare _, .make _ _ _ => isFalse nofun
  | .make _ _ _, .bare _ => isFalse nofun
  | .make m i bs, .make n j cs =>
    if hname : m = n then
      if hnumber : i = j then
        match decEqAll bs cs with
        | isTrue hbases => isTrue (hname ▸ hnumber ▸ hbases ▸ rfl)
        | isFalse hbases => isFalse fun h => hbases (by injection h)
      else isFalse fun h => hnumber (by injection h)
    else isFalse fun h => hname (by injection h)

def decEqAll : (bs cs : List ThemeClass) → Decidable (bs = cs)
  | [], [] => isTrue rfl
  | [], _ :: _ => isFalse nofun
  | _ :: _, [] => isFalse nofun
  | b :: bs, c :: cs =>
    match decEq b c, decEqAll bs cs with
    | isTrue h, isTrue hs => isTrue (h ▸ hs ▸ rfl)
    | isFalse h, _ => isFalse fun he => h (List.cons.inj he).1
    | isTrue _, isFalse hs => isFalse fun he => hs (List.cons.inj he).2

end

instance : DecidableEq ThemeClass := decEq

def name : ThemeClass → String
  | .bare typeName => typeName
  | .make name _ _ => name

mutual

/-- A class, what it derives from, what that derives from, and so on. Truth values are whole
numbers. -/
def ancestors : ThemeClass → List ThemeClass
  | .bare typeName => .bare typeName :: if typeName = "bool" then [.bare "int"] else []
  | .make name number bases => .make name number bases :: ancestorsOf bases

def ancestorsOf : List ThemeClass → List ThemeClass
  | [] => []
  | c :: cs => ancestors c ++ ancestorsOf cs

end

/-- Whether a class is another one or derives from it, directly or not. -/
def derivesFrom (c d : ThemeClass) : Bool := c.ancestors.contains d

def isBare : ThemeClass → Bool
  | .bare _ => true
  | .make _ _ _ => false

theorem mem_ancestors_bare {d : ThemeClass} {typeName : String} :
    d ∈ (bare typeName).ancestors ↔ d = bare typeName ∨ typeName = "bool" ∧ d = bare "int" := by
  rw [ancestors]
  split <;> simp_all

/-- Bare values belong to no class that somebody wrote. -/
theorem isBare_of_derivesFrom {typeName : String} {c : ThemeClass}
    (h : (bare typeName).derivesFrom c = true) : c.isBare = true := by
  rcases mem_ancestors_bare.1 (List.contains_iff_mem.1 h) with rfl | ⟨-, rfl⟩ <;> rfl

def emptyTheme : ThemeClass := .make "EmptyTheme" 0 []

def mappingTheme : ThemeClass := .make "MappingTheme" 0 []

end ThemeClass

/-- A class that somebody wrote. -/
abbrev WrittenClass := { c : ThemeClass // c.isBare = false }

/-- A class derived from that of the mapping themes. -/
abbrev MappingClass := { c : ThemeClass // c.derivesFrom .mappingTheme = true }

end ScopedCss

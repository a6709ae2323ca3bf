import ScopedCss.Json.Display
import ScopedCss.Json.Equality
import ScopedCss.ThemeClass

/-!
Themes: the values that stylesheets are rendered against. A provider compares a new theme with the
one it has, first by type and then by the theme's own quick comparison.
-/
namespace ScopedCss

inductive Theme where
  /-- A theme without values. -/
  | empty
  /-- A theme over named values, which may hold further ones. -/
  | mapping (data : Members)
  /-- A theme of a class derived from the mapping themes, which is like them in all else. -/
  | derived (c : MappingClass) (data : Members)
  /-- A theme of any other class, with the one value `color`, by which it is compared. -/
  | custom (c : WrittenClass) (color : Json)
  /-- A bare value used as a theme. -/
  | plain (value : Json)

namespace Theme

/-- The class of a theme. -/
def type : Theme → ThemeClass
  | .empty => .emptyTheme
  | .mapping _ => .mappingTheme
  | .derived c _ => c.1
  | .custom c _ => c.1
  | .plain v => .bare v.typeName

def typeName (t : Theme) : String := t.type.name

/-- Whether a theme belongs to the class of another one. -/
def isInstanceOf (t other : Theme) : Bool := t.type.derivesFrom other.type

/-- The members of a mapping theme. -/
def data? : Theme → Option Members
  | .mapping d | .derived _ d => some d
  | _ => none

/-- The theme's own comparison: that nothing needs to be rendered again. Bare values have none. -/
def quickSame? : Theme → Theme → Option Bool
  | .empty, _ => some true
  | .mapping d, other | .derived _ d, other =>
    some (match other.data? with
      | some e => (Json.object d).same (.object e)
      | none => false)
  | .custom _ c, .custom _ d => some (c.same d)
  | .custom _ _, _ => some false
  | .plain _, _ => none

def display : Theme → String
  | .empty => "EmptyTheme()"
  | .mapping d | .derived _ d => "MappingTheme(" ++ (Json.object d).display ++ ")"
  | .custom c v => c.1.name ++ "(color=" ++ v.display ++ ")"
  | .plain v => v.display

/-- No theme at all is the empty one. -/
def orEmpty : Theme → Theme
  | .plain .null => .empty
  | t => t

/-! ### Samples

Two classes of themes as a user of the library would write them. The library has neither of them. -/

/-- A theme of a class derived from the mapping themes. -/
abbrev submapping (data : Members) : Theme :=
  .derived ⟨.make "SubTheme" 0 [.mappingTheme], rfl⟩ data

/-- A theme with a color. -/
abbrev color (value : Json) : Theme := .custom ⟨.make "ColorTheme" 0 [], rfl⟩ value

end Theme
end ScopedCss

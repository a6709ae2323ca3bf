/-! How stylesheets are laid out and what generated class names start with. -/
namespace ScopedCss

structure Settings where
  /-- What every generated class name starts with. -/
  classPrefix : String := "css-"
  /-- One declaration on a line instead of one rule. -/
  pretty : Bool := false
  indent : String := "  "
deriving DecidableEq, Repr

/-- Settings that can be compiled with: class names never start with a bare number. -/
structure Config extends Settings where
  classPrefix_ne : classPrefix ≠ "" := by decide

/-- The configuration with these settings; none if the class names would have no start. -/
def Config.ofSettings? (s : Settings) : Option Config :=
  if h : s.classPrefix = "" then none else some ⟨s, h⟩

end ScopedCss

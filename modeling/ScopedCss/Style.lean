import ScopedCss.Location

/-!
Style blocks: a signature and a tree of rules. A header mixes literal selector text with symbolic
class names, an entry pairs a property with the text of a value expression, and a rule holds either
entries or further rules.
-/
namespace ScopedCss

/-- A piece of a header. -/
inductive Part where
  | raw (text : String)
  | classname (name : String)
deriving DecidableEq, Repr

namespace Part

def name? : Part → Option String
  | .raw _ => none
  | .classname n => some n

/-- A class name is written behind a dot. -/
def text : Part → String
  | .raw t => t
  | .classname n => "." ++ n

end Part

/-- The selector or at-rule prelude in front of a body. -/
structure Header where
  parts : List Part
  location : Option Location := none
  isAtRule : Bool := false
deriving DecidableEq, Repr

namespace Header

def classnames (h : Header) : List String := h.parts.filterMap Part.name?

def text (h : Header) : String := String.join (h.parts.map Part.text)

/-- The header that a bare identifier stands for. -/
def ofIdentifier (name : String) (location : Option Location) : Header :=
  { parts := [.classname name], location := location }

end Header

/-- A declaration; its value is the text of an expression, evaluated when the block is rendered. -/
structure Entry where
  property : String
  value : String
  location : Option Location := none
deriving DecidableEq, Repr

inductive Rule where
  | plain (header : Header) (entries : List Entry)
  | nested (header : Header) (children : List Rule)
deriving Repr

namespace Rule

mutual

def decEq : (a b : Rule) → Decidable (a = b)
  | .plain h es, .plain h' es' =>
    if hheader : h = h' then
      if hentries : es = es' then isTrue (hheader ▸ hentries ▸ rfl)
      else isFalse fun he => hentries (by injection he)
    else isFalse fun he => hheader (by injection he)
  | .plain _ _, .nested _ _ => isFalse nofun
  | .nested _ _, .plain _ _ => isFalse nofun
  | .nested h rs, .nested h' rs' =>
    if hheader : h = h' then
      match decEqAll rs rs' with
      | isTrue hchildren => isTrue (hheader ▸ hchildren ▸ rfl)
      | isFalse hchildren => isFalse fun he => hchildren (by injection he)
    else isFalse fun he => hheader (by injection he)

def decEqAll : (as bs : List Rule) → Decidable (as = bs)
  | [], [] => isTrue rfl
  | [], _ :: _ => isFalse nofun
  | _ :: _, [] => isFalse nofun
  | a :: as, b :: bs =>
    match decEq a b, decEqAll as bs with
    | isTrue h, isTrue hs => isTrue (h ▸ hs ▸ rfl)
    | isFalse h, _ => isFalse fun he => h (List.cons.inj he).1
    | isTrue _, isFalse hs => isFalse fun he => hs (List.cons.inj he).2

end

instance : DecidableEq Rule := decEq

def header : Rule → Header
  | .plain h _ => h
  | .nested h _ => h

/-- How many entries or children the body holds. -/
def size : Rule → Nat
  | .plain _ es => es.length
  | .nested _ cs => cs.length

/-- The entries of the rule's own body. -/
def entries : Rule → List Entry
  | .plain _ es => es
  | .nested _ _ => []

mutual

/-- The rule and all rules inside it, depth first. -/
def walk : Rule → List Rule
  | .plain h es => [.plain h es]
  | .nested h cs => .nested h cs :: walkAll cs

/-- All rules of a list of trees, depth first. -/
def walkAll : List Rule → List Rule
  | [] => []
  | r :: rs => walk r ++ walkAll rs

end

end Rule

/-- What stands in front of a block: the name and type of the theme and the name of the result. -/
structure Signature where
  themeVar : String := "theme"
  themeType : String := "EmptyTheme"
  resultType : String := "Styles"
  location : Option Location := none
deriving DecidableEq, Repr

structure Style where
  signature : Signature
  rules : List Rule
deriving DecidableEq, Repr

/-- Every class name of a rule list with the location of its header, in depth-first order. -/
def classnameParts (rules : List Rule) : List (String × Option Location) :=
  (Rule.walkAll rules).flatMap fun r => r.header.classnames.map fun n => (n, r.header.location)

end ScopedCss

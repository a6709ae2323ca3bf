import ScopedCss.Source.Terminal
import ScopedCss.Style

/-!
The outline of a source text: its blocks, rules and declarations as they are written, before
selectors are looked into and before anything is refused for standing in the wrong place.
-/
namespace ScopedCss.Source

/-- A terminal of the source, its spelling and where it starts. -/
structure Token where
  terminal : Terminal
  text : List Char
  location : Location
deriving DecidableEq, Repr

/-- A rule or a declaration; the token is its header or its property. -/
inductive Item where
  | rule (head : Token) (items : List Item)
  | entry (head : Token) (value : List Char)
deriving Repr

def Item.head : Item → Token
  | .rule t _ => t
  | .entry t _ => t

structure Block where
  signature : Signature
  items : List Item
deriving Repr

end ScopedCss.Source

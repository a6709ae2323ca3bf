import ScopedCss.Selector
import ScopedCss.Source.Reader

/-!
From outlines to style blocks. Bare headers become class names and quoted ones selectors, and every
item is checked to stand where it may: rules in blocks and at-rules, declarations in plain rules.
Of several errors the first in the order of closing is reported, inner ones before outer ones.
-/
namespace ScopedCss

open Source

/-- The text of a string literal: a backslash stands for the next character, but `\n` and `\t` for
a line feed and a tab. -/
def unquote (literal : List Char) : List Char := unescape (literal.drop 1).dropLast
where
  unescape : List Char → List Char
    | '\x5c' :: c :: r =>
      (if c = 'n' then '\n' else if c = 't' then '\t' else c) :: unescape r
    | c :: r => c :: unescape r
    | [] => []

/-- Names stand for class names, string literals for selectors. -/
def headerOf (t : Token) : Except ParseError Header :=
  if t.terminal = .string then Selector.parse (String.ofList (unquote t.text)) (some t.location)
  else .ok (.ofIdentifier (String.ofList t.text) (some t.location))

/-- In a bare property an underscore stands for a hyphen. -/
def propertyOf (t : Token) : String :=
  if t.terminal = .string then String.ofList (unquote t.text)
  else String.ofList (t.text.map fun c => if c = '_' then '-' else c)

/-- A rule or a declaration with its place checked. -/
inductive Member where
  | rule (r : Rule)
  | entry (e : Entry)
deriving Repr

def Member.location : Member → Option Location
  | .rule r => r.header.location
  | .entry e => e.location

/-- The rules of a body that may hold nothing else. -/
def onlyRules (owner : String) : List Member → Except ParseError (List Rule)
  | [] => .ok []
  | .rule r :: ms => (onlyRules owner ms).map (r :: ·)
  | .entry e :: _ => .error ⟨.declarationOutsideRule e.property owner, e.location⟩

/-- The declarations of a body that may hold nothing else. -/
def onlyEntries (owner : String) : List Member → Except ParseError (List Entry)
  | [] => .ok []
  | .entry e :: ms => (onlyEntries owner ms).map (e :: ·)
  | .rule r :: _ => .error ⟨.ruleInsidePlainRule owner, r.header.location⟩

mutual

def memberOf : Item → Except ParseError Member
  | .entry t value => .ok (.entry ⟨propertyOf t, String.ofList value, some t.location⟩)
  | .rule t items => do
    let header ← headerOf t
    let members ← membersOf items
    if header.isAtRule then
      let rules ← onlyRules header.text members
      return .rule (.nested header rules)
    else
      let entries ← onlyEntries header.text members
      return .rule (.plain header entries)

def membersOf : List Item → Except ParseError (List Member)
  | [] => .ok []
  | i :: is => do
    let m ← memberOf i
    let ms ← membersOf is
    return m :: ms

end

def styleOf (b : Block) : Except ParseError Style := do
  let members ← membersOf b.items
  let rules ← onlyRules "style" members
  return ⟨b.signature, rules⟩

/-- The style blocks of a source text. -/
def parseStyles (source : String) : Except ParseError (List Style) := do
  let blocks ← outline source.toList
  blocks.mapM styleOf

/-- The only style block of a source text. Too many are reported at the second one's signature. -/
def parseStyle (source : String) : Except ParseError Style := do
  match ← parseStyles source with
  | [s] => return s
  | ss => throw ⟨.blockCount ss.length, (ss[1]?).bind (·.signature.location)⟩

end ScopedCss

import ScopedCss.Source.Terminal

/-!
Progress through a value expression. Of an expression only its extent matters, so reading it keeps
no tree: a cursor holds the brackets that are open and which kind of terminal comes next.
-/
namespace ScopedCss.Source

/-- What an expression inside a value is enclosed by. -/
inductive Bracket where
  /-- A parenthesised list of expressions. -/
  | group
  | list
  /-- The subscript of an operand. -/
  | index
  /-- The arguments of a call. -/
  | call
  /-- The condition between the words if and else. -/
  | condition
deriving DecidableEq, Repr

inductive Place where
  /-- An expression or the closing bracket: behind an opening bracket or a comma. -/
  | first
  /-- An expression. -/
  | test
  /-- An expression that cannot start with the word not: behind an arithmetic or comparing
  operator. -/
  | factor
  /-- A name: behind a dot. -/
  | attribute
  /-- An operator: behind an operand. -/
  | operator
  /-- An operator or an equals sign: behind a name at the start of an argument. -/
  | keyword
deriving DecidableEq, Repr

/-- Terminals that an operand can start with. -/
def startsOperand : Terminal → Bool
  | .fstring | .number | .name | .string | .openParen | .openBracket | .minus | .plus => true
  | _ => false

/-- Terminals that can stand behind any operand. -/
def followsOperand : Terminal → Bool
  | .andWord | .orWord | .ifWord | .compare | .dot | .openParen | .openBracket | .minus | .plus
  | .star | .slash | .floorDiv | .percent | .comma | .closeParen => true
  | _ => false

/-- The terminals looked for at a place. Some of them the open brackets then refuse. -/
def Place.allows : Place → Terminal → Bool
  | .first, t => startsOperand t || t == .notWord || t == .closeParen || t == .closeBracket
  | .test, t => startsOperand t || t == .notWord
  | .factor, t => startsOperand t
  | .attribute, t => t == .name
  | .operator, t => followsOperand t || t == .elseWord || t == .closeBrace || t == .closeBracket
  | .keyword, t => followsOperand t || t == .equals

structure Cursor where
  place : Place
  /-- Innermost first. -/
  brackets : List Bracket
deriving DecidableEq, Repr

namespace Cursor

/-- Before the first terminal of a value. -/
def start : Cursor := ⟨.test, []⟩

/-- Past a terminal at the start of an expression. -/
def operand? (c : Cursor) : Terminal → Option Cursor
  | .fstring | .number | .string => some ⟨.operator, c.brackets⟩
  | .name =>
    some ⟨if c.place = .first ∧ c.brackets.head? = some .call then .keyword else .operator,
      c.brackets⟩
  | .notWord => if c.place = .factor then none else some ⟨.test, c.brackets⟩
  | .minus | .plus => some ⟨.factor, c.brackets⟩
  | .openParen => some ⟨.first, .group :: c.brackets⟩
  | .openBracket => some ⟨.first, .list :: c.brackets⟩
  | .closeParen =>
    match c.place, c.brackets with
    | .first, .group :: r | .first, .call :: r => some ⟨.operator, r⟩
    | _, _ => none
  | .closeBracket =>
    match c.place, c.brackets with
    | .first, .list :: r => some ⟨.operator, r⟩
    | _, _ => none
  | _ => none

/-- Past a terminal behind an operand. -/
def operator? (c : Cursor) : Terminal → Option Cursor
  | .andWord | .orWord => some ⟨.test, c.brackets⟩
  | .compare | .minus | .plus | .star | .slash | .floorDiv | .percent =>
    some ⟨.factor, c.brackets⟩
  | .dot => some ⟨.attribute, c.brackets⟩
  | .openParen => some ⟨.first, .call :: c.brackets⟩
  | .openBracket => some ⟨.test, .index :: c.brackets⟩
  | .equals => if c.place = .keyword then some ⟨.test, c.brackets⟩ else none
  | .ifWord =>
    if c.brackets.head? = some .condition then none
    else some ⟨.test, .condition :: c.brackets⟩
  | .elseWord =>
    match c.brackets with
    | .condition :: r => some ⟨.test, r⟩
    | _ => none
  | .comma =>
    match c.brackets with
    | .group :: _ | .list :: _ | .call :: _ => some ⟨.first, c.brackets⟩
    | _ => none
  | .closeParen =>
    match c.brackets with
    | .group :: r | .call :: r => some ⟨.operator, r⟩
    | _ => none
  | .closeBracket =>
    match c.brackets with
    | .list :: r | .index :: r => some ⟨.operator, r⟩
    | _ => none
  | _ => none

/-- Past one more terminal of the expression, if it can go on with it. -/
def next? (c : Cursor) (t : Terminal) : Option Cursor :=
  match c.place with
  | .first | .test | .factor => c.operand? t
  | .attribute => if t = .name then some ⟨.operator, c.brackets⟩ else none
  | .operator | .keyword => c.operator? t

/-- Whether the expression can end here. -/
def isComplete (c : Cursor) : Bool := c.place == .operator && c.brackets.isEmpty

end Cursor
end ScopedCss.Source

import ScopedCss.Location
import ScopedCss.Text.Quoted

/-!
Why a source text is refused, and where. The wording of every reason is in one function.
-/
namespace ScopedCss

inductive ParseFault where
  | unexpectedToken (text : String)
  | unexpectedChar (c : Char)
  | unexpectedEnd
  | emptySelector
  /-- A dot of the selector has no class name behind it. -/
  | classnameExpected (selector : String)
  | hyphenAfterClassname (name selector : String)
  /-- A declaration stands where only rules may. -/
  | declarationOutsideRule (property owner : String)
  | ruleInsidePlainRule (owner : String)
  | blockCount (count : Nat)
deriving DecidableEq, Repr

namespace ParseFault

open Text (quote)

def reason : ParseFault → String
  | unexpectedToken t => "Unexpected token " ++ quote t
  | unexpectedChar c => "Unexpected character " ++ quote (String.singleton c)
  | unexpectedEnd => "Unexpected end of input (unterminated block?)"
  | emptySelector => "Empty selector"
  | classnameExpected s =>
    "Not a valid selector: expected a classname after '.' in " ++ quote s
  | hyphenAfterClassname n s =>
    "Not a valid selector: '-' directly after classname " ++ quote n ++ " in " ++ quote s
  | declarationOutsideRule p o =>
    "Declaration " ++ quote p ++ " is not allowed directly inside " ++ quote o ++
      "; wrap it in a rule"
  | ruleInsidePlainRule o =>
    "Nested rule inside " ++ quote o ++ "; only at-rules may contain rules"
  | blockCount n => "Expected exactly one style block, found " ++ toString n

end ParseFault

structure ParseError where
  fault : ParseFault
  location : Option Location
deriving DecidableEq, Repr

def ParseError.message (e : ParseError) : String :=
  match e.location with
  | none => e.fault.reason
  | some l =>
    "line " ++ toString l.line ++ ", column " ++ toString l.column ++ ": " ++ e.fault.reason

end ScopedCss

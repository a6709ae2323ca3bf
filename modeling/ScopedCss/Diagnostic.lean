import ScopedCss.Style

/-! Findings about a style block. An error stops compilation; the other two are only told. -/
namespace ScopedCss

inductive Severity where
  | error
  | warning
  | info
deriving DecidableEq, Repr

def Severity.text : Severity → String
  | .error => "ERROR"
  | .warning => "WARNING"
  | .info => "INFO"

structure Diagnostic where
  /-- The check that found it. -/
  rule : String
  severity : Severity
  message : String
  location : Option Location := none
  /-- The class name it is about, if it is about one. -/
  classname : Option String := none
  /-- A hint at what to do. -/
  fix : Option String := none
deriving DecidableEq, Repr

namespace Diagnostic

def isError (d : Diagnostic) : Bool := d.severity == .error

def isWarning (d : Diagnostic) : Bool := d.severity == .warning

def text (d : Diagnostic) : String :=
  let place := match d.location with
    | none => ""
    | some l => " [" ++ l.text ++ "]"
  d.severity.text ++ place ++ ": " ++ d.message

/-- The message of a refusal that lists errors. -/
def refusal (ds : List Diagnostic) : String :=
  let errors := ds.filter isError
  toString errors.length ++ " error(s) in style source: " ++
    "; ".intercalate (errors.map Diagnostic.text)

end Diagnostic
end ScopedCss

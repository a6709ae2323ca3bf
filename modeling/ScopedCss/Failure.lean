import ScopedCss.Json.Reader
import ScopedCss.StyleClass

/-!
Everything that can stop an operation, by cause. Each cause has a kind, which notes in a stylesheet
name, and most have a message.
-/
namespace ScopedCss

/-- Why a file cannot be used. -/
inductive FileFault where
  | notFound
  | isFolder
  | notFolder
  | alreadyThere
  /-- The bytes are no text. -/
  | undecodable
  /-- The text cannot be written as bytes. -/
  | unencodable
  | nameTooLong
  /-- No name has a null character. -/
  | nullCharacter
deriving DecidableEq, Repr

inductive Failure where
  /-- A configuration whose class names would have no start. -/
  | emptyPrefix
  | compile (e : CompileError)
  | load (e : LoadError)
  | eval (e : EvalError)
  /-- A template is filled with too few values. -/
  | missingValue (expression : String)
  /-- The base class has no stylesheet and no class names. -/
  | notImplemented
  /-- A provider was used by a generator that it was running. -/
  | reentrant
  /-- A generator took another number of slots than when it was mounted. -/
  | slotsChanged (generator : String) (used expected : Int)
  | wrongTheme (expected got : String)
  | notSubscribed
  /-- Nothing has this name. -/
  | unknown (name : String)
  | file (fault : FileFault)
  /-- A theme file that is no JSON text or has a number that is too long. -/
  | unreadableTheme (fault : JsonFault)
  /-- A failure that a generator or a listener asks for. -/
  | raised (kind text : String)
  /-- Calls nested without end. -/
  | endless

namespace Failure

def compileKind : CompileError → String
  | .parse _ => "ParseError"
  | .invalid _ => "ValidationError"
  | .unknownClassname _ => "KeyError"

def evalKind : EvalError → String
  | .noAttribute _ _ | .noTypeAttribute _ _ | .noThemeValue _ | .hiddenAttribute _ =>
    "AttributeError"
  | .noKey _ => "KeyError"
  | .unbound _ => "NameError"
  | .outOfRange _ | .hugeIndex => "IndexError"
  | .zeroDivision _ => "ZeroDivisionError"
  | .overflow _ => "OverflowError"
  | .hugeNumber | .textCall .nullCharacter => "ValueError"
  | .textCall .unencodable => "UnicodeEncodeError"
  | .outOfMemory => "MemoryError"
  | .raised kind _ => kind
  | .undescribed => ""
  | _ => "TypeError"

def loadKind : LoadError → String
  | .nullCharacter => "ValueError"
  | .malformed => "SyntaxError"
  | .noImport => "ImportError"
  | .eval e => evalKind e
  | .fieldOrder _ => "TypeError"
  | .undescribed => ""

def fileKind : FileFault → String
  | .notFound => "FileNotFoundError"
  | .isFolder => "IsADirectoryError"
  | .notFolder => "NotADirectoryError"
  | .alreadyThere => "FileExistsError"
  | .undecodable => "UnicodeDecodeError"
  | .unencodable => "UnicodeEncodeError"
  | .nameTooLong => "OSError"
  | .nullCharacter => "ValueError"

def kind : Failure → String
  | .emptyPrefix | .missingValue _ | .notSubscribed => "ValueError"
  | .compile e => compileKind e
  | .load e => loadKind e
  | .eval e => evalKind e
  | .notImplemented => "NotImplementedError"
  | .reentrant => "RuntimeError"
  | .slotsChanged _ _ _ => "StyleInvariantError"
  | .wrongTheme _ _ => "TypeError"
  | .unknown _ => "KeyError"
  | .file fault => fileKind fault
  | .unreadableTheme .malformed => "JSONDecodeError"
  | .unreadableTheme (.hugeNumber _) => "ValueError"
  | .raised kind _ => kind
  | .endless => "RecursionError"

def loadMessage : LoadError → String
  | .nullCharacter => "source code string cannot contain null bytes"
  | .malformed => "invalid syntax"
  | .noImport => "__import__ not found"
  | .eval e => e.message
  | .fieldOrder n => "non-default argument " ++ Text.quote n ++ " follows default argument"
  | .undescribed => ""

def message : Failure → String
  | .emptyPrefix => "class_prefix must be a non-empty string"
  | .compile e => e.message
  | .load e => loadMessage e
  | .eval e => e.message
  | .missingValue e => "Missing value for expression " ++ Text.quote e
  | .notImplemented => ""
  | .reentrant => "StyleProvider used re-entrantly from inside a generator"
  | .slotsChanged generator used expected =>
    generator ++ " used " ++ toString used ++ " class slot(s) on replay, expected " ++
      toString expected
  | .wrongTheme expected got => "Theme must be a " ++ expected ++ ", got " ++ got
  | .notSubscribed => "list.remove(x): x not in list"
  | .unknown name => Text.quote name
  | .file .nullCharacter => "embedded null byte"
  | .file _ => ""
  | .unreadableTheme .malformed => ""
  | .unreadableTheme (.hugeNumber digits) =>
    "Exceeds the limit (" ++ toString Text.maxDigits ++ " digits) for integer string conversion: " ++
      "value has " ++ toString digits ++
      " digits; use sys.set_int_max_str_digits() to increase the limit"
  | .raised kind text => if kind = "KeyError" then Text.quote text else text
  | .endless => "maximum recursion depth exceeded"

end Failure
end ScopedCss

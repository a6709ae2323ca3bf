import ScopedCss.Text.Digits
import ScopedCss.Text.Quoted

/-! What can go wrong while an expression is evaluated, and how it is told. -/
namespace ScopedCss

/-- The sequences that can be indexed. -/
inductive SequenceKind where
  | list
  | tuple
  | text
deriving DecidableEq, Repr

inductive DivisionKind where
  | int
  | intFloor
  | intRemainder
  | float
  | floatFloor
  | floatRemainder
deriving DecidableEq, Repr

inductive OverflowKind where
  | conversion
  | division
  /-- A number of repetitions. -/
  | count
  /-- The length of a repeated text. -/
  | length
deriving DecidableEq, Repr

/-- Why a call does not fit the parameters of a function. -/
inductive CallFault where
  /-- These parameters got no value. -/
  | missing (function : String) (names : List String)
  /-- More arguments without keywords than the `most` parameters, of which `least` are needed. -/
  | tooMany (function : String) (least most count : Nat)
  | unexpected (function name : String)
  | repeated (function name : String)
deriving DecidableEq, Repr

/-- Why the text of a value cannot be asked for in this way. -/
inductive TextFault where
  /-- More than three arguments, all of them with keywords or not. -/
  | tooMany (named : Bool) (count : Nat)
  | repeated (name : String) (position : Nat)
  | unexpected (name : String)
  | notText (name type : String)
  | nullCharacter
  /-- A name with half of a surrogate pair. -/
  | unencodable
  | cannotDecodeText
  | cannotDecode (type : String)
deriving DecidableEq, Repr

inductive EvalError where
  | noAttribute (type name : String)
  | noTypeAttribute (type name : String)
  /-- A mapping theme has no member of this name. -/
  | noThemeValue (name : String)
  /-- Members whose names start with an underscore are not read as attributes. -/
  | hiddenAttribute (name : String)
  /-- The key, as it is shown. -/
  | noKey (key : String)
  | unbound (name : String)
  | outOfRange (kind : SequenceKind)
  | hugeIndex
  | zeroDivision (kind : DivisionKind)
  | overflow (kind : OverflowKind)
  | notSubscriptable (type : String)
  | typeNotSubscriptable (type : String)
  /-- The class, as it is shown, is one that others could be generic in. -/
  | notGeneric (shown : String)
  | notCallable (type : String)
  | wrongIndex (kind : SequenceKind) (type : String)
  | unhashable (type : String)
  | cannotConcatenate (kind : SequenceKind) (type : String)
  | cannotRepeat (type : String)
  | unsupported (operator left right : String)
  | notOrdered (operator left right : String)
  | noSign (operator type : String)
  | unusedArguments
  /-- A whole number with too many digits to be written. -/
  | hugeNumber
  | outOfMemory
  | call (fault : CallFault)
  | textCall (fault : TextFault)
  /-- Any other failure, by its kind and its message. -/
  | raised (kind message : String)
  /-- No failure, but the end of what is described here: nothing is said about what comes of the
  evaluation. -/
  | undescribed
deriving DecidableEq, Repr

namespace EvalError

open Text (quote)

def sequenceName : SequenceKind → String
  | .list => "list"
  | .tuple => "tuple"
  | .text => "string"

def concatenatedName : SequenceKind → String
  | .text => "str"
  | kind => sequenceName kind

def divisionMessage : DivisionKind → String
  | .int => "division by zero"
  | .intFloor => "integer division or modulo by zero"
  | .intRemainder => "integer modulo by zero"
  | .float => "float division by zero"
  | .floatFloor => "float floor division by zero"
  | .floatRemainder => "float modulo"

/-- Names in quotes, the last two joined by a word. -/
def listed : List String → String
  | [] => ""
  | [a] => quote a
  | [a, b] => quote a ++ " and " ++ quote b
  | names => ", ".intercalate (names.dropLast.map quote) ++ ", and " ++ quote (names.getLastD "")

def plural (count : Nat) : String := if count = 1 then "" else "s"

def callMessage : CallFault → String
  | .missing f names =>
    f ++ "() missing " ++ toString names.length ++ " required positional argument" ++
      plural names.length ++ ": " ++ listed names
  | .tooMany f least most count =>
    f ++ "() takes " ++
      (if least = most then toString most ++ " positional argument" ++ plural most
        else "from " ++ toString least ++ " to " ++ toString most ++ " positional arguments") ++
      " but " ++ toString count ++ (if count = 1 then " was" else " were") ++ " given"
  | .unexpected f name => f ++ "() got an unexpected keyword argument " ++ quote name
  | .repeated f name => f ++ "() got multiple values for argument " ++ quote name

def textMessage : TextFault → String
  | .tooMany named count =>
    "str() takes at most 3 " ++ (if named then "keyword " else "") ++ "arguments (" ++
      toString count ++ " given)"
  | .repeated name position =>
    "argument for str() given by name (" ++ quote name ++ ") and position (" ++
      toString position ++ ")"
  | .unexpected name => quote name ++ " is an invalid keyword argument for str()"
  | .notText name type => "str() argument " ++ quote name ++ " must be str, not " ++ type
  | .nullCharacter => "embedded null character"
  | .unencodable => ""
  | .cannotDecodeText => "decoding str is not supported"
  | .cannotDecode type => "decoding to str: need a bytes-like object, " ++ type ++ " found"

def message : EvalError → String
  | noAttribute type name => quote type ++ " object has no attribute " ++ quote name
  | noTypeAttribute type name =>
    "type object " ++ quote type ++ " has no attribute " ++ quote name
  | noThemeValue name => "theme has no value " ++ quote name
  | hiddenAttribute name => name
  | noKey key => key
  | unbound name => "name " ++ quote name ++ " is not defined"
  | outOfRange kind => sequenceName kind ++ " index out of range"
  | hugeIndex => "cannot fit 'int' into an index-sized integer"
  | zeroDivision kind => divisionMessage kind
  | overflow .conversion => "int too large to convert to float"
  | overflow .division => "integer division result too large for a float"
  | overflow .count => "cannot fit 'int' into an index-sized integer"
  | overflow .length => "repeated string is too long"
  | notSubscriptable type => quote type ++ " object is not subscriptable"
  | notGeneric shown => shown ++ " is not a generic class"
  | typeNotSubscriptable type => "type " ++ quote type ++ " is not subscriptable"
  | notCallable type => quote type ++ " object is not callable"
  | wrongIndex .text type => "string indices must be integers, not " ++ quote type
  | wrongIndex kind type => sequenceName kind ++ " indices must be integers or slices, not " ++ type
  | unhashable type => "unhashable type: " ++ quote type
  | cannotConcatenate kind type =>
    "can only concatenate " ++ concatenatedName kind ++ " (not \"" ++ type ++ "\") to " ++
      concatenatedName kind
  | cannotRepeat type => "can't multiply sequence by non-int of type " ++ quote type
  | unsupported op a b =>
    "unsupported operand type(s) for " ++ op ++ ": " ++ quote a ++ " and " ++ quote b
  | notOrdered op a b =>
    quote op ++ " not supported between instances of " ++ quote a ++ " and " ++ quote b
  | noSign op type => "bad operand type for unary " ++ op ++ ": " ++ quote type
  | unusedArguments => "not all arguments converted during string formatting"
  | hugeNumber =>
    "Exceeds the limit (" ++ toString Text.maxDigits ++ " digits) for integer string conversion; " ++
      "use sys.set_int_max_str_digits() to increase the limit"
  | outOfMemory => ""
  | call fault => callMessage fault
  | textCall fault => textMessage fault
  | raised _ message => message
  | undescribed => ""

end EvalError
end ScopedCss

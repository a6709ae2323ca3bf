/-! The methods of the built-in types of values, by the name of the type. -/
namespace ScopedCss.Value

def textMethods : List String := [
  "capitalize", "casefold", "center", "count", "encode", "endswith", "expandtabs", "find", "format",
  "format_map", "index", "isalnum", "isalpha", "isascii", "isdecimal", "isdigit", "isidentifier",
  "islower", "isnumeric", "isprintable", "isspace", "istitle", "isupper", "join", "ljust", "lower",
  "lstrip", "maketrans", "partition", "removeprefix", "removesuffix", "replace", "rfind", "rindex",
  "rjust", "rpartition", "rsplit", "rstrip", "split", "splitlines", "startswith", "strip",
  "swapcase", "title", "translate", "upper", "zfill"]

def listMethods : List String := [
  "append", "clear", "copy", "count", "extend", "index", "insert", "pop", "remove", "reverse",
  "sort"]

def tupleMethods : List String := ["count", "index"]

def dictMethods : List String := [
  "clear", "copy", "fromkeys", "get", "items", "keys", "pop", "popitem", "setdefault", "update",
  "values"]

def intMethods : List String := [
  "as_integer_ratio", "bit_count", "bit_length", "conjugate", "from_bytes", "to_bytes"]

def floatMethods : List String := [
  "as_integer_ratio", "conjugate", "fromhex", "hex", "is_integer"]

/-- The methods of a built-in type and the type that defines them: truth values have those of the
whole numbers. -/
def methodsOf (typeName : String) : String × List String :=
  match typeName with
  | "str" => ("str", textMethods)
  | "list" => ("list", listMethods)
  | "tuple" => ("tuple", tupleMethods)
  | "dict" => ("dict", dictMethods)
  | "int" | "bool" => ("int", intMethods)
  | "float" => ("float", floatMethods)
  | t => (t, [])

/-- Whether a method belongs to its type and not to the values of the type. -/
def isOfType (name : String) : Bool :=
  ["maketrans", "fromkeys", "from_bytes", "fromhex"].contains name

end ScopedCss.Value

import ScopedCss.Value.Basic

/-! The names that every expression knows without an import. -/
namespace ScopedCss.Builtin

def functions : List String := [
  "abs", "aiter", "all", "anext", "any", "ascii", "bin", "breakpoint", "callable", "chr", "compile",
  "delattr", "dir", "divmod", "eval", "exec", "format", "getattr", "globals", "hasattr", "hash",
  "hex", "id", "input", "isinstance", "issubclass", "iter", "len", "locals", "max", "min", "next",
  "oct", "open", "ord", "pow", "print", "repr", "round", "setattr", "sorted", "sum", "vars"]

def classes : List String := [
  "bool", "bytearray", "bytes", "classmethod", "complex", "dict", "enumerate", "filter", "float",
  "frozenset", "int", "list", "map", "memoryview", "object", "property", "range", "reversed", "set",
  "slice", "staticmethod", "super", "tuple", "type", "zip"]

/-- The other built-in names. What they stand for is not described. -/
def others : List String := [
  "ArithmeticError", "AssertionError", "AttributeError", "BaseException", "BaseExceptionGroup",
  "BlockingIOError", "BrokenPipeError", "BufferError", "BytesWarning", "ChildProcessError",
  "ConnectionAbortedError", "ConnectionError", "ConnectionRefusedError", "ConnectionResetError",
  "DeprecationWarning", "EOFError", "Ellipsis", "EncodingWarning", "EnvironmentError", "Exception",
  "ExceptionGroup", "FileExistsError", "FileNotFoundError", "FloatingPointError", "FutureWarning",
  "GeneratorExit", "IOError", "ImportError", "ImportWarning", "IndentationError", "IndexError",
  "InterruptedError", "IsADirectoryError", "KeyError", "KeyboardInterrupt", "LookupError",
  "MemoryError", "ModuleNotFoundError", "NameError", "NotADirectoryError", "NotImplemented",
  "NotImplementedError", "OSError", "OverflowError", "PendingDeprecationWarning",
  "PermissionError", "ProcessLookupError", "RecursionError", "ReferenceError", "ResourceWarning",
  "RuntimeError", "RuntimeWarning", "StopAsyncIteration", "StopIteration", "SyntaxError",
  "SyntaxWarning", "SystemError", "SystemExit", "TabError", "TimeoutError", "TypeError",
  "UnboundLocalError", "UnicodeDecodeError", "UnicodeEncodeError", "UnicodeError",
  "UnicodeTranslateError", "UnicodeWarning", "UserWarning", "ValueError", "Warning",
  "ZeroDivisionError", "__build_class__", "__builtins__", "__import__", "copyright", "credits",
  "exit", "help", "license", "quit"]

/-- What a built-in name stands for. -/
def find? (name : String) : Option Value :=
  if name = "str" then some (.classRef .text)
  else if name = "None" then some .none
  else if name = "True" then some (.bool true)
  else if name = "False" then some (.bool false)
  else if functions.contains name then some (.function (.builtin name))
  else if classes.contains name then some (.classRef (.builtin name))
  else none

end ScopedCss.Builtin

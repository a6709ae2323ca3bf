/-! Log lines: what was done, for whom it is meant and which part of the program says it. -/
namespace ScopedCss

inductive LogLevel where
  | debug
  | warning
deriving DecidableEq, Repr

def LogLevel.text : LogLevel → String
  | .debug => "DEBUG"
  | .warning => "WARNING"

structure LogLine where
  level : LogLevel
  logger : String
  message : String
deriving DecidableEq, Repr

def LogLine.text (l : LogLine) : String := l.level.text ++ " " ++ l.logger ++ ": " ++ l.message

end ScopedCss

import ScopedCss.Cli.Suggestion

/-!
Reading a command line. An option has a long name and perhaps a letter; its value follows it, or is
attached to it, behind an equals sign for the long name. Letters of flags can be joined.
-/
namespace ScopedCss.Cli

structure Flag where
  /-- The long name with its two hyphens. -/
  long : String
  letter : Option Char := none
  takesValue : Bool := false
deriving DecidableEq, Repr

/-- What is wrong with a command line. -/
inductive UsageFault where
  /-- An option that is not known, and those that are close to it. -/
  | noSuchOption (name : String) (close : List String)
  | needsValue (name : String)
  | takesNoValue (name : String)
  | missingCommand
  | noSuchCommand (name : String) (close : List String)
  | missingSource
  | absentFile (parameter name : String)
  | isFolder (parameter name : String)
  | extraArguments (args : List String)
deriving DecidableEq, Repr

/-- Whether the form of use is shown with the fault. -/
def UsageFault.showsUsage : UsageFault → Bool
  | .needsValue _ | .takesNoValue _ => false
  | _ => true

def UsageFault.message : UsageFault → String
  | .noSuchOption n close => "No such option " ++ Text.quote n ++ "." ++ suggestion close
  | .needsValue n => "Option " ++ Text.quote n ++ " requires an argument."
  | .takesNoValue n => "Option " ++ Text.quote n ++ " does not take a value."
  | .missingCommand => "Missing command."
  | .noSuchCommand n close => "No such command " ++ Text.quote n ++ "." ++ suggestion close
  | .missingSource => "Missing argument 'SOURCE'."
  | .absentFile p n => "Invalid value for " ++ p ++ ": File " ++ Text.quote n ++ " does not exist."
  | .isFolder p n => "Invalid value for " ++ p ++ ": File " ++ Text.quote n ++ " is a directory."
  | .extraArguments args =>
    "Got unexpected extra argument" ++ (if args.length = 1 then "" else "s") ++ " (" ++
      " ".intercalate args ++ ")"

/-- A flag as it was given, with its value or nothing. -/
structure Given where
  flag : Flag
  value : String
deriving DecidableEq, Repr

/-- A command line that was read: the flags in order and the other words. -/
structure CommandLine where
  given : List Given := []
  words : List String := []
deriving DecidableEq, Repr

namespace CommandLine

def add (given : List Given) (c : CommandLine) : CommandLine :=
  { c with given := given ++ c.given }

/-- The value that was given last. -/
def last? (c : CommandLine) (long : String) : Option String :=
  ((c.given.filter (·.flag.long == long)).getLast?).map (·.value)

def all (c : CommandLine) (long : String) : List String :=
  (c.given.filter (·.flag.long == long)).map (·.value)

def has (c : CommandLine) (long : String) : Bool := c.given.any (·.flag.long == long)

end CommandLine

/-- What one word of a command line gives, and the flag that waits for its value, with the name it
was called by. -/
structure WordFlags where
  given : List Given
  waiting : Option (Flag × String)

/-- A long name, with a value if an equals sign follows it. -/
def longFlag (flags : List Flag) (name : String) (value : Option String) :
    Option (Except UsageFault WordFlags) :=
  (flags.find? (·.long == name)).map fun f =>
    match f.takesValue, value with
    | true, some v => .ok ⟨[⟨f, v⟩], none⟩
    | true, none => .ok ⟨[], some (f, name)⟩
    | false, some _ => .error (.takesNoValue name)
    | false, none => .ok ⟨[⟨f, ""⟩], none⟩

/-- Letters behind one hyphen. What follows the letter of an option with a value is the value. -/
def letterFlags (flags : List Flag) : List Char → Except UsageFault WordFlags
  | [] => .ok ⟨[], none⟩
  | c :: cs =>
    match flags.find? (·.letter == some c) with
    | none => .error (.noSuchOption (String.ofList ['-', c]) [])
    | some f =>
      if f.takesValue then
        if cs.isEmpty then .ok ⟨[], some (f, String.ofList ['-', c])⟩
        else .ok ⟨[⟨f, String.ofList cs⟩], none⟩
      else (letterFlags flags cs).map fun w => { w with given := ⟨f, ""⟩ :: w.given }

/-- The flags of a word that starts with a hyphen. -/
def wordFlags (flags : List Flag) (word : String) : Except UsageFault WordFlags :=
  let cs := word.toList
  let name := String.ofList (cs.takeWhile (· != '='))
  let value := match cs.dropWhile (· != '=') with
    | [] => none
    | _ :: v => some (String.ofList v)
  match longFlag flags name value with
  | some r => r
  | none =>
    if ['-', '-'].isPrefixOf cs then
      .error (.noSuchOption name (closeNames name (flags.map (·.long))))
    else letterFlags flags (cs.drop 1)

/-- Whether a word is read for flags: it is more than a hyphen and starts with one. -/
def isFlagWord (word : String) : Bool :=
  word.toList.head? == some '-' && 1 < word.length

/-- Reads a command line. Two hyphens end the flags; so does the first other word, unless words and
flags may be mixed. -/
def readLine (flags : List Flag) (mixed : Bool) : List String → Except UsageFault CommandLine
  | [] => .ok {}
  | word :: rest =>
    if word = "--" then .ok { words := rest }
    else if isFlagWord word then
      match wordFlags flags word, rest with
      | .error e, _ => .error e
      | .ok ⟨given, none⟩, rest => (readLine flags mixed rest).map (CommandLine.add given)
      | .ok ⟨given, some (f, _)⟩, value :: rest =>
        (readLine flags mixed rest).map (CommandLine.add (given ++ [⟨f, value⟩]))
      | .ok ⟨_, some (_, name)⟩, [] => .error (.needsValue name)
    else if mixed then (readLine flags mixed rest).map fun c => { c with words := word :: c.words }
    else .ok { words := word :: rest }

end ScopedCss.Cli

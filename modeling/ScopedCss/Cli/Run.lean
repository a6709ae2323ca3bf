import ScopedCss.Cli.Arguments
import ScopedCss.Cli.Command

/-!
The command line as a whole: options for all commands, a command, and its own options and source.
What is wrong with the command line is told before any command runs.
-/
namespace ScopedCss.Cli

inductive CommandName where
  | build
  | check
  | inspect
  | render
deriving DecidableEq, Repr

namespace CommandName

def all : List CommandName := [.build, .check, .inspect, .render]

def text : CommandName → String
  | .build => "build"
  | .check => "check"
  | .inspect => "inspect"
  | .render => "render"

def ofText? (s : String) : Option CommandName := all.find? (·.text == s)

end CommandName

/-! ### Flags -/

def helpFlag : Flag := { long := "--help" }

def versionFlag : Flag := { long := "--version" }

def verboseFlag : Flag := { long := "--verbose", letter := some 'v' }

def generalFlags : List Flag := [versionFlag, verboseFlag, helpFlag]

def outputFlag : Flag := { long := "--output", letter := some 'o', takesValue := true }

def importFlag : Flag := { long := "--import", takesValue := true }

def prefixFlag : Flag := { long := "--prefix", takesValue := true }

def prettyFlag : Flag := { long := "--pretty" }

def themeFlag : Flag := { long := "--theme", takesValue := true }

def htmlFlag : Flag := { long := "--html" }

def flagsOf : CommandName → List Flag
  | .build => [outputFlag, importFlag, prefixFlag, prettyFlag, helpFlag]
  | .check | .inspect => [helpFlag]
  | .render => [themeFlag, htmlFlag, helpFlag]

/-! ### Usage -/

/-- The form of use of all commands, or of one. -/
def usage : Option CommandName → String
  | none => "Usage: stylekit [OPTIONS] COMMAND [ARGS]...\n"
  | some c => "Usage: stylekit " ++ c.text ++ " [OPTIONS] SOURCE\n"

def helpHint : Option CommandName → String
  | none => "Try 'stylekit --help' for help.\n"
  | some c => "Try 'stylekit " ++ c.text ++ " --help' for help.\n"

def usageError (c : Option CommandName) (fault : UsageFault) : Response where
  exitCode := 2
  stderr := (if fault.showsUsage then usage c ++ helpHint c ++ "\n" else "") ++
    "Error: " ++ fault.message ++ "\n"

def versionText : String := "stylekit, version 0.1.0\n"

/-! ### Files on the command line -/

/-- Why a command does not run: its line is wrong, or the program fails over it. -/
inductive Refusal where
  | usage (fault : UsageFault)
  | failure (f : Failure)

/-- A file that has to be there. -/
def requireFile (look : String → FileEntry) (parameter name : String) : Except Refusal Unit :=
  match look name with
  | .absent => .error (.usage (.absentFile parameter name))
  | .folder => .error (.usage (.isFolder parameter name))
  | .unnameable => .error (.failure (.file .nullCharacter))
  | .text _ | .undecodable => .ok ()

/-- A file that may be made. -/
def allowFile (look : String → FileEntry) (parameter name : String) : Except Refusal Unit :=
  match look name with
  | .folder => .error (.usage (.isFolder parameter name))
  | .unnameable => .error (.failure (.file .nullCharacter))
  | .absent | .text _ | .undecodable => .ok ()

/-- The long names that were given, each once, in order. -/
def givenNames (line : CommandLine) : List String := (line.given.map (·.flag.long)).eraseDups

/-- Checks the last value of a flag. -/
def checkFlag (look : String → FileEntry) (line : CommandLine) (long : String) :
    Except Refusal Unit :=
  match line.last? long with
  | none => .ok ()
  | some name =>
    if long = outputFlag.long then allowFile look "'-o' / '--output'" name
    else if long = themeFlag.long then requireFile look "'--theme'" name
    else .ok ()

/-- The source of a command: the flags are checked in the order in which they were given, then the
source, and only one is taken. -/
def sourceOf (look : String → FileEntry) (line : CommandLine) : Except Refusal String := do
  (givenNames line).forM (checkFlag look line)
  match line.words with
  | [] => throw (.usage .missingSource)
  | source :: others =>
    requireFile look "'SOURCE'" source
    if !others.isEmpty then throw (.usage (.extraArguments others))
    return source

/-! ### Running -/

def buildOptions (line : CommandLine) : BuildOptions where
  output := line.last? outputFlag.long
  imports := line.all importFlag.long
  settings := {
    classPrefix := (line.last? prefixFlag.long).getD ({} : Settings).classPrefix
    pretty := line.has prettyFlag.long }

def runCommand (language : Language) (look : String → FileEntry) (verbose : Bool) (c : CommandName)
    (args : List String) : Response :=
  match readLine (flagsOf c) true args with
  | .error fault => usageError (some c) fault
  | .ok line =>
    if line.has helpFlag.long then { stdout := usage (some c) }
    else match sourceOf look line with
      | .error (.usage fault) => usageError (some c) fault
      | .error (.failure f) => .fail f
      | .ok source =>
        let entry := look source
        match c with
        | .build => build verbose (buildOptions line) source entry
        | .check => check source entry
        | .inspect => inspect verbose entry
        | .render =>
          let theme := (line.last? themeFlag.long).map look
          render language verbose (line.has htmlFlag.long) theme entry

/-- The answer to the flags that end the program at once, if one was given. -/
def immediate? (line : CommandLine) : Option Response :=
  line.given.findSome? fun g =>
    if g.flag = versionFlag then some { stdout := versionText }
    else if g.flag = helpFlag then some { stdout := usage none }
    else none

def noSuchCommand (name : String) : UsageFault :=
  .noSuchCommand name (closeNames name (CommandName.all.map CommandName.text))

/-- A word that names no command is read for flags once more before it is refused. -/
def unknownCommand (words : List String) (name : String) : Response :=
  match readLine generalFlags false words with
  | .error fault => usageError none fault
  | .ok line => (immediate? line).getD (usageError none (noSuchCommand name))

/-- The response to a command line, where `look` says what file names stand for and values are texts
of a language. -/
def respond (language : Language) (look : String → FileEntry) (args : List String) : Response :=
  if args.isEmpty then { stdout := usage none }
  else match readLine generalFlags false args with
    | .error fault => usageError none fault
    | .ok line =>
      match immediate? line, line.words with
      | some r, _ => r
      | none, [] => usageError none .missingCommand
      | none, name :: rest =>
        match CommandName.ofText? name with
        | none => unknownCommand (name :: rest) name
        | some c => runCommand language look (line.has verboseFlag.long) c rest

/-- The file names that the response to a command line depends on. -/
def mentioned (args : List String) : List String :=
  match readLine generalFlags false args with
  | .error _ => []
  | .ok general =>
    match general.words with
    | [] => []
    | name :: rest =>
      match CommandName.ofText? name with
      | none => []
      | some c =>
        match readLine (flagsOf c) true rest with
        | .error _ => []
        | .ok line => line.words ++ line.all outputFlag.long ++ line.all themeFlag.long

/-- The response in a folder and the files after it. -/
def respondIn (fs : Files) (args : List String) : Response × Files :=
  let r := respond .basic (entryOf fs) args
  match r.save with
  | none => (r, fs)
  | some save =>
    match fs.write save.name save.text with
    | .ok fs => (r.settle (.ok ()), fs)
    | .error fault => (r.settle (.error fault), fs)

end ScopedCss.Cli

import ScopedCss.Failure
import ScopedCss.Files
import ScopedCss.Text.Line

/-!
What a command answers: its exit code, what it prints, a file to be written, and the failure that
ended it if it ended by one.
-/
namespace ScopedCss.Cli

/-- What a file name stands for. -/
inductive FileEntry where
  | absent
  | folder
  | text (s : String)
  /-- A file whose bytes are no text. -/
  | undecodable
  /-- No file can have this name. -/
  | unnameable
deriving DecidableEq, Repr

/-- A file to be written, and what is said when it is done. -/
structure Save where
  name : String
  text : String
  confirmation : String
deriving DecidableEq, Repr

structure Response where
  exitCode : Nat := 0
  stdout : String := ""
  stderr : String := ""
  save : Option Save := none
  failure : Option Failure := none

namespace Response

/-- A refusal: a line on the error output and exit code 1. -/
def refuse (message : String) : Response where
  exitCode := 1
  stderr := message ++ "\n"

def fail (f : Failure) : Response where
  exitCode := 1
  failure := some f

/-- Puts text before what is printed on the error output. -/
def after (stderr : String) (r : Response) : Response := { r with stderr := stderr ++ r.stderr }

/-- The response once the file, if there is one, has been written or could not be. -/
def settle (r : Response) (written : Except FileFault Unit) : Response :=
  match r.save, written with
  | none, _ => r
  | some save, .ok () => { r with stderr := r.stderr ++ save.confirmation, save := none }
  | some _, .error fault => { r with exitCode := 1, save := none, failure := some (.file fault) }

end Response

/-- What a name stands for among files. The empty name is nowhere, and a name that asks for a
folder does not stand for a file. -/
def entryOf (fs : Files) (name : String) : FileEntry :=
  if name = "" then .absent
  else match fs.find name with
    | .error .nullCharacter => .unnameable
    | .error _ => .absent
    | .ok .folder => .folder
    | .ok (.file _ text) =>
      if Files.asksFolder name then .absent
      else match text with
        | some text => .text text
        | none => .undecodable

/-- The text of an entry with its line ends read as line feeds. -/
def readFile : FileEntry → Except Failure String
  | .text s => .ok (String.ofList (Text.unifyNewlines s.toList))
  | .undecodable => .error (.file .undecodable)
  | .folder => .error (.file .isFolder)
  | .absent => .error (.file .notFound)
  | .unnameable => .error (.file .nullCharacter)

end ScopedCss.Cli

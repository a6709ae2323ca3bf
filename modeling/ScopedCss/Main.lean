import ScopedCss.Cli.Run

/-! The program: it looks at the files that the command line names, prints the response and writes
the file that the response asks for. -/
namespace ScopedCss.Main

open Cli

def faultOf : IO.Error → FileFault
  | .noFileOrDirectory _ _ _ => .notFound
  | .inappropriateType _ _ _ => .isFolder
  | _ => .notFolder

/-- What a file name stands for. -/
def lookAt (name : String) : IO FileEntry := do
  try
    let bytes ← IO.FS.readBinFile name
    match String.fromUTF8? bytes with
    | some text => return .text text
    | none => return .undecodable
  catch e =>
    match faultOf e with
    | .isFolder => return .folder
    | _ => return .absent

def save (s : Save) : IO (Except FileFault Unit) := do
  try
    IO.FS.writeFile s.name s.text
    return .ok ()
  catch e => return .error (faultOf e)

/-- The failure that ended a command, told on the error output. -/
def failureText (f : Failure) : String :=
  f.kind ++ (if f.message = "" then "" else ": " ++ f.message) ++ "\n"

def run (args : List String) : IO UInt32 := do
  let entries ← (mentioned args).mapM fun name => return (name, ← lookAt name)
  let look (name : String) : FileEntry := (entries.lookup name).getD .absent
  let r := respond .basic look args
  let r ← match r.save with
    | none => pure r
    | some s => do pure (r.settle (← save s))
  IO.print r.stdout
  IO.eprint r.stderr
  match r.failure with
  | none => pure ()
  | some f => IO.eprint (failureText f)
  return r.exitCode.toUInt32

end ScopedCss.Main

def main (args : List String) : IO UInt32 := ScopedCss.Main.run args

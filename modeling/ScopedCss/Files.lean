import ScopedCss.Failure

/-!
A folder of files. Names are paths of parts joined by slashes. A file that is replaced is another
file under the same name, and what is still being written to the old one is lost with it; so every
file has a number of its own.
-/
namespace ScopedCss

abbrev Path := List String

inductive Node where
  | folder
  /-- A file by its number. Bytes that are no text are not kept. -/
  | file (number : Nat) (text : Option String)
deriving DecidableEq, Repr

structure Files where
  nodes : List (Path × Node) := []
  /-- How many files have been made. -/
  made : Nat := 0
deriving DecidableEq, Repr

namespace Files

/-- The parts of a name; empty ones and single dots mean nothing. -/
def parts (name : String) : Path := (name.splitOn "/").filter fun p => p != "" && p != "."

/-- Whether a name can only stand for a folder. -/
def asksFolder (name : String) : Bool :=
  match (name.splitOn "/").getLast? with
  | some p => p == "" || p == "."
  | none => true

/-- How many bytes a part of a name may have. -/
def maxPart : Nat := 255

/-- How many bytes a name may have. -/
def maxName : Nat := 4095

/-- The node at a path. The empty path is the folder itself. -/
def node? (fs : Files) (path : Path) : Option Node :=
  if path.isEmpty then some .folder else fs.nodes.lookup path

/-- The node at a path or, without a path, some folder around this one. -/
def nodeAt (fs : Files) : Option Path → Option Node
  | some path => fs.node? path
  | none => some .folder

/-- One part from a folder on; two dots lead back. Nothing is known of what else is in the folders
around this one. -/
def descend (here : Option Path) (part : String) : Except FileFault (Option Path) :=
  if part.utf8ByteSize > maxPart then .error .nameTooLong
  else match here, part with
    | none, ".." => .ok none
    | some [], ".." => .ok none
    | some path, ".." => .ok (some path.dropLast)
    | some path, part => .ok (some (path ++ [part]))
    | none, _ => .error .notFound

/-- Follows parts from a folder on; all but the last one have to be folders. -/
def follow (fs : Files) (here : Option Path) : List String → Except FileFault (Option Path)
  | [] => .ok here
  | p :: ps => do
    let next ← descend here p
    if ps.isEmpty then return next
    else match fs.nodeAt next with
      | some .folder => follow fs next ps
      | some (.file _ _) => throw .notFolder
      | none => throw .notFound

/-- The path of a name, which starts in this folder unless it starts with a slash. -/
def resolve (fs : Files) (name : String) : Except FileFault (Option Path) :=
  if name.toList.contains (Char.ofNat 0) then .error .nullCharacter
  else if name.utf8ByteSize > maxName then .error .nameTooLong
  else fs.follow (if name.toList.head? = some '/' then none else some []) (parts name)

/-- The node of a name, or why there is none. -/
def find (fs : Files) (name : String) : Except FileFault Node := do
  match fs.nodeAt (← fs.resolve name) with
  | some node => return node
  | none => throw .notFound

/-- The text of a file as it is. -/
def read (fs : Files) (name : String) : Except FileFault String := do
  match ← fs.find name with
  | .folder => throw .isFolder
  | .file _ (some text) => return text
  | .file _ none => throw .undecodable

def put (fs : Files) (path : Path) (node : Node) : Files :=
  { fs with nodes := (path, node) :: fs.nodes.filter (·.1 != path) }

/-- The path for a file of a name, with the file that is there. -/
def filePath (fs : Files) (name : String) : Except FileFault (Path × Option Nat) := do
  match ← fs.resolve name with
  | none => throw .isFolder
  | some path =>
    match fs.node? path with
    | some .folder => throw .isFolder
    | some (.file number _) => return (path, some number)
    | none => return (path, none)

/-- A new file at a path. -/
def make (fs : Files) (path : Path) (text : String) : Files :=
  { fs.put path (.file fs.made (some text)) with made := fs.made + 1 }

/-- How many bytes longer the name of a file is while it is made to replace another. -/
def draftMarks : Nat := 14

/-- Makes a new file under a name, in place of the one that is there. It is written under a longer
name first. -/
def replace (fs : Files) (name text : String) : Except FileFault Files := do
  let (path, _) ← fs.filePath name
  if ((path.getLast?).getD "").utf8ByteSize + draftMarks > maxPart then throw .nameTooLong
  return fs.make path text

/-- Writes a file, in place if it is there. -/
def write (fs : Files) (name text : String) : Except FileFault Files := do
  match ← fs.filePath name with
  | (path, some number) => return fs.put path (.file number (some text))
  | (path, none) => return fs.make path text

/-- Opens a file for more text: the files with this one made if it was not there, and its
number. -/
def openEnd (fs : Files) (name : String) : Except FileFault (Files × Nat) := do
  match ← fs.filePath name with
  | (_, some number) => return (fs, number)
  | (path, none) => return (fs.make path "", fs.made)

/-- Adds text to the file of a number, if it is still there. -/
def append (fs : Files) (number : Nat) (text : String) : Files :=
  { fs with nodes := fs.nodes.map fun
      | (path, .file n (some old)) =>
        (path, .file n (some (if n = number then old ++ text else old)))
      | entry => entry }

def makeFolder (fs : Files) (name : String) : Except FileFault Files := do
  match ← fs.resolve name with
  | none => throw .alreadyThere
  | some path =>
    match fs.node? path with
    | some _ => throw .alreadyThere
    | none => return fs.put path .folder

/-- The names in the folder itself with the texts of the files, in order of the names. -/
def listing (fs : Files) : List (String × Option String) :=
  let own := fs.nodes.filterMap fun
    | ([name], .folder) => some (name, none)
    | ([name], .file _ text) => some (name, text)
    | _ => none
  own.mergeSort fun a b => decide (a.1 ≤ b.1)

end Files
end ScopedCss

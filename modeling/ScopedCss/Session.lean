import ScopedCss.Files
import ScopedCss.Provider.Basic
import ScopedCss.Text.Line

/-!
The state of a session: the backends and providers that were made, the classes and generators that
are known by name, the subscriptions, and what was logged and heard. Steps act on it and may fail;
what they did before a failure stays.
-/
namespace ScopedCss

/-- Where a stylesheet is kept. -/
inductive Backend where
  /-- In memory, with the number of times it was replaced as a whole. -/
  | memory (css : Text) (replaceCount : Nat)
  | file (name : String)
deriving DecidableEq, Repr

/-- A class that can be mounted. -/
inductive Mountable where
  | base
  | compiled (number : Nat) (c : StyleClass)

/-- The generator of a class. -/
def Mountable.generator : Mountable → Generator
  | .base => ⟨0, .base, "Classes.generate", .base⟩
  | .compiled n c => ⟨n, .compiled n, c.definition.name ++ ".generate", .compiled c⟩

structure Session where
  /-- What the texts of values do. -/
  language : Language := .basic
  files : Files := {}
  backends : List Backend := []
  providers : List Provider := []
  /-- The numbers of the providers that have a name. -/
  providerIds : List (String × Nat) := []
  classes : List (String × Mountable) := [("Classes", .base)]
  generators : List (String × Generator) := []
  /-- The number of the next generator. -/
  nextGenerator : Nat := 1
  /-- How often the generators were called. -/
  calls : List (Nat × Nat) := []
  bus : Bus := {}
  /-- What the listeners do. -/
  listeners : List (String × List Reaction) := []
  /-- The subscriptions that can be taken back by name. -/
  handles : List (String × Subscription) := []
  logs : List LogLine := []
  /-- The events that listeners were called with, oldest first. -/
  heard : List (String × Event) := []

/-- Something done in a session. -/
abbrev Act := ExceptT Failure (StateM Session)

namespace Session

/-! ### Reading -/

def backend (s : Session) (i : Nat) : Backend := s.backends.getD i (.memory "" 0)

def provider (s : Session) (i : Nat) : Provider := s.providers.getD i (.fresh 0 .empty false)

def callCount (s : Session) (generator : Nat) : Nat := (s.calls.lookup generator).getD 0

/-- What a name stands for, or the failure that it stands for nothing. -/
def named (entries : List (String × α)) (name : String) : Except Failure α :=
  match entries.lookup name with
  | some a => .ok a
  | none => .error (.unknown name)

/-- The text of a stylesheet. Line ends of files are read as line feeds. -/
def css (s : Session) : Backend → Except FileFault Text
  | .memory css _ => .ok css
  | .file name => (s.files.read name).map fun t => .ofString (String.ofList (Text.unifyNewlines t.toList))

/-! ### Changing -/

def modifyProvider (s : Session) (i : Nat) (f : Provider → Provider) : Session :=
  { s with providers := s.providers.modify i f }

def modifyBackend (s : Session) (i : Nat) (f : Backend → Backend) : Session :=
  { s with backends := s.backends.modify i f }

def countCall (s : Session) (generator : Nat) : Session :=
  { s with calls := (generator, s.callCount generator + 1) :: s.calls }

def addLogs (s : Session) (lines : List LogLine) : Session := { s with logs := s.logs ++ lines }

def hear (s : Session) (listener : String) (e : Event) : Session :=
  { s with heard := s.heard ++ [(listener, e)] }

/-- A session that has logged and heard nothing yet. -/
def quiet (s : Session) : Session := { s with logs := [], heard := [] }

@[simp] theorem provider_modifyProvider_self {s : Session} {i : Nat} (f : Provider → Provider)
    (h : i < s.providers.length) : (s.modifyProvider i f).provider i = f (s.provider i) := by
  simp [provider, modifyProvider, h]

@[simp] theorem provider_modifyProvider_of_ne {s : Session} {i j : Nat} (f : Provider → Provider)
    (h : i ≠ j) : (s.modifyProvider i f).provider j = s.provider j := by
  simp [provider, modifyProvider, h]

@[simp] theorem backend_modifyBackend_self {s : Session} {i : Nat} (f : Backend → Backend)
    (h : i < s.backends.length) : (s.modifyBackend i f).backend i = f (s.backend i) := by
  simp [backend, modifyBackend, h]

@[simp] theorem backend_modifyBackend_of_ne {s : Session} {i j : Nat} (f : Backend → Backend)
    (h : i ≠ j) : (s.modifyBackend i f).backend j = s.backend j := by
  simp [backend, modifyBackend, h]

end Session

namespace Act

def ofExcept : Except Failure α → Act α
  | .ok a => pure a
  | .error e => throw e

def ofFiles (r : Except FileFault α) : Act α := ofExcept (r.mapError .file)

end Act
end ScopedCss

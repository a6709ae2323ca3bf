import ScopedCss.Script
import ScopedCss.StyleClass

/-!
Providers. A provider mounts generators on one stylesheet: each gets a window of slots, one after
the other, and keeps it for good. A generator that is mounted is found again by its identity.
-/
namespace ScopedCss

/-- By what a provider tells generators apart. -/
inductive Identity where
  | base
  /-- The classes of every compilation are new ones. -/
  | compiled (number : Nat)
  | key (k : Key)
deriving DecidableEq, Repr

inductive Generator.Body where
  /-- The base of all classes, which writes nothing. -/
  | base
  | compiled (c : StyleClass)
  | script (actions : List Action)

structure Generator where
  /-- The number under which its calls are counted. -/
  number : Nat
  identity : Identity
  name : String
  body : Generator.Body

/-- A mounted generator and the slots from `start` up to `stop` that it owns. -/
structure Registration where
  generator : Generator
  start : Int
  stop : Int

structure Provider where
  /-- The number of the backend that keeps the stylesheet. -/
  backend : Nat
  theme : Theme
  /-- Whether what happens is told on the bus. -/
  onBus : Bool
  /-- The first slot that no generator owns. -/
  counter : Int := 0
  /-- The mounted generators, oldest first. -/
  registrations : List Registration := []
  /-- Where in the registrations a generator is. -/
  index : List (Identity × Nat) := []
  /-- Whether generators are running. -/
  busy : Bool := false

namespace Provider

/-- A provider on which nothing is mounted. -/
def fresh (backend : Nat) (theme : Theme) (onBus : Bool) : Provider := { backend, theme, onBus }

def registered? (p : Provider) (g : Generator) : Option Registration :=
  (p.index.lookup g.identity).bind fun i => p.registrations[i]?

def register (p : Provider) (g : Generator) (start stop : Int) : Provider :=
  { p with
    index := (g.identity, p.registrations.length) :: p.index
    registrations := p.registrations ++ [⟨g, start, stop⟩] }

@[simp] theorem registered?_register (p : Provider) (g : Generator) (start stop : Int) :
    (p.register g start stop).registered? g = some ⟨g, start, stop⟩ := by
  simp [registered?, register]

end Provider
end ScopedCss

import ScopedCss.Config
import ScopedCss.Event
import ScopedCss.Value.Basic

/-!
What can be asked of a session, as data. Generators written by hand and listeners are scripts: lists
of actions, which may ask for further steps.
-/
namespace ScopedCss

/-- Where the stylesheet of a new provider is kept. -/
inductive Storage where
  | memory
  | file (name : String)
  /-- Where another provider keeps its own. -/
  | sharedWith (provider : String)
deriving DecidableEq, Repr

/-- By what generators written by hand are told apart. Numbers of one value are the same key. -/
inductive Key where
  | nothing
  | whole (n : Int)
  | fraction (bits : UInt64)
  | text (t : Text)
  /-- Other data, as it is shown. -/
  | data (shown : String)
deriving DecidableEq, Repr

namespace Key

def ofFloat (f : Float) : Key :=
  match Binary64.ofFloat f with
  | .finite negative m e =>
    let (num, den) := Binary64.ratio negative m e
    if num % den = 0 then .whole (num / den) else .fraction f.toBits
  | _ => .fraction f.toBits

def ofJson : Json → Key
  | .null => .nothing
  | .bool b => .whole (if b then 1 else 0)
  | .int n => .whole n
  | .float f => ofFloat f
  | .text t => .text t
  | j => .data j.display

end Key

mutual

/-- An action of a generator. -/
inductive Action where
  | write (text : Text)
  /-- Writes that many rules with numbered class names and takes a slot for each: a generator as a
  user would write it. The library has no such generator. -/
  | rules (label : String) (count : Int)
  | advance (slots : Int)
  /-- Takes as many slots as the generator has been called. -/
  | advanceByCalls
  /-- An action for the call of that number only. -/
  | onCall (number : Int) (action : Action)
  /-- An action whose failure is noted in the stylesheet. -/
  | attempt (action : Action)
  | react (reaction : Reaction)

/-- An action of a listener. -/
inductive Reaction where
  | raise (kind text : String)
  | perform (step : Step)

inductive Step where
  | newProvider (id : String) (storage : Storage) (theme : Theme) (onBus : Bool)
  /-- Compiles and loads a source; the classes are kept under their names behind a label. -/
  | compile (source : String) (globals : List (String × Value)) (settings : Settings)
      (label : String)
  | mount (provider className : String)
  | useStyle (provider className : String)
  /-- Whether mounting twice gives the same class names. -/
  | same (provider className : String)
  | newInstance (className : String) (start : Int)
  /-- Defines a generator. Generators with one key are the same to a provider. -/
  | define (id : String) (key : Key) (name : String) (actions : List Action)
  | mountGenerator (provider generator : String)
  | calls (generator : String)
  | updateTheme (provider : String) (theme : Theme)
  | render (provider : String)
  | html (provider : String) (attributes : List (String × Value))
  | replaceAll (provider : String) (css : Text)
  /-- Runs a generator on the stylesheet of a provider without mounting it. -/
  | append (provider generator : String) (start : Int) (theme : Theme)
  | replay (provider : String) (index : Int) (theme : Theme)
  | makeFolder (name : String)
  | writeFile (name text : String)
  | files
  /-- Subscribes a listener, whose reactions are those of its first subscription. -/
  | subscribe (topic : Topic) (listener : String) (reactions : List Reaction) (handle : String)
  | unsubscribe (handle : String)
  | emit (event : Event)

end

/-- What a step gives. -/
inductive Outcome where
  | nothing
  | names (ns : List String)
  | fields (fs : List (String × Text))
  | truth (b : Bool)
  | text (t : Text)
  | number (n : Int)
  | counter (n : Int)
  | listing (entries : List (String × Option String))

end ScopedCss

import ScopedCss.Session

/-!
Running generators and listeners. A generator writes to a page in memory or its text is collected;
a page that was replaced in the meantime takes no more text. What a script asks for beyond that is
left to `again`, which performs a step.
-/
namespace ScopedCss

/-- Where the text of a generator goes. -/
inductive Sink where
  | collected
  /-- A backend as it was after that many replacements. -/
  | page (backend edition : Nat)
deriving DecidableEq, Repr

/-- A generator's run: its own counter, its collected text and the session. -/
structure Run where
  counter : Int
  collected : Text
  session : Session

abbrev Running := ExceptT Failure (StateM Run)

/-- What stays the same during a run. -/
structure Call where
  theme : Theme
  sink : Sink
  /-- Its place among the calls of its generator, from one on. -/
  number : Nat

namespace Backend

/-- More text for a page, unless it was replaced. -/
def write (edition : Nat) (text : Text) : Backend → Backend
  | .memory css n => .memory (if n = edition then css ++ text else css) n
  | .file name => .file name

end Backend

namespace Run

def write (r : Run) (sink : Sink) (text : Text) : Run :=
  match sink with
  | .collected => { r with collected := r.collected ++ text }
  | .page b edition => { r with session := r.session.modifyBackend b (Backend.write edition text) }

def advance (r : Run) (slots : Int) : Run := { r with counter := r.counter + slots }

end Run

/-- Does something in the session of a run. -/
def Running.ofAct (act : Act α) : Running α :=
  ExceptT.mk fun r =>
    let (result, s) := act.run.run r.session
    (result, { r with session := s })

def Reaction.run (again : Step → Act Outcome) : Reaction → Act Unit
  | .raise kind text => throw (.raised kind text)
  | .perform step => discard (again step)

/-- The color of a theme, if it has one, as scripts write it. The library reads no color itself. -/
def Theme.colorText (t : Theme) : Text :=
  match (Value.ofTheme t).attributeOf "color" >>= Value.toText with
  | .ok text => text
  | .error _ => "none"

def ruleText (label : String) (slot : Int) (color : Text) : Text :=
  Text.ofString ("." ++ label ++ "-" ++ toString slot ++ " \x7b color: ") ++ color ++
    Text.ofString "; \x7d\n"

def failureNote (e : Failure) : String := "/* " ++ e.kind ++ ": " ++ e.message ++ " */\n"

def Action.run (again : Step → Act Outcome) (c : Call) : Action → Running Unit
  | .write text => modify (·.write c.sink text)
  | .rules label count => do
    let start := (← get).counter
    let rules := (List.range count.toNat).map fun (i : Nat) =>
      ruleText label (start + i) c.theme.colorText
    modify (·.write c.sink (Text.join rules))
    modify (·.advance count)
  | .advance slots => modify (·.advance slots)
  | .advanceByCalls => modify (·.advance c.number)
  | .onCall n action => if n = c.number then action.run again c else pure ()
  | .attempt action =>
    tryCatch (action.run again c) fun e => modify (·.write c.sink (failureNote e))
  | .react reaction => Running.ofAct (reaction.run again)

def Generator.Body.run (again : Step → Act Outcome) (c : Call) : Generator.Body → Running Unit
  | .base => throw .notImplemented
  | .compiled cls => do
    let (result, deeds) := cls.call c.theme (← get).counter
    modify fun r => { r.write c.sink deeds.written with counter := deeds.counter }
    match result with
    | .error e => throw (.eval e)
    | .ok () => pure ()
  | .script actions => actions.forM (Action.run again c)

/-- What a call of a generator came to. -/
structure Called where
  result : Except Failure Unit
  counter : Int
  collected : Text

/-- Calls a generator from a slot on. A failure is part of the answer, since the counter and the
text of a failed call count too. -/
def Generator.call (again : Step → Act Outcome) (g : Generator) (theme : Theme) (sink : Sink)
    (counter : Int) : Act Called :=
  ExceptT.mk fun s =>
    let c : Call := ⟨theme, sink, s.callCount g.number + 1⟩
    let (result, r) := (g.body.run again c).run.run ⟨counter, "", s.countCall g.number⟩
    (.ok ⟨result, r.counter, r.collected⟩, r.session)

/-! ### Listeners -/

/-- Calls listeners one after the other, up to the first that fails. -/
def callListeners (again : Step → Act Outcome) (e : Event) : List String → Act Unit
  | [] => pure ()
  | l :: ls => do
    modify (·.hear l e)
    let reactions := ((← get).listeners.lookup l).getD []
    reactions.forM (Reaction.run again)
    callListeners again e ls

/-- Tells an event: first to those who listen to all events, then to those who listen to its
type. -/
def announce (again : Step → Act Outcome) (e : Event) : Act Unit := do
  callListeners again e ((← get).bus.listeners .all)
  callListeners again e ((← get).bus.listeners (.type e.typeName))

end ScopedCss

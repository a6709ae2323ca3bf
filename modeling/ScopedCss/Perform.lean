import ScopedCss.Compile
import ScopedCss.Html
import ScopedCss.Provider.Operation

/-!
Performing steps in a session. Scripts may ask for further steps, so steps are performed up to a
depth of nesting.
-/
namespace ScopedCss

namespace Step

/-! ### What names stand for -/

def providerNumber (id : String) : Act Nat := do
  Act.ofExcept (Session.named (← get).providerIds id)

def className (name : String) : Act Mountable := do
  Act.ofExcept (Session.named (← get).classes name)

def generatorNamed (id : String) : Act Generator := do
  Act.ofExcept (Session.named (← get).generators id)

/-! ### Making things -/

/-- The number of the backend for a new provider. A file starts out empty. -/
def newBackend : Storage → Act Nat
  | .memory => do
    let s ← get
    modify fun s => { s with backends := s.backends ++ [.memory "" 0] }
    return s.backends.length
  | .file name => do
    let s ← get
    let files ← Act.ofFiles (s.files.replace name "")
    modify fun s => { s with files := files, backends := s.backends ++ [.file name] }
    return s.backends.length
  | .sharedWith id => do
    let i ← providerNumber id
    return ((← get).provider i).backend

def addProvider (id : String) (storage : Storage) (theme : Theme) (onBus : Bool) : Act Unit := do
  let b ← newBackend storage
  modify fun s => { s with
    providers := s.providers ++ [.fresh b theme.orEmpty onBus]
    providerIds := (id, s.providers.length) :: s.providerIds }

/-- Keeps a class under a name, with a generator of its own. -/
def keepClass (label : String) (c : StyleClass) : Act Unit :=
  modify fun s => { s with
    classes := (label ++ c.definition.name, .compiled s.nextGenerator c) :: s.classes
    nextGenerator := s.nextGenerator + 1 }

def compileSource (source : String) (globals : Namespace) (settings : Settings) (label : String) :
    Act (List String) := do
  match Config.ofSettings? settings with
  | none => throw .emptyPrefix
  | some config =>
    let compilation := Compile.source config source
    modify (·.addLogs compilation.logs)
    let compiled ← Act.ofExcept (compilation.result.mapError .compile)
    let defs := compiled.map ClassDef.ofCompiled
    let language := (← get).language
    let classes ← Act.ofExcept ((StyleClass.loadWith language globals defs).mapError .load)
    classes.forM (keepClass label)
    return defs.map (·.name)

def defineGenerator (id : String) (key : Key) (name : String) (actions : List Action) : Act Unit :=
  modify fun s => { s with
    generators := (id, ⟨s.nextGenerator, .key key, name, .script actions⟩) :: s.generators
    nextGenerator := s.nextGenerator + 1 }

/-! ### Subscriptions -/

def addSubscription (sub : Subscription) (reactions : List Reaction) (handle : String) : Act Unit :=
  modify fun s => { s with
    bus := s.bus.subscribe sub
    listeners := s.listeners ++ [(sub.listener, reactions)]
    handles := (handle, sub) :: s.handles }

def removeSubscription (handle : String) : Act Unit := do
  let sub ← Act.ofExcept (Session.named (← get).handles handle)
  match (← get).bus.unsubscribe? sub with
  | none => throw .notSubscribed
  | some bus => modify fun s => { s with bus := bus }

/-! ### Steps -/

/-- The registration at a place; negative places count from the end. -/
def registrationAt (p : Provider) (index : Int) : Except EvalError Registration := do
  let i ← Value.position .tuple p.registrations.length (.int index)
  match p.registrations[i]? with
  | some r => return r
  | none => throw (.outOfRange .tuple)

def htmlOf (b : Backend) (attributes : List (String × Value)) : Except Failure Text :=
  match b with
  | .memory css _ => (Html.styleElement css attributes).mapError .eval
  | .file _ => .error (.eval (.noAttribute "FileBackend" "to_html"))

/-- Performs a step; steps that it asks for are left to `again`. -/
def run (again : Step → Act Outcome) : Step → Act Outcome
  | .newProvider id storage theme onBus => do
    addProvider id storage theme onBus
    return .nothing
  | .compile source globals settings label => do
    return .names (← compileSource source globals settings label)
  | .mount p c => do
    let i ← providerNumber p
    return .fields (← Provider.mountClass again i (← className c))
  | .useStyle p c => do
    let m ← className c
    return .fields (← Provider.mountClass again (← providerNumber p) m)
  | .same p c => do
    let i ← providerNumber p
    let m ← className c
    let first ← Provider.mountClass again i m
    return .truth (first == (← Provider.mountClass again i m))
  | .newInstance c start => do
    match ← className c with
    | .base => throw .notImplemented
    | .compiled _ cls => return .text (← Act.ofExcept ((cls.instanceText start).mapError .eval))
  | .define id key name actions => do
    defineGenerator id key name actions
    return .nothing
  | .mountGenerator p g => do
    let i ← providerNumber p
    return .number (← Provider.mount again i (← generatorNamed g))
  | .calls g => do
    return .number ((← get).callCount (← generatorNamed g).number)
  | .updateTheme p theme => do
    Provider.updateTheme again (← providerNumber p) theme
    return .nothing
  | .render p => do return .text (← Provider.render again (← providerNumber p))
  | .html p attributes => do
    let i ← providerNumber p
    let s ← get
    return .text (← Act.ofExcept (htmlOf (s.backend (s.provider i).backend) attributes))
  | .replaceAll p css => do
    let i ← providerNumber p
    Provider.replaceAll ((← get).provider i).backend css
    return .nothing
  | .append p g start theme => do
    let i ← providerNumber p
    let generator ← generatorNamed g
    let called ← Provider.append again ((← get).provider i).backend theme generator start
    Act.ofExcept called.result
    return .counter called.counter
  | .replay p index theme => do
    let i ← providerNumber p
    let r ← Act.ofExcept ((registrationAt ((← get).provider i) index).mapError .eval)
    return .text (← Provider.replay again theme r)
  | .makeFolder name => do
    let files ← Act.ofFiles ((← get).files.makeFolder name)
    modify fun s => { s with files := files }
    return .nothing
  | .writeFile name text => do
    let files ← Act.ofFiles ((← get).files.write name text)
    modify fun s => { s with files := files }
    return .nothing
  | .files => do return .listing (← get).files.listing
  | .subscribe topic listener reactions handle => do
    addSubscription ⟨topic, listener⟩ reactions handle
    return .nothing
  | .unsubscribe handle => do
    removeSubscription handle
    return .nothing
  | .emit event => do
    announce again event
    return .nothing

/-- Performs a step that nests others no deeper than that. -/
def perform (depth : Nat) (s : Step) : Act Outcome :=
  match depth with
  | 0 => throw .endless
  | depth + 1 => run (perform depth) s

end Step

/-- How deep steps may nest. -/
def Session.depth : Nat := 100

/-- Performs a step from outside and gives what came of it with the session after it, which has
logged and heard only what happened meanwhile. -/
def Session.perform (s : Session) (step : Step) : Except Failure Outcome × Session :=
  (step.perform Session.depth).run.run s.quiet

end ScopedCss

import ScopedCss.Provider.Run

/-!
What a provider does: it mounts generators, switches its theme and renders its stylesheet. While
generators run it refuses all that would run them again.
-/
namespace ScopedCss.Provider

def logger : String := "stylekit.runtime.provider"

def log (message : String) : Act Unit := modify (·.addLogs [⟨.debug, logger, message⟩])

/-- Tells an event of a provider, if it is on the bus. -/
def tell (again : Step → Act Outcome) (i : Nat) (e : Event) : Act Unit := do
  if ((← get).provider i).onBus then announce again e

def setBusy (i : Nat) (busy : Bool) : Act Unit :=
  modify (·.modifyProvider i fun p => { p with busy := busy })

/-- Does something during which the provider is busy. Afterwards it is not, whatever came of it. -/
def exclusive (i : Nat) (act : Act α) : Act α := do
  if ((← get).provider i).busy then throw .reentrant
  setBusy i true
  let a ← tryCatch act fun e => do
    setBusy i false
    throw e
  setBusy i false
  return a

/-! ### Stylesheets -/

/-- Puts a text in the place of a whole stylesheet. -/
def replaceAll (backend : Nat) (css : Text) : Act Unit := do
  match (← get).backend backend with
  | .memory _ n => modify (·.modifyBackend backend fun _ => .memory css (n + 1))
  | .file name =>
    let files ← Act.ofFiles ((← get).files.replace name (css.toString?.getD ""))
    if css.toString?.isNone then throw (.file .unencodable)
    modify fun s => { s with files := files }

/-- Runs a generator at the end of a stylesheet. The text for a file is written when the generator
is done, also when it fails; if it cannot be written that is a failure of the generator. -/
def append (again : Step → Act Outcome) (backend : Nat) (theme : Theme) (g : Generator)
    (counter : Int) : Act Called := do
  match (← get).backend backend with
  | .memory _ edition => g.call again theme (.page backend edition) counter
  | .file name =>
    let (files, number) ← Act.ofFiles ((← get).files.openEnd name)
    modify fun s => { s with files := files }
    let called ← g.call again theme .collected counter
    match called.collected.toString? with
    | none => return ⟨.error (.file .unencodable), counter, ""⟩
    | some text =>
      modify fun s => { s with files := s.files.append number text }
      return called

/-- The text of a mounted generator against a theme. It has to take its own slots again. -/
def replay (again : Step → Act Outcome) (theme : Theme) (r : Registration) : Act Text := do
  let called ← r.generator.call again theme .collected r.start
  Act.ofExcept called.result
  if called.counter ≠ r.stop then
    throw (.slotsChanged r.generator.name (called.counter - r.start) (r.stop - r.start))
  return called.collected

def replayAll (again : Step → Act Outcome) (theme : Theme) : List Registration → Act Text
  | [] => return ("" : String)
  | r :: rs => do
    let first ← replay again theme r
    return first ++ (← replayAll again theme rs)

/-! ### Operations -/

/-- Mounts a generator, unless it is mounted, and gives its first slot. -/
def mount (again : Step → Act Outcome) (i : Nat) (g : Generator) : Act Int := do
  match ((← get).provider i).registered? g with
  | some r =>
    log ("Style " ++ g.name ++ " already mounted at " ++ toString r.start)
    tell again i (.styleReused g.name r.start)
    return r.start
  | none =>
    let (start, stop) ← exclusive i do
      let p := (← get).provider i
      let called ← append again p.backend p.theme g p.counter
      modify (·.modifyProvider i fun p => { p with counter := called.counter })
      Act.ofExcept called.result
      return (p.counter, called.counter)
    modify (·.modifyProvider i fun p => p.register g start stop)
    log ("Mounted style " ++ g.name ++ " with slots [" ++ toString start ++ ", " ++
      toString stop ++ ")")
    tell again i (.styleMounted g.name start stop)
    return start

/-- Mounts a class and gives its class names. -/
def mountClass (again : Step → Act Outcome) (i : Nat) (m : Mountable) :
    Act (List (String × Text)) := do
  let start ← mount again i m.generator
  match m with
  | .base => throw .notImplemented
  | .compiled _ c => Act.ofExcept ((c.fields start).mapError .eval)

/-- The whole stylesheet against a theme. -/
def renderWith (again : Step → Act Outcome) (i : Nat) (theme : Theme) : Act Text :=
  exclusive i do replayAll again theme ((← get).provider i).registrations

def render (again : Step → Act Outcome) (i : Nat) : Act Text := do
  renderWith again i ((← get).provider i).theme

/-- Switches to a theme of the provider's type and renders everything anew, unless the theme's own
comparison says that nothing changes. -/
def updateTheme (again : Step → Act Outcome) (i : Nat) (theme : Theme) : Act Unit := do
  let current := ((← get).provider i).theme
  if !theme.isInstanceOf current then throw (.wrongTheme current.typeName theme.typeName)
  match current.quickSame? theme with
  | none => throw (.eval (.noAttribute current.typeName "fast_cmp"))
  | some true =>
    log "Theme unchanged; stylesheet kept"
    tell again i (.themeUnchanged theme)
  | some false =>
    let css ← renderWith again i theme
    replaceAll ((← get).provider i).backend css
    modify (·.modifyProvider i fun p => { p with theme := theme })
    let count := ((← get).provider i).registrations.length
    log ("Replaced stylesheet: " ++ toString count ++ " style(s), " ++ toString css.length ++
      " chars")
    tell again i (.stylesheetReplaced count css.length)

end ScopedCss.Provider

import ScopedCss.Cli.Response
import ScopedCss.Json.Reader
import ScopedCss.Perform

/-!
The commands. Each reads a source: one builds the module of its classes, one checks it, one shows
what it compiles to and one renders its stylesheet.
-/
namespace ScopedCss.Cli

/-- The log lines that are shown: all of them if that is asked for, else the warnings. -/
def shownLogs (verbose : Bool) (lines : List LogLine) : String :=
  let shown := lines.filter fun l => verbose || l.level == .warning
  String.join (shown.map fun l => l.text ++ "\n")

/-- The last part of a name. -/
def baseName (name : String) : String := ((Files.parts name).getLast?).getD ""

def joinLines (lines : List String) : String := String.join (lines.map (· ++ "\n"))

/-- Compiles a source and goes on with the blocks. What was logged comes before the rest. -/
def withCompiled (verbose : Bool) (config : Config) (text : String)
    (next : List CompiledStyle → Response) : Response :=
  let c := Compile.source config text
  Response.after (shownLogs verbose c.logs) <|
    match c.result with
    | .error (.unknownClassname n) => .fail (.compile (.unknownClassname n))
    | .error e => .refuse ("Compile error: " ++ e.message)
    | .ok styles => next styles

/-- Goes on with the text of a file. -/
def withText (entry : FileEntry) (next : String → Response) : Response :=
  match readFile entry with
  | .error f => .fail f
  | .ok text => next text

/-! ### Building -/

structure BuildOptions where
  output : Option String
  imports : List String
  settings : Settings

def build (verbose : Bool) (o : BuildOptions) (name : String) (source : FileEntry) : Response :=
  match Config.ofSettings? o.settings with
  | none => .fail .emptyPrefix
  | some config =>
    withText source fun text => withCompiled verbose config text fun styles =>
      let code := ClassDef.moduleText (styles.map ClassDef.ofCompiled) o.imports (baseName name)
      match o.output with
      | none => { stdout := code }
      | some out =>
        let names := ", ".intercalate (styles.map (·.signature.resultType))
        let done := "Wrote " ++ out ++ " (" ++ toString styles.length ++ " style block(s): " ++
          names ++ ")\n"
        { save := some ⟨if out = "" then "." else out, code, done⟩ }

/-! ### Checking -/

def summary (ds : List Diagnostic) : String :=
  let count (s : Severity) : String := toString (ds.countP (·.severity == s))
  "Summary: " ++ count .error ++ " error(s), " ++ count .warning ++ " warning(s), " ++
    count .info ++ " info"

def check (name : String) (source : FileEntry) : Response :=
  withText source fun text =>
    match parseStyles text with
    | .error e => .refuse ("Parse error: " ++ e.message)
    | .ok styles =>
      match validateModule [] styles with
      | [] =>
        { stdout := "OK: " ++ baseName name ++ " is valid (" ++ toString styles.length ++
            " style block(s))\n" }
      | ds =>
        { stdout := joinLines (ds.map Diagnostic.text ++ ["", summary ds])
          exitCode := if ds.any Diagnostic.isError then 1 else 0 }

/-! ### Inspecting -/

/-- A number in three columns or more. -/
def padded (n : Nat) : String :=
  let digits := toString n
  String.ofList (List.replicate (3 - digits.length) ' ') ++ digits

def inspectLines (c : CompiledStyle) : List String :=
  let sig := c.signature
  let values := c.template.expressions
  ["Style: " ++ sig.resultType ++ " (" ++ sig.themeVar ++ ": " ++ sig.themeType ++ ")",
   "Slots: " ++ toString c.slotCount,
   "Classnames:"] ++
  c.table.slots.map (fun p => "  " ++ padded p.2 ++ "  " ++ p.1) ++
  (if values.isEmpty then [] else "Values:" :: values.map ("  " ++ ·)) ++
  "Template:" :: (Text.lines c.template.text.toList).map fun l => "  " ++ String.ofList l

def inspect (verbose : Bool) (source : FileEntry) : Response :=
  withText source fun text => withCompiled verbose {} text fun styles =>
    { stdout := "\n".intercalate (styles.map fun c => joinLines (inspectLines c)) }

/-! ### Rendering -/

/-- The theme of a file, or the response if it has none. -/
def themeOf : Option FileEntry → Except Response Theme
  | none => .ok .empty
  | some entry =>
    match readFile entry with
    | .error f => .error (.fail f)
    | .ok text =>
      match Json.parse text with
      | .error fault => .error (.fail (.unreadableTheme fault))
      | .ok (.object members) => .ok (.mapping members)
      | .ok _ => .error (.refuse "Theme file must contain a JSON object")

/-- A session with one provider, which keeps its stylesheet in memory. -/
def renderSession (theme : Theme) : Session where
  backends := [.memory "" 0]
  providers := [.fresh 0 theme false]

/-- Mounts classes in order on the one provider. -/
def mountAll (classes : List StyleClass) : Act Unit :=
  classes.zipIdx.forM fun (c, i) =>
    discard (Provider.mountClass (Step.perform Session.depth) 0 (.compiled (i + 1) c))

/-- The failures that a stylesheet can have with a theme; others are not expected. -/
def isRenderError (f : Failure) : Bool :=
  ["AttributeError", "KeyError", "NameError", "TypeError"].contains f.kind

/-- Prints a text, if it can be written at all. -/
def printed (t : Text) : Response :=
  match t.toString? with
  | some s => { stdout := s }
  | none => .fail (.file .unencodable)

def rendered (html : Bool) (s : Session) : Response :=
  let css : Text := match s.backend 0 with
    | .memory css _ => css
    | .file _ => ""
  if html then
    match Html.styleElement css [] with
    | .ok element => printed (element ++ Text.ofString "\n")
    | .error e => .fail (.eval e)
  else printed css

def renderClasses (verbose html : Bool) (theme : Theme) (classes : List StyleClass) : Response :=
  let (result, s) := (mountAll classes).run.run (renderSession theme)
  Response.after (shownLogs verbose s.logs) <|
    match result with
    | .ok () => rendered html s
    | .error f => if isRenderError f then .refuse ("Render error: " ++ f.message) else .fail f

/-- Renders a source, the values of which are texts of a language. -/
def render (language : Language) (verbose html : Bool) (theme : Option FileEntry)
    (source : FileEntry) : Response :=
  match themeOf theme with
  | .error r => r
  | .ok theme =>
    withText source fun text => withCompiled verbose {} text fun styles =>
      match StyleClass.loadWith language [] (styles.map ClassDef.ofCompiled) with
      | .error e => .fail (.load e)
      | .ok classes => renderClasses verbose html theme classes

end ScopedCss.Cli

import ScopedCss.Language
import ScopedCss.ModuleReader

/-!
Classes that can be run. Loading reads the text of a module of class definitions and what the values
in it do; after that a class writes its stylesheet against a theme, from a first slot on, and hands
out its class names.
-/
namespace ScopedCss

inductive LoadError where
  /-- A value has a null character. -/
  | nullCharacter
  /-- The definitions are no module that can be read. -/
  | malformed
  /-- The built-in names have been taken away, and nothing can be imported. -/
  | noImport
  /-- What the module does when it is loaded fails. -/
  | eval (e : EvalError)
  /-- A field without a default follows one with a default. -/
  | fieldOrder (name : String)
  /-- A value closes the parentheses that it stands in, so that the module is not the one that was
  meant; nothing is said about what comes of it. -/
  | undescribed
deriving DecidableEq, Repr

/-- An argument whose value has been read. -/
inductive LinkedArgument where
  | slot (index : Nat)
  | value (c : Code)

namespace LinkedArgument

/-- Whether an argument is of a kind, which all slots are. -/
def holds (kind : Code → Bool) : LinkedArgument → Bool
  | .slot _ => true
  | .value c => kind c

end LinkedArgument

structure StyleClass where
  definition : ClassDef
  arguments : List LinkedArgument
  /-- The names of its module. -/
  globals : Namespace
  /-- What stands in the place of the method that writes the stylesheet, if the name of what marks
  such methods was given to something else. -/
  writer : Option Value := none
  /-- Likewise for the method that makes instances. -/
  maker : Option Value := none

namespace StyleClass

/-! ### Loading -/

/-- The first part of a dotted type may be a constant, the others are names. -/
def isTypeName (dotted : String) : Bool :=
  match dotted.splitOn "." with
  | [] => false
  | first :: others =>
    (!Text.isKeyword first || ["None", "True", "False"].contains first) &&
      others.all (!Text.isKeyword ·)

/-- Nothing is called like the constant that cannot be bound. -/
def isWellNamed (d : ClassDef) : Bool :=
  d.themeVar != "__debug__" && d.name != "__debug__" && isTypeName d.themeType

def linkArgument (language : Language) (owner : String) :
    Argument → Except LoadError LinkedArgument
  | .slot i => .ok (.slot i)
  | .value source =>
    match language.read? owner source with
    | some c => .ok (.value c)
    | none => .error .malformed

/-- A definition whose values have been read. -/
abbrev Linked := ClassDef × List LinkedArgument

def link (language : Language) (d : ClassDef) : Except LoadError Linked := do
  if !isWellNamed d then throw .malformed
  return (d, ← d.arguments.mapM (linkArgument language d.name))

/-- A field gets a default by having the name of an attribute that every class has. -/
def checkFields : List String → Except LoadError Unit
  | "mro" :: f :: _ => .error (.fieldOrder f)
  | _ :: fs => checkFields fs
  | [] => .ok ()

/-- The definitions that the text of a module is read as. -/
def readBack (defs : List ClassDef) : Except LoadError (List ClassDef) :=
  if defs.any fun d => d.arguments.any Argument.hasNull then .error .nullCharacter
  else if defs.all fun d => d.arguments.all Argument.isEnclosed then
    match ModuleReader.read? (ClassDef.moduleText defs [] "") with
    | some defs => .ok defs
    | none => .error .undescribed
  else .error .undescribed

/-- What every module imports, and its own name and file. -/
def imported : Namespace := [
  ("annotations", .feature), ("dataclass", .function .dataclass), ("Classes", .classRef .base),
  ("Counter", .classRef .counter), ("EmptyTheme", .classRef .emptyTheme),
  ("TextSink", .classRef .sink), ("__name__", .text "stylekit.generated_0"),
  ("__file__", .text "<stylekit-0>")]

/-- What every module has until something else gets the name. -/
def moduleAttributes : Namespace :=
  ["__doc__", "__package__", "__loader__", "__spec__"].map fun name => (name, .none)

/-- The names of a module before any class is defined. -/
def moduleNames (given : Namespace) : Namespace := imported ++ given ++ moduleAttributes

/-- Whatever is given in the place of all built-in names, nothing can be imported from it. -/
def checkImport (given : Namespace) : Except LoadError Unit :=
  match given.lookup "__builtins__" with
  | none => .ok ()
  | some v =>
    match v.subscript (.text "__import__") with
    | .error (.noKey _) => .error .noImport
    | .error e => .error (.eval e)
    | .ok f => .error (.eval (.notCallable f.typeName))

/-- What becomes of a method that is marked by a name: nothing else, unless the name was given to
something, which is then called with the method. -/
def marked (globals : Namespace) (mark owner method : String) :
    Except EvalError (Option Value) :=
  match globals.lookup mark with
  | none => .ok none
  | some f => (f.call [.function (.defined owner method)] []).map some

def classRef (d : ClassDef) : ClassRef := .generated d.name (d.fields.map (·.1))

/-- Defines a class in a module with the names that it has so far. -/
def define (globals : Namespace) (linked : Linked) : Except LoadError StyleClass := do
  let (d, arguments) := linked
  let writer ← (marked globals "staticmethod" d.name "generate").mapError .eval
  let maker ← (marked globals "classmethod" d.name "new").mapError .eval
  checkFields (d.fields.map (·.1))
  return { definition := d, arguments, globals, writer, maker }

/-- Defines classes one after the other; each name is known to those that follow. -/
def defineAll (globals : Namespace) : List Linked → Except LoadError (List StyleClass × Namespace)
  | [] => .ok ([], globals)
  | l :: ls => do
    let c ← define globals l
    let (cs, globals) ← defineAll ((l.1.name, .classRef (classRef l.1)) :: globals) ls
    return (c :: cs, globals)

/-- Makes classes of the definitions of one module, the values of which are texts of a language. All
values are read before any class is defined, and in the end every class knows all names of the
module. -/
def makeAll (language : Language) (given : Namespace) (defs : List ClassDef) :
    Except LoadError (List StyleClass) := do
  let linked ← defs.mapM (link language)
  checkImport given
  let (classes, globals) ← defineAll (moduleNames given) linked
  return classes.map fun c => { c with globals := globals }

/-- Loads the text of a module of definitions. -/
def loadWith (language : Language) (given : Namespace) (defs : List ClassDef) :
    Except LoadError (List StyleClass) := do
  makeAll language given (← readBack defs)

def load (given : Namespace) (defs : List ClassDef) : Except LoadError (List StyleClass) :=
  loadWith .basic given defs

/-! ### Running -/

/-- Whether the values of a class do nothing but give values or fail. -/
def isPlain (c : StyleClass) : Bool := c.arguments.all (·.holds Code.isPlain)

/-- Whether the values of a class do nothing to the sink and the counter. -/
def isInactive (c : StyleClass) : Bool := c.arguments.all (·.holds (!·.isActing))

/-- Whether calls of the method that writes the stylesheet do not run its body. -/
def isSuspended (c : StyleClass) : Bool := !c.arguments.all (·.holds (!·.isSuspending))

def scope (c : StyleClass) (theme : Theme) (start : Int) : Scope where
  owner := classRef c.definition
  themeVar := Expr.privateName c.definition.name c.definition.themeVar
  theme := theme
  start := start
  counter := start
  globals := c.globals

/-- The value that fills a hole. How many digits a number may have is left out. -/
def argumentValue (s : Scope) : LinkedArgument → Doing Shown
  | .slot i => return .ok (toString (s.start + i) : String)
  | .value c => c.run s

/-- Writes a stylesheet. All values are evaluated before any of them is written, and the first
failure is the failure of all; what values have done before stays. In the end the counter stands
behind the slots of the class, wherever values have moved it. -/
def body (c : StyleClass) (theme : Theme) (start : Int) : Doing Unit := do
  let values ← c.arguments.mapM (argumentValue (c.scope theme start))
  let texts ← Doing.ofExcept (values.mapM id)
  let template := String.join c.definition.literals
  modify fun d => {
    written := d.written ++ .ofLetters (Template.fill template.toList texts)
    counter := start + c.definition.slotCount }

/-- A call of the method that writes the stylesheet, against a theme and with a counter. -/
def call (c : StyleClass) (theme : Theme) (start : Int) : Except EvalError Unit × Deeds :=
  let act : Doing Unit := do
    if let some v := c.writer then throw (.notCallable v.typeName)
    if !c.isSuspended then c.body theme start
  act.run.run ⟨"", start⟩

/-- The stylesheet against a theme and the slot behind the last one used, if none of it fails. -/
def generate (c : StyleClass) (theme : Theme) (start : Int) : Except EvalError (Text × Int) :=
  let (result, deeds) := c.call theme start
  result.map fun _ => (deeds.written, deeds.counter)

/-- The class name for a slot: the prefix and what the name of the texts makes of the slot. -/
def className (c : StyleClass) (slot : Int) : Except EvalError Text :=
  match c.globals.lookup "str" with
  | none => .ok (.ofString (c.definition.classPrefix ++ toString slot))
  | some f => do
    let name ← Value.arith .add (.text c.definition.classPrefix) (← f.call [.int slot] [])
    name.toText

/-- The class names for slots from a start on, by field. -/
def fields (c : StyleClass) (start : Int) : Except EvalError (List (String × Text)) := do
  if let some v := c.maker then throw (.notCallable v.typeName)
  c.definition.fields.mapM fun f => return (f.1, ← c.className (start + f.2))

/-- How an instance is shown. -/
def instanceText (c : StyleClass) (start : Int) : Except EvalError String := do
  let shown := (← c.fields start).map fun f => f.1 ++ "=" ++ f.2.display
  return c.definition.name ++ "(" ++ ", ".intercalate shown ++ ")"

end StyleClass
end ScopedCss

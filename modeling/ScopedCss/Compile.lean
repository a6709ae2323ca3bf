import ScopedCss.Log
import ScopedCss.Parse
import ScopedCss.Template

/-!
Compilation of style blocks. A block that passes its checks becomes a slot table and a template;
warnings and hints are logged on the way.
-/
namespace ScopedCss

structure CompiledStyle where
  signature : Signature
  table : SlotTable
  template : Template
  config : Config

namespace CompiledStyle

/-- How many slots an instance of the block takes. -/
def slotCount (c : CompiledStyle) : Nat := c.table.size

/-- The class names of an instance whose slots count from a start, in slot order. As in templates,
slots have no limit on their digits. -/
def classNames (c : CompiledStyle) (start : Int) : List (String × String) :=
  c.table.slots.map fun p => (p.1, c.config.classPrefix ++ toString (start + p.2))

end CompiledStyle

inductive CompileError where
  | parse (e : ParseError)
  | invalid (errors : List Diagnostic)
  | unknownClassname (name : String)

/-- The texts follow the error's cause; an unknown class name is only quoted. -/
def CompileError.message : CompileError → String
  | .parse e => e.message
  | .invalid ds => Diagnostic.refusal ds
  | .unknownClassname n => Text.quote n

/-- What came of a compilation, and what was logged until it ended. -/
structure Compilation (α : Type) where
  logs : List LogLine
  result : Except CompileError α

namespace Compile

def logger : String := "stylekit.compiler.compile"

/-- The line that tells a finding. -/
def findingLine (s : Style) (d : Diagnostic) : LogLine where
  level := if d.severity = .warning then .warning else .debug
  logger := logger
  message := s.signature.resultType ++ ": " ++ d.text

def doneLine (c : CompiledStyle) : LogLine where
  level := .debug
  logger := logger
  message := "Compiled " ++ c.signature.resultType ++ ": " ++ toString c.table.size ++
    " classname(s), " ++ toString c.template.params.length ++ " param(s)"

/-- Checks, resolves and assembles one block. -/
def style (config : Config) (s : Style) : Compilation CompiledStyle :=
  match refuseErrors (validate [] s) with
  | .error errors => ⟨[], .error (.invalid errors)⟩
  | .ok findings =>
    let told := findings.map (findingLine s)
    let table := SlotTable.ofRules s.rules
    match Template.assemble table config s.rules with
    | .error n => ⟨told, .error (.unknownClassname n)⟩
    | .ok t =>
      let c : CompiledStyle := ⟨s.signature, table, t, config⟩
      ⟨told ++ [doneLine c], .ok c⟩

/-- Compiles blocks in order, up to the first that fails. -/
def styles (config : Config) : List Style → Compilation (List CompiledStyle)
  | [] => ⟨[], .ok []⟩
  | s :: ss =>
    match style config s with
    | ⟨logs, .error e⟩ => ⟨logs, .error e⟩
    | ⟨logs, .ok c⟩ =>
      let others := styles config ss
      ⟨logs ++ others.logs, others.result.map (c :: ·)⟩

/-- Compiles all blocks of a source text. Blocks with one result type are refused before any is
compiled. -/
def source (config : Config) (text : String) : Compilation (List CompiledStyle) :=
  match parseStyles text with
  | .error e => ⟨[], .error (.parse e)⟩
  | .ok ss =>
    match Check.uniqueResultTypes ss with
    | [] => styles config ss
    | errors => ⟨[], .error (.invalid errors)⟩

/-- Compiles the only block of a source text. -/
def single (config : Config) (text : String) : Compilation CompiledStyle :=
  match parseStyle text with
  | .error e => ⟨[], .error (.parse e)⟩
  | .ok s => style config s

end Compile
end ScopedCss

import ScopedCss.Compile
import ScopedCss.Text.Blank
import ScopedCss.Text.Line

/-!
Generated classes. A compiled block becomes the definition of a class with one text field for each
class name, a method that writes the stylesheet and one that hands out the class names. A
definition can be printed, as a part of a module, and it can be run.
-/
namespace ScopedCss

/-- An argument that fills a hole of the template. -/
inductive Argument where
  | slot (index : Nat)
  | value (source : String)
deriving DecidableEq, Repr

structure ClassDef where
  name : String
  themeVar : String
  themeType : String
  /-- The fields with the slots they are named after. -/
  fields : List (String × Nat)
  /-- What the class names of all fields start with; empty if there are none. -/
  classPrefix : String
  /-- The template as a row of literals, each of one line. -/
  literals : List String
  arguments : List Argument
  slotCount : Nat
deriving Repr

namespace ClassDef

/-- The lines of a template; an empty template is one empty literal. -/
def literalsOf (template : String) : List String :=
  match Text.keptLines template.toList with
  | [] => [""]
  | ls => ls.map String.ofList

def ofCompiled (c : CompiledStyle) : ClassDef where
  name := c.signature.resultType
  themeVar := c.signature.themeVar
  themeType := c.signature.themeType
  fields := c.table.slots
  classPrefix := if c.table.slots.isEmpty then "" else c.config.classPrefix
  literals := literalsOf c.template.text
  arguments := c.template.params.map fun
    | .slot i => .slot i
    | .value e => .value e
  slotCount := c.slotCount

/-! ### Printing -/

/-- Indentation in steps of four blanks. -/
def indent (depth : Nat) : String := String.ofList (List.replicate (4 * depth) ' ')

/-- A value stands in parentheses, the closing one on a line of its own if the value has several
lines. -/
def argumentText : Argument → String
  | .slot i => "_start + " ++ toString i
  | .value e =>
    if e.toList.contains '\n' then "(" ++ e ++ "\n" ++ indent 4 ++ ")" else "(" ++ e ++ ")"

def literalLines (d : ClassDef) (depth : Nat) : List String :=
  d.literals.map fun l => indent depth ++ Text.quote l

def generateLines (d : ClassDef) : List String :=
  ["@staticmethod",
   "def generate(" ++ d.themeVar ++ ": " ++ d.themeType ++
     ", _css: TextSink, _counter: Counter) -> None:",
   indent 1 ++ "_start = _counter.value",
   indent 1 ++ "_css.write(",
   indent 2 ++ "("] ++
  d.literalLines 3 ++
  [indent 2 ++ ").format("] ++
  d.arguments.map (fun a => indent 3 ++ argumentText a ++ ",") ++
  [indent 2 ++ ")",
   indent 1 ++ ")",
   indent 1 ++ "_counter.value = _start + " ++ toString d.slotCount]

def newLines (d : ClassDef) : List String :=
  ["@classmethod", "def new(cls, start: int) -> " ++ d.name ++ ":"] ++
  if d.fields.isEmpty then [indent 1 ++ "return cls()"]
  else
    [indent 1 ++ "return cls("] ++
    d.fields.map (fun f =>
      indent 2 ++ f.1 ++ "=" ++ Text.quote d.classPrefix ++ " + str(start + " ++ toString f.2 ++
        "),") ++
    [indent 1 ++ ")"]

def text (d : ClassDef) : String :=
  let lines :=
    ["@dataclass(frozen=True)", "class " ++ d.name ++ "(Classes):"] ++
    d.fields.map (fun f => indent 1 ++ f.1 ++ ": str") ++
    (if d.fields.isEmpty then [] else [""]) ++
    d.generateLines.map (indent 1 ++ ·) ++
    [""] ++
    d.newLines.map (indent 1 ++ ·)
  "\n".intercalate lines ++ "\n"

/-- The imports of every module. -/
def preamble : String :=
  "from __future__ import annotations\n\nfrom dataclasses import dataclass\n\n" ++
  "from stylekit.runtime import Classes, Counter, EmptyTheme, TextSink\n"

/-- A module of class definitions. Extra imports are trimmed and empty ones left out. -/
def moduleText (defs : List ClassDef) (imports : List String) (sourceName : String) : String :=
  let origin := if sourceName = "" then "" else " from " ++ sourceName
  let extra := (imports.map fun i => String.ofList (Text.trim i.toList)).filter (· != "")
  let tail := if extra.isEmpty then "" else "\n".intercalate extra ++ "\n"
  let head := "# Generated by stylekit" ++ origin ++ ". Do not edit.\n" ++ preamble ++ tail
  "\n\n".intercalate (head :: defs.map text)

end ClassDef
end ScopedCss

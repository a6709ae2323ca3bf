import Mathlib
import ScopedCss.Proofs.ModuleReading

/-!
The names in a generated module. The text of a module is a row of pieces, some of which are names
that it binds, annotates or reads. Main statement: in every module of a source that is compiled the
names that are bound can be bound, and none of them gets in the way of another or of what the module
imports. Two things are not checked: a word of the type of the theme may be a keyword, and a class
may take the name of a built-in that the module reads.

All of Mathlib is imported, for the equations by which the sources at the end are compiled.
-/
namespace ScopedCss

open Text (isBindable isIdentifier isKeyword)

/-! ### Pieces -/

/-- What a name stands in a module for. -/
inductive NameUse where
  /-- The class that is defined. -/
  | className
  | field
  /-- A parameter of the method that writes the stylesheet. -/
  | parameter
  /-- The name of an argument in a call. -/
  | argument
  | hint
  /-- Something that is looked up when the module is loaded or its classes are used. -/
  | read
deriving DecidableEq, Repr

inductive Piece where
  | code (text : String)
  | name (use : NameUse) (name : String)
deriving DecidableEq, Repr

namespace Piece

def text : Piece → String
  | .code t => t
  | .name _ n => n

/-- The text that pieces make up. -/
def join (ps : List Piece) : String := String.join (ps.map text)

/-- The name of a piece with its use. -/
def use? : Piece → Option (NameUse × String)
  | .code _ => none
  | .name u n => some (u, n)

/-- The names with their uses, in order. -/
def uses (ps : List Piece) : List (NameUse × String) := ps.filterMap use?

/-- The names of one use, in order. -/
def names (use : NameUse) (ps : List Piece) : List String :=
  ((uses ps).filter (·.1 = use)).map (·.2)

section
variable (p : Piece) (ps qs : List Piece)

@[simp] theorem join_nil : join [] = "" := rfl

@[simp] theorem join_cons : join (p :: ps) = p.text ++ join ps := by
  rw [join, List.map_cons, String.join_cons, join]

@[simp] theorem join_append : join (ps ++ qs) = join ps ++ join qs := by
  rw [join, List.map_append, String.join_append, join, join]

theorem join_flatMap {α : Type} (xs : List α) (f : α → List Piece) :
    join (xs.flatMap f) = String.join (xs.map fun x => join (f x)) := by
  induction xs with
  | nil => rfl
  | cons x xs ih => rw [List.flatMap_cons, join_append, ih, List.map_cons, String.join_cons]

@[simp] theorem uses_nil : uses [] = [] := rfl

@[simp] theorem uses_code (t : String) : uses (.code t :: ps) = uses ps := rfl

@[simp] theorem uses_name (u : NameUse) (n : String) :
    uses (.name u n :: ps) = (u, n) :: uses ps := rfl

@[simp] theorem uses_append : uses (ps ++ qs) = uses ps ++ uses qs := List.filterMap_append

theorem uses_flatMap {α : Type} (xs : List α) (f : α → List Piece) :
    uses (xs.flatMap f) = xs.flatMap fun x => uses (f x) := List.filterMap_flatMap

end

theorem mem_names {use : NameUse} {n : String} {ps : List Piece} :
    n ∈ names use ps ↔ (use, n) ∈ uses ps := by
  simp [names]

/-- Names with a text between each two of them. -/
def separated (separator : String) (use : NameUse) : List String → List Piece
  | [] => []
  | [n] => [.name use n]
  | n :: ns => .name use n :: .code separator :: separated separator use ns

variable (use : NameUse)

theorem join_separated (separator : String) (ns : List String) :
    join (separated separator use ns) = separator.intercalate ns := by
  fun_induction separated separator use ns with
  | case1 => rfl
  | case2 => simp [text]
  | case3 n ns hnonempty ih =>
    obtain ⟨m, ms, rfl⟩ := List.exists_cons_of_ne_nil hnonempty
    simp [text, ih, String.intercalate_cons_cons, String.append_assoc]

theorem uses_separated (separator : String) (ns : List String) :
    uses (separated separator use ns) = ns.map (use, ·) := by
  fun_induction separated separator use ns with
  | case1 => rfl
  | case2 => rfl
  | case3 n ns _ ih => rw [uses_name, uses_code, ih, List.map_cons]

end Piece

/-! ### Classes -/

namespace ClassDef

open Piece

/-- The words of the type of the theme. -/
def typeWords (d : ClassDef) : List String := (d.themeType.toList.splitOn '.').map String.ofList

theorem intercalate_typeWords (d : ClassDef) : ".".intercalate d.typeWords = d.themeType := by
  rw [← String.toList_inj, String.toList_intercalate, typeWords, List.map_map]
  have hletters : String.toList ∘ String.ofList = id := by funext cs; simp
  rw [hletters, List.map_id]
  exact List.intercalate_splitOn '.'

def generatePieces (d : ClassDef) : List (List Piece) :=
  [[Piece.code "@", .name .read "staticmethod"],
   [Piece.code "def generate(", .name .parameter d.themeVar, .code ": "] ++
     separated "." .hint d.typeWords ++
     [Piece.code ", ", .name .parameter "_css", .code ": ", .name .hint "TextSink", .code ", ",
      .name .parameter "_counter", .code ": ", .name .hint "Counter", .code ") -> None:"]] ++
  (d.generateLines.drop 2).map fun line => [Piece.code line]

def newPieces (d : ClassDef) : List (List Piece) :=
  [[Piece.code "@", .name .read "classmethod"],
   [.code "def new(cls, start: int) -> ", .name .hint d.name, .code ":"]] ++
  if d.fields.isEmpty then [[.code (indent 1 ++ "return cls()")]]
  else
    [[Piece.code (indent 1 ++ "return cls(")]] ++
    d.fields.map (fun f =>
      [Piece.code (indent 2), .name .argument f.1, .code ("=" ++ Text.quote d.classPrefix ++ " + "),
       .name .read "str", .code ("(start + " ++ toString f.2 ++ "),")]) ++
    [[Piece.code (indent 1 ++ ")")]]

/-- The lines of a class as pieces. -/
def pieceLines (d : ClassDef) : List (List Piece) :=
  [[Piece.code "@", .name .read "dataclass", .code "(frozen=True)"],
   [.code "class ", .name .className d.name, .code "(", .name .read "Classes", .code "):"]] ++
  d.fields.map (fun f =>
      [Piece.code (indent 1), .name .field f.1, .code ": ", .name .hint "str"]) ++
  (if d.fields.isEmpty then [] else [[]]) ++
  d.generatePieces.map (Piece.code (indent 1) :: ·) ++
  [[]] ++
  d.newPieces.map (Piece.code (indent 1) :: ·)

def pieces (d : ClassDef) : List Piece := d.pieceLines.flatMap (· ++ [.code "\n"])

theorem map_join_code (lines : List String) :
    (lines.map fun line => [Piece.code line]).map join = lines := by
  simp [Piece.text, Function.comp_def]

theorem generateLines_eq_pieces (d : ClassDef) : d.generateLines = d.generatePieces.map join := by
  have hlines : d.generateLines = "@staticmethod" ::
      ("def generate(" ++ d.themeVar ++ ": " ++ d.themeType ++
        ", _css: TextSink, _counter: Counter) -> None:") :: d.generateLines.drop 2 := rfl
  rw [generatePieces, List.map_append, map_join_code]
  conv_lhs => rw [hlines]
  simp [Piece.text, join_separated, intercalate_typeWords, String.append_assoc]

theorem newLines_eq_pieces (d : ClassDef) : d.newLines = d.newPieces.map join := by
  rw [newLines, newPieces]
  split
  · simp [Piece.text, String.append_assoc]
  · simp only [List.map_append, List.map_cons, List.map_nil, List.map_map, Function.comp_def,
      join_cons, join_nil, Piece.text, String.append_empty, String.append_assoc]
    congr 4

theorem text_eq_pieces (d : ClassDef) : d.text = join d.pieces := by
  have hlines : ["@dataclass(frozen=True)", "class " ++ d.name ++ "(Classes):"] ++
      d.fields.map (fun f => indent 1 ++ f.1 ++ ": str") ++
      (if d.fields.isEmpty then [] else [""]) ++ d.generateLines.map (indent 1 ++ ·) ++ [""] ++
      d.newLines.map (indent 1 ++ ·) = d.pieceLines.map join := by
    rw [generateLines_eq_pieces, newLines_eq_pieces, pieceLines]
    split <;> simp [Piece.text, Function.comp_def, String.append_assoc]
  rw [text, hlines, intercalate_newline (by simp [pieceLines]), pieces, join_flatMap]
  simp [Piece.text, Function.comp_def]

/-! ### The names of a class -/

theorem uses_generatePieces (d : ClassDef) : d.generatePieces.flatMap uses =
    [(NameUse.read, "staticmethod"), (.parameter, d.themeVar)] ++
      d.typeWords.map (NameUse.hint, ·) ++
      [(NameUse.parameter, "_css"), (.hint, "TextSink"), (.parameter, "_counter"),
       (.hint, "Counter")] := by
  have hbody (lines : List String) :
      (lines.map fun line => [Piece.code line]).flatMap uses = [] := by
    simp [List.flatMap_map]
  rw [generatePieces, List.flatMap_append, hbody]
  simp [uses_separated]

theorem uses_newPieces (d : ClassDef) : d.newPieces.flatMap uses =
    [(NameUse.read, "classmethod"), (.hint, d.name)] ++
      d.fields.flatMap fun f => [(NameUse.argument, f.1), (.read, "str")] := by
  rw [newPieces]
  split
  · simp_all
  · simp [List.flatMap_map]

/-- The names of a class and what they stand for, in order. -/
theorem uses_pieces (d : ClassDef) : uses d.pieces =
    [(NameUse.read, "dataclass"), (.className, d.name), (.read, "Classes")] ++
      (d.fields.flatMap fun f => [(NameUse.field, f.1), (.hint, "str")]) ++
      d.generatePieces.flatMap uses ++ d.newPieces.flatMap uses := by
  rw [pieces, uses_flatMap, pieceLines]
  split <;> simp [List.flatMap_map]

theorem names_className (d : ClassDef) : names .className d.pieces = [d.name] := by
  simp [names, uses_pieces, uses_generatePieces, uses_newPieces, List.filter_flatMap,
    List.filter_map, Function.comp_def]

theorem names_field (d : ClassDef) : names .field d.pieces = d.fields.map (·.1) := by
  simp [names, uses_pieces, uses_generatePieces, uses_newPieces, List.filter_flatMap,
    List.map_flatMap, List.filter_map, Function.comp_def, ← List.map_eq_flatMap]

theorem names_parameter (d : ClassDef) :
    names .parameter d.pieces = [d.themeVar, "_css", "_counter"] := by
  have hnone : d.fields.flatMap (fun _ => ([] : List String)) = [] := by simp
  simp [names, uses_pieces, uses_generatePieces, uses_newPieces, List.filter_flatMap,
    List.map_flatMap, List.filter_map, Function.comp_def, hnone]

section
variable {d : ClassDef} {n : String}

theorem mem_names_argument (h : n ∈ names .argument d.pieces) : n ∈ d.fields.map (·.1) := by
  simpa [mem_names, uses_pieces, uses_generatePieces, uses_newPieces] using h

theorem mem_names_hint (h : n ∈ names .hint d.pieces) :
    n ∈ d.typeWords ∨ n ∈ ["str", "TextSink", "Counter"] ∨ n = d.name := by
  simp [mem_names, uses_pieces, uses_generatePieces, uses_newPieces] at h
  grind

theorem mem_names_read (h : n ∈ names .read d.pieces) :
    n ∈ ["dataclass", "Classes", "staticmethod", "classmethod", "str"] := by
  simp [mem_names, uses_pieces, uses_generatePieces, uses_newPieces] at h
  grind

end

/-! ### Modules -/

/-- A module as pieces: what stands in front of the classes, and then the classes. -/
def modulePieces (defs : List ClassDef) (imports : List String) (sourceName : String) :
    List Piece :=
  .code (moduleText [] imports sourceName) :: defs.flatMap fun d => .code "\n\n" :: d.pieces

theorem moduleText_eq_pieces (defs : List ClassDef) (imports : List String) (sourceName : String) :
    moduleText defs imports sourceName = join (modulePieces defs imports sourceName) := by
  rw [moduleText_eq, modulePieces, join_cons, join_flatMap, Piece.text]
  simp [Piece.text, text_eq_pieces]

theorem names_modulePieces (use : NameUse) (defs : List ClassDef) (imports : List String)
    (sourceName : String) :
    names use (modulePieces defs imports sourceName) =
      defs.flatMap fun d => names use d.pieces := by
  simp [names, modulePieces, uses_flatMap, List.filter_flatMap, List.map_flatMap]

/-- The words of a type that was read are identifiers. -/
theorem isIdentifier_of_mem_typeWords {d : ClassDef} (hpath : Source.IsPath d.themeType)
    {n : String} (h : n ∈ d.typeWords) : isIdentifier n = true := by
  obtain ⟨words, hnonempty, hnamed, htype⟩ := hpath
  have hundotted : ∀ w ∈ words, '.' ∉ w := by
    intro w hmember hdot
    obtain ⟨c, r, rfl, hstart, hothers⟩ := hnamed w hmember
    rcases List.mem_cons.1 hdot with rfl | hdot
    · revert hstart
      decide
    · exact absurd (hothers '.' hdot) (by decide)
  rw [typeWords, htype, Source.Reader.dotted, String.toList_ofList,
    List.splitOn_intercalate '.' hundotted hnonempty] at h
  obtain ⟨w, hmember, rfl⟩ := List.mem_map.1 h
  exact Source.isIdentifier_of_isName (hnamed w hmember)

namespace Usable

variable {d : ClassDef} (h : d.Usable) {n : String}
include h

theorem bindable {use : NameUse} (hbound : use ∈ [NameUse.className, .field, .parameter, .argument])
    (hmember : n ∈ names use d.pieces) : isBindable n = true := by
  simp only [List.mem_cons, List.not_mem_nil, or_false] at hbound
  rcases hbound with rfl | rfl | rfl | rfl
  · rw [names_className, List.mem_singleton] at hmember
    rw [hmember]
    exact h.name.1
  · rw [names_field] at hmember
    exact (h.fields n hmember).1
  · simp only [names_parameter, List.mem_cons, List.not_mem_nil, or_false] at hmember
    rcases hmember with rfl | rfl | rfl
    · exact h.themeVar.1
    · decide
    · decide
  · exact (h.fields n (mem_names_argument hmember)).1

theorem annotated (hmember : n ∈ names .hint d.pieces) :
    isIdentifier n = true ∧ (isKeyword n = true → n ∈ d.typeWords) := by
  rcases mem_names_hint hmember with hword | hfixed | rfl
  · exact ⟨isIdentifier_of_mem_typeWords h.themeType hword, fun _ => hword⟩
  · have hall : ∀ m ∈ ["str", "TextSink", "Counter"], isIdentifier m = true ∧
        isKeyword m = false := by decide
    obtain ⟨hidentifier, hfree⟩ := hall n hfixed
    exact ⟨hidentifier, fun hkeyword => by rw [hfree] at hkeyword; cases hkeyword⟩
  · have hown := h.name.1
    simp only [isBindable, Bool.and_eq_true, Bool.not_eq_true'] at hown
    exact ⟨hown.1, fun hkeyword => by rw [hown.2] at hkeyword; cases hkeyword⟩

theorem nodup_parameters : (names .parameter d.pieces).Nodup := by
  have hapart := h.themeVar.2
  simp only [Check.reservedLocals, List.mem_cons, List.not_mem_nil, or_false, not_or] at hapart
  simp [names_parameter, hapart]

/-- A class that takes the name of something that modules read takes that of a built-in. -/
theorem name_read
    (hmember : d.name ∈ ["dataclass", "Classes", "staticmethod", "classmethod", "str"]) :
    d.name ∈ ["staticmethod", "classmethod", "str"] := by
  have himported := h.name.2
  simp only [Check.reservedGlobals, List.mem_cons, List.not_mem_nil, or_false, not_or] at himported
  simpa [himported] using hmember

end Usable

end ClassDef

/-- In the module of a source that is compiled, what is bound can be bound, and what is annotated
with are identifiers. Parameters are different from each other, and so are fields and classes. A
field is none of the members of every class. Only the type of a theme may have a keyword in it, and
only three names that the module reads may be taken by a class. -/
theorem module_names_usable {config : Config} {text : String} {compiled : List CompiledStyle}
    (haccepted : (Compile.source config text).result = .ok compiled) (imports : List String)
    (sourceName : String) :
    let defs := compiled.map ClassDef.ofCompiled
    let pieces := ClassDef.modulePieces defs imports sourceName
    ClassDef.moduleText defs imports sourceName = Piece.join pieces ∧
    (∀ use ∈ [NameUse.className, .field, .parameter, .argument],
      ∀ n ∈ Piece.names use pieces, isBindable n = true) ∧
    (∀ n ∈ Piece.names .hint pieces, isIdentifier n = true ∧
      (isKeyword n = true → ∃ d ∈ defs, n ∈ d.typeWords)) ∧
    (∀ d ∈ defs, (Piece.names .parameter d.pieces).Nodup ∧ (Piece.names .field d.pieces).Nodup ∧
      ∀ n ∈ Piece.names .field d.pieces, n ∉ ["generate", "new", "use_style"]) ∧
    (Piece.names .className pieces).Nodup ∧
    ∀ n ∈ Piece.names .className pieces, n ∈ Piece.names .read pieces →
      n ∈ ["staticmethod", "classmethod", "str"] := by
  intro defs pieces
  obtain ⟨husable, hdistinct⟩ := ClassDef.usable_of_source haccepted
  have hinClass {use : NameUse} {n : String} (h : n ∈ Piece.names use pieces) :
      ∃ d ∈ defs, n ∈ Piece.names use d.pieces := by
    rw [ClassDef.names_modulePieces] at h
    exact List.mem_flatMap.1 h
  have hclasses : Piece.names .className pieces = defs.map (·.name) := by
    rw [ClassDef.names_modulePieces]
    simp [ClassDef.names_className, ← List.map_eq_flatMap]
  refine ⟨ClassDef.moduleText_eq_pieces defs imports sourceName, fun use hbound n h => ?_,
    fun n h => ?_, fun d hmember => ⟨?_, ?_, fun n h => ?_⟩, ?_, fun n h hreading => ?_⟩
  · obtain ⟨d, hmember, h⟩ := hinClass h
    exact (husable d hmember).bindable hbound h
  · obtain ⟨d, hmember, h⟩ := hinClass h
    obtain ⟨hidentifier, hword⟩ := (husable d hmember).annotated h
    exact ⟨hidentifier, fun hkeyword => ⟨d, hmember, hword hkeyword⟩⟩
  · exact (husable d hmember).nodup_parameters
  · rw [ClassDef.names_field]
    exact (husable d hmember).distinct
  · rw [ClassDef.names_field] at h
    exact ((husable d hmember).fields n h).2
  · rw [hclasses]
    exact hdistinct
  · obtain ⟨_, -, hreading⟩ := hinClass hreading
    rw [hclasses] at h
    obtain ⟨d, hmember, rfl⟩ := List.mem_map.1 h
    exact (husable d hmember).name_read (ClassDef.mem_names_read hreading)

/-- A block with two class names and a dotted type. -/
def dottedSource : String := "(t: a.T) -> A \x7b \".x.y\" \x7b b: t \x7d \x7d"

theorem module_names_usable_dotted : ∃ compiled,
    (Compile.source {} dottedSource).result = .ok compiled ∧
    let pieces := ClassDef.modulePieces (compiled.map ClassDef.ofCompiled) [] ""
    Piece.names .hint pieces =
      ["str", "str", "a", "T", "TextSink", "Counter", "A"] ∧
    ∀ n ∈ Piece.names .hint pieces, isIdentifier n = true := by
  obtain ⟨compiled, haccepted, hannotations⟩ : ∃ compiled,
      (Compile.source {} dottedSource).result = .ok compiled ∧
      Piece.names .hint (ClassDef.modulePieces (compiled.map ClassDef.ofCompiled) [] "") =
        ["str", "str", "a", "T", "TextSink", "Counter", "A"] := ⟨_, by cbv, by decide +kernel⟩
  obtain ⟨-, -, hannotated, -⟩ := module_names_usable haccepted [] ""
  exact ⟨compiled, haccepted, hannotations, fun n hmember => (hannotated n hmember).1⟩

/-- A type that is a keyword is accepted, and so is a class with the name of a built-in that its
module reads. -/
theorem unchecked_names :
    (∃ compiled,
      (Compile.source {} "(t: class) -> A \x7b a \x7b b: t \x7d \x7d").result = .ok compiled ∧
      let pieces := ClassDef.modulePieces (compiled.map ClassDef.ofCompiled) [] ""
      "class" ∈ Piece.names .hint pieces ∧ isKeyword "class" = true) ∧
    ∃ compiled,
      (Compile.source {} "(t: T) -> str \x7b a \x7b b: t \x7d \x7d").result = .ok compiled ∧
      let pieces := ClassDef.modulePieces (compiled.map ClassDef.ofCompiled) [] ""
      "str" ∈ Piece.names .className pieces ∧ "str" ∈ Piece.names .read pieces :=
  ⟨⟨_, by cbv, by decide +kernel⟩, _, by cbv, by decide +kernel⟩

end ScopedCss

import ScopedCss.Proofs.ModuleReading
import ScopedCss.StyleClass

/-!
Loading class definitions. What is loaded is the text of a module, and of a module that was compiled
the text says what its definitions say. So a class that is loaded keeps its definition, and the
values of its arguments are read inside it. Its methods are its own and its class names are texts of
numbers, as long as the names that say so in a module are given to nothing else.
-/
namespace ScopedCss.StyleClass

/-! ### Texts of modules -/

/-- Definitions whose module is read as themselves, if it is read at all. -/
def ReadBack (defs : List ClassDef) : Prop := ∀ read, readBack defs = .ok read → read = defs

theorem readBack_of_readable {defs : List ClassDef}
    (h : (∀ d ∈ defs, ∀ a ∈ d.arguments, a.isEnclosed = true) →
      ∀ d ∈ defs, ModuleReader.Readable d) : ReadBack defs := by
  intro read hread
  simp only [readBack] at hread
  split_ifs at hread with hnull henclosed
  have hvalues : ∀ d ∈ defs, ∀ a ∈ d.arguments, a.isEnclosed = true := by
    simpa [List.all_eq_true] using henclosed
  rw [ModuleReader.read?_moduleText (h hvalues)] at hread
  cases hread
  rfl

section
variable {config : Config} {text : String} {compiled : List CompiledStyle}
  (h : (Compile.source config text).result = .ok compiled)
include h

theorem readable_of_source
    (hvalues : ∀ d ∈ compiled.map ClassDef.ofCompiled, ∀ a ∈ d.arguments, a.isEnclosed = true) :
    ∀ d ∈ compiled.map ClassDef.ofCompiled, ModuleReader.Readable d := by
  intro d hd
  refine ModuleReader.readable_of_usable ((ClassDef.usable_of_source h).1 d hd) ?_ (hvalues d hd)
  obtain ⟨c, -, rfl⟩ := List.mem_map.1 hd
  intro hnone
  exact if_pos (List.isEmpty_iff.2 hnone)

/-- The module of a source that is compiled says what was compiled. -/
theorem readBack_of_source : ReadBack (compiled.map ClassDef.ofCompiled) :=
  readBack_of_readable (readable_of_source h)

end

/-- What there is to compute about a source that is compiled and loaded to classes. -/
structure Loads (language : Language) (given : Namespace) (config : Config) (text : String)
    (compiled : List CompiledStyle) (classes : List StyleClass) : Prop where
  accepted : (Compile.source config text).result = .ok compiled
  noNull : ((compiled.map ClassDef.ofCompiled).any fun d =>
    d.arguments.any Argument.hasNull) = false
  enclosed : ((compiled.map ClassDef.ofCompiled).all fun d =>
    d.arguments.all Argument.isEnclosed) = true
  made : makeAll language given (compiled.map ClassDef.ofCompiled) = .ok classes

/-- Its module is read, so that only its classes are left to be made. -/
theorem Loads.loaded {language : Language} {given : Namespace} {config : Config} {text : String}
    {compiled : List CompiledStyle} {classes : List StyleClass}
    (h : Loads language given config text compiled classes) :
    loadWith language given (compiled.map ClassDef.ofCompiled) = .ok classes := by
  have henclosed : ∀ d ∈ compiled.map ClassDef.ofCompiled, ∀ a ∈ d.arguments,
      a.isEnclosed = true := by
    simpa only [List.all_eq_true] using h.enclosed
  have hread : readBack (compiled.map ClassDef.ofCompiled) =
      .ok (compiled.map ClassDef.ofCompiled) := by
    simp only [readBack, h.noNull, h.enclosed, ModuleReader.read?_moduleText
      (readable_of_source h.accepted henclosed), Bool.false_eq_true, if_false, if_true]
  rw [loadWith, hread]
  exact h.made

/-! ### Definitions and classes -/

/-- The built-in names that the text of every class relies on. -/
def builtinsUsed : List String := ["str", "staticmethod", "classmethod"]

/-- None of these names was given to anything in a module. -/
def KeepsBuiltins (globals : Namespace) : Prop := ∀ name ∈ builtinsUsed, globals.lookup name = none

/-- A class with a definition, the values of which were read inside it. -/
structure ReadFrom (language : Language) (d : ClassDef) (c : StyleClass) : Prop where
  definition : c.definition = d
  arguments : List.Forall₂ (fun a l => linkArgument language d.name a = .ok l) d.arguments
    c.arguments

/-- A class that was made of a definition and of nothing else. -/
structure LoadedFrom (language : Language) (d : ClassDef) (c : StyleClass) : Prop
    extends ReadFrom language d c where
  writer : c.writer = none
  maker : c.maker = none
  globals : KeepsBuiltins c.globals

/-! ### Names of a module -/

theorem keepsBuiltins_moduleNames {given : Namespace} (h : KeepsBuiltins given) :
    KeepsBuiltins (moduleNames given) := by
  intro name hused
  have hfree := h name hused
  simp only [builtinsUsed, List.mem_cons, List.not_mem_nil, or_false] at hused
  rw [moduleNames, List.lookup_append, List.lookup_append, hfree]
  rcases hused with rfl | rfl | rfl <;> decide

theorem KeepsBuiltins.cons {globals : Namespace} (h : KeepsBuiltins globals) {name : String}
    (hfree : name ∉ builtinsUsed) (v : Value) : KeepsBuiltins ((name, v) :: globals) := by
  intro other hused
  have hdifferent : (other == name) = false := by
    rw [beq_eq_false_iff_ne]
    rintro rfl
    exact hfree hused
  rw [List.lookup_cons, hdifferent]
  exact h other hused

/-! ### From definitions to classes -/

variable {language : Language}

theorem link_eq_ok {d : ClassDef} {l : Linked} (h : link language d = .ok l) :
    l.1 = d ∧ List.Forall₂ (fun a l => linkArgument language d.name a = .ok l) d.arguments l.2 := by
  unfold link at h
  split at h
  · cases h
  · obtain ⟨arguments, hlinked, h⟩ := bind_eq_ok.1 h
    cases h
    exact ⟨rfl, mapM_eq_ok.1 hlinked⟩

theorem firsts_of_link {defs : List ClassDef} {ls : List Linked}
    (hlinked : List.Forall₂ (fun d l => link language d = .ok l) defs ls) :
    ls.map (·.1) = defs := by
  rw [← List.forall₂_eq_eq_eq, List.forall₂_map_left_iff]
  exact hlinked.flip.imp fun _ _ hread => (link_eq_ok hread).1

theorem marked_eq_none {globals : Namespace} {mark : String} (hfree : globals.lookup mark = none)
    (owner method : String) : marked globals mark owner method = .ok none := by
  rw [marked, hfree]

/-- A class that was defined of a linked definition, with methods of its own. -/
def DefinedOf (l : Linked) (c : StyleClass) : Prop :=
  c.definition = l.1 ∧ c.arguments = l.2 ∧ c.writer = none ∧ c.maker = none

theorem define_eq_ok {globals : Namespace} {l : Linked} {c : StyleClass}
    (h : define globals l = .ok c) (hkept : KeepsBuiltins globals) : DefinedOf l c := by
  obtain ⟨d, arguments⟩ := l
  obtain ⟨writer, hwriter, h⟩ := bind_eq_ok.1 h
  obtain ⟨maker, hmaker, h⟩ := bind_eq_ok.1 h
  obtain ⟨⟨⟩, -, h⟩ := bind_eq_ok.1 h
  rw [marked_eq_none (hkept "staticmethod" (by decide))] at hwriter
  rw [marked_eq_none (hkept "classmethod" (by decide))] at hmaker
  cases hwriter
  cases hmaker
  cases h
  exact ⟨rfl, rfl, rfl, rfl⟩

/-- Classes defined one after the other, none of which takes a name that the others rely on. -/
theorem defineAll_eq_ok {globals final : Namespace} {ls : List Linked} {cs : List StyleClass}
    (h : defineAll globals ls = .ok (cs, final)) (hkept : KeepsBuiltins globals)
    (hfree : ∀ l ∈ ls, l.1.name ∉ builtinsUsed) :
    KeepsBuiltins final ∧ List.Forall₂ DefinedOf ls cs := by
  induction ls generalizing globals cs with
  | nil =>
    cases h
    exact ⟨hkept, .nil⟩
  | cons l ls ih =>
    rw [List.forall_mem_cons] at hfree
    obtain ⟨c, hdefined, h⟩ := bind_eq_ok.1 h
    obtain ⟨⟨others, last⟩, hrest, h⟩ := bind_eq_ok.1 h
    cases h
    obtain ⟨hkeptLast, hall⟩ := ih hrest (hkept.cons hfree.1 _) hfree.2
    exact ⟨hkeptLast, .cons (define_eq_ok hdefined hkept) hall⟩

/-- Whatever a class is given for its methods, it is defined of its definition. -/
theorem made_of_defineAll {globals final : Namespace} {ls : List Linked} {cs : List StyleClass}
    (h : defineAll globals ls = .ok (cs, final)) :
    List.Forall₂ (fun l c => c.definition = l.1 ∧ c.arguments = l.2) ls cs := by
  induction ls generalizing globals cs with
  | nil =>
    cases h
    exact .nil
  | cons l ls ih =>
    obtain ⟨c, hdefined, h⟩ := bind_eq_ok.1 h
    obtain ⟨⟨others, last⟩, hrest, h⟩ := bind_eq_ok.1 h
    cases h
    obtain ⟨writer, -, hdefined⟩ := bind_eq_ok.1 hdefined
    obtain ⟨maker, -, hdefined⟩ := bind_eq_ok.1 hdefined
    obtain ⟨⟨⟩, -, hdefined⟩ := bind_eq_ok.1 hdefined
    cases hdefined
    exact .cons ⟨rfl, rfl⟩ (ih hrest)

theorem loadedFrom_of_linked {defs : List ClassDef} {ls : List Linked} {cs : List StyleClass}
    {final : Namespace} (hkept : KeepsBuiltins final)
    (hlinked : List.Forall₂ (fun d l => link language d = .ok l) defs ls)
    (hdefined : List.Forall₂ DefinedOf ls cs) :
    List.Forall₂ (LoadedFrom language) defs (cs.map fun c => { c with globals := final }) := by
  induction hlinked generalizing cs with
  | nil =>
    cases hdefined
    exact .nil
  | cons hfirst _ ih =>
    cases hdefined with
    | cons hmade hothers =>
      obtain ⟨hsame, hread⟩ := link_eq_ok hfirst
      obtain ⟨hdefinition, harguments, hwriter, hmaker⟩ := hmade
      exact .cons ⟨⟨hdefinition.trans hsame, harguments ▸ hread⟩, hwriter, hmaker, hkept⟩
        (ih hothers)

/-- A module is loaded in two passes over its definitions, and then all its classes share what it
knows in the end. -/
theorem load_eq_ok {given : Namespace} {defs : List ClassDef} {classes : List StyleClass}
    (h : loadWith language given defs = .ok classes) (hback : ReadBack defs) :
    ∃ ls cs final, List.Forall₂ (fun d l => link language d = .ok l) defs ls ∧
      defineAll (moduleNames given) ls = .ok (cs, final) ∧
      classes = cs.map fun c => { c with globals := final } := by
  obtain ⟨read, hread, hloaded⟩ := bind_eq_ok.1 h
  rw [hback read hread] at hloaded
  obtain ⟨ls, hlinked, hloaded⟩ := bind_eq_ok.1 hloaded
  obtain ⟨⟨⟩, -, hloaded⟩ := bind_eq_ok.1 hloaded
  obtain ⟨⟨cs, final⟩, hdefined, hloaded⟩ := bind_eq_ok.1 hloaded
  cases hloaded
  exact ⟨ls, cs, final, mapM_eq_ok.1 hlinked, hdefined, rfl⟩

/-- A module that is loaded has one class for each definition, in the same order. -/
theorem loadedFrom_of_load {given : Namespace} {defs : List ClassDef} {classes : List StyleClass}
    (h : loadWith language given defs = .ok classes) (hback : ReadBack defs)
    (hkept : KeepsBuiltins given) (hfree : ∀ d ∈ defs, d.name ∉ builtinsUsed) :
    List.Forall₂ (LoadedFrom language) defs classes := by
  obtain ⟨ls, cs, final, hlinked, hdefined, rfl⟩ := load_eq_ok h hback
  rw [← firsts_of_link hlinked, List.forall_mem_map] at hfree
  obtain ⟨hkeptFinal, hall⟩ := defineAll_eq_ok hdefined (keepsBuiltins_moduleNames hkept) hfree
  exact loadedFrom_of_linked hkeptFinal hlinked hall

theorem readFrom_of_linked {defs : List ClassDef} {ls : List Linked} {cs : List StyleClass}
    (final : Namespace) (hlinked : List.Forall₂ (fun d l => link language d = .ok l) defs ls)
    (hmade : List.Forall₂ (fun l c => c.definition = l.1 ∧ c.arguments = l.2) ls cs) :
    List.Forall₂ (ReadFrom language) defs (cs.map fun c => { c with globals := final }) := by
  induction hlinked generalizing cs with
  | nil =>
    cases hmade
    exact .nil
  | cons hfirst _ ih =>
    cases hmade with
    | cons hown hothers =>
      obtain ⟨hsame, hread⟩ := link_eq_ok hfirst
      exact .cons ⟨hown.1.trans hsame, hown.2 ▸ hread⟩ (ih hothers)

/-- Every class that is loaded was read from its definition, whatever its methods are. -/
theorem readFrom_of_load {given : Namespace} {defs : List ClassDef} {classes : List StyleClass}
    (h : loadWith language given defs = .ok classes) (hback : ReadBack defs) :
    List.Forall₂ (ReadFrom language) defs classes := by
  obtain ⟨ls, cs, final, hlinked, hdefined, rfl⟩ := load_eq_ok h hback
  exact readFrom_of_linked final hlinked (made_of_defineAll hdefined)

/-! ### From sources to classes -/

/-- The classes that compiling and loading a source makes: none if that fails. -/
def madeFrom (language : Language) (source : String) (given : Namespace) (settings : Settings) :
    List StyleClass :=
  match Config.ofSettings? settings with
  | none => []
  | some config =>
    match (Compile.source config source).result with
    | .error _ => []
    | .ok compiled =>
      match loadWith language given (compiled.map ClassDef.ofCompiled) with
      | .error _ => []
      | .ok classes => classes

theorem madeFrom_eq {source : String} {given : Namespace} {settings : Settings} {config : Config}
    {compiled : List CompiledStyle} {classes : List StyleClass}
    (hconfig : Config.ofSettings? settings = some config)
    (haccepted : (Compile.source config source).result = .ok compiled)
    (hloaded : loadWith language given (compiled.map ClassDef.ofCompiled) = .ok classes) :
    madeFrom language source given settings = classes := by
  simp only [madeFrom, hconfig, haccepted, hloaded]

/-- They have the definitions that their source was compiled to. -/
theorem exists_of_mem_madeFrom {source : String} {given : Namespace} {settings : Settings}
    {cls : StyleClass} (h : cls ∈ madeFrom language source given settings) :
    ∃ c, ReadFrom language (ClassDef.ofCompiled c) cls := by
  unfold madeFrom at h
  split at h
  · cases h
  · split at h
    · cases h
    · next haccepted =>
      split at h
      · cases h
      · next hloaded =>
        obtain ⟨d, hd, hread⟩ := exists_of_mem_forall₂
          (readFrom_of_load hloaded (readBack_of_source haccepted)) h
        obtain ⟨c, -, rfl⟩ := List.mem_map.1 hd
        exact ⟨c, hread⟩

end ScopedCss.StyleClass

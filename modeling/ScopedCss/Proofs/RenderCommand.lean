import ScopedCss.Cli.Run
import ScopedCss.Proofs.Generated
import ScopedCss.Proofs.Operations
import ScopedCss.Proofs.Scripts

/-!
The command that renders a source. What is to be printed is said block by block: each is printed
from its own rules, with class names that count on from those of the blocks before it. Main
statement: for a source whose values only compute, the command prints exactly that and ends well, or
it prints nothing and fails; and it fails only if there is nothing of the kind to be printed. What a
value writes itself is printed too.
-/
namespace ScopedCss

/-! ### Blocks -/

/-- How many slots a block takes. -/
def Style.slotCount (s : Style) : Nat := (SlotTable.ofRules s.rules).size

/-- The class names of a block whose slots count from a start. -/
def Style.classNames (config : Config) (s : Style) (start : Int) : List (String × String) :=
  (SlotTable.ofRules s.rules).slots.map fun p =>
    (p.1, config.classPrefix ++ toString (start + p.2))

/-- What a block is rendered as: its rules are printed with the texts that the values of its entries
have in a class, the method of which is its own. -/
structure Style.RendersAs (language : Language) (config : Config) (theme : Theme) (start : Int)
    (s : Style) (cls : StyleClass) (css : Text) : Prop where
  own : cls.writer = none
  printed : ∃ values texts,
    ((entriesOf s.rules).map Entry.value).mapM (cls.plainValueOf language theme start) =
        .ok values ∧
      values.mapM id = .ok texts ∧
      (Press.mk config (s.classNames config start) texts).sheet s.rules = some css

/-- Whether the values of a block stay in their parentheses and, as far as they can be read, do
nothing but give values or fail. -/
def Style.isPlain (language : Language) (s : Style) : Bool :=
  (entriesOf s.rules).all fun e => (Argument.value e.value).isEnclosed &&
    (language.read? s.signature.resultType e.value).all Code.isPlain

section
variable {config : Config} {s : Style} {c : CompiledStyle}

theorem CompiledStyle.From.classNames_eq (h : c.From config s) (start : Int) :
    c.classNames start = s.classNames config start := by
  rw [CompiledStyle.classNames, Style.classNames, h.table, h.config]

theorem CompiledStyle.From.slotCount_eq (h : c.From config s) : c.slotCount = s.slotCount := by
  rw [CompiledStyle.slotCount, Style.slotCount, h.table]

/-- The expressions of a template are the values of the entries of its block. -/
theorem CompiledStyle.From.expressions_eq (h : c.From config s) :
    c.template.expressions = (entriesOf s.rules).map Entry.value := (h.prints 0 []).expressions_eq

section
variable (h : c.From config s) {language : Language} {cls : StyleClass}
  (hread : StyleClass.ReadFrom language (ClassDef.ofCompiled c) cls)
include h hread

/-- The class of a block whose values only compute. -/
theorem CompiledStyle.From.isPlain_of_read (hplain : s.isPlain language = true) :
    cls.isPlain = true := by
  rw [StyleClass.isPlain, hread.all_holds]
  have hname : cls.definition.name = s.signature.resultType := by
    rw [hread.definition, ← h.signature]
    rfl
  intro source hmember
  obtain ⟨code, hfound, -⟩ := hread.readable source hmember
  rw [h.expressions_eq] at hmember
  obtain ⟨e, hinside, rfl⟩ := List.mem_map.1 hmember
  have hown := List.all_eq_true.1 hplain e hinside
  rw [← hname, hfound, Bool.and_eq_true] at hown
  exact ⟨code, hfound, hown.2⟩

/-- A class whose values only compute writes what its block is rendered as. -/
theorem CompiledStyle.From.generate_iff (hplain : cls.isPlain = true) {theme : Theme}
    {start stop : Int} {css : Text} :
    cls.generate theme start = .ok (css, stop) ↔
      s.RendersAs language config theme start cls css ∧ stop = start + s.slotCount := by
  obtain ⟨hstill, hrunning⟩ := StyleClass.isPlain_iff.1 hplain
  have hvalues := StyleClass.exec_valuesOf_of_inactive ((hread.all_holds _).1 hstill) theme start ""
  rw [← h.slotCount_eq, StyleClass.generate_eq_ok]
  constructor
  · intro hwrote
    have hown : cls.writer = none := by
      cases hwriter : cls.writer with
      | none => rfl
      | some v =>
        rw [StyleClass.call_of_writer hwriter] at hwrote
        cases hwrote
    rw [StyleClass.call_eq_body hown hrunning] at hwrote
    cases hevaluated : c.template.expressions.mapM (cls.plainValueOf language theme start) with
    | error e =>
      rw [hevaluated] at hvalues
      cases (hread.exec_body_of_failed hvalues).symm.trans hwrote
    | ok shown =>
      rw [hevaluated] at hvalues
      cases hprinted : shown.mapM id with
      | error e => cases (hread.exec_body_of_unprintable hvalues hprinted).symm.trans hwrote
      | ok texts =>
        obtain ⟨css', hrendered, hsame⟩ := hread.exec_body_of_texts hvalues hprinted
        rw [Text.empty_append] at hsame
        cases hsame.symm.trans hwrote
        refine ⟨⟨hown, shown, texts, h.expressions_eq ▸ hevaluated, hprinted, ?_⟩, rfl⟩
        rw [← h.classNames_eq, ← h.config]
        exact h.sheet_of_render hrendered
  · rintro ⟨⟨hown, shown, texts, hevaluated, hprinted, hsheet⟩, rfl⟩
    rw [h.expressions_eq, hevaluated, ← h.expressions_eq] at hvalues
    obtain ⟨css', hrendered, hsame⟩ := hread.exec_body_of_texts hvalues hprinted
    have hpressed := h.sheet_of_render hrendered
    rw [h.classNames_eq, h.config, hsheet] at hpressed
    cases hpressed
    rw [StyleClass.call_eq_body hown hrunning, hsame, Text.empty_append]

end
end

/-- Blocks and their classes, one after the other: each starts at the sum of the slot counts of
those before it, and its class can hand out its names. -/
structure Blocks (language : Language) (config : Config) (theme : Theme) (start : Int)
    (styles : List Style) (classes : List StyleClass) (sheets : List Text) : Prop where
  classCount : classes.length = styles.length
  sheetCount : sheets.length = styles.length
  block : ∀ k s cls css, styles[k]? = some s → classes[k]? = some cls → sheets[k]? = some css →
    let first := start + ((styles.take k).map Style.slotCount).sum
    s.RendersAs language config theme first cls css ∧ ∃ names, cls.fields first = .ok names

theorem blocks_cons {language : Language} {config : Config} {theme : Theme} {start : Int}
    {s : Style} {styles : List Style} {cls : StyleClass} {classes : List StyleClass}
    {sheets : List Text} :
    Blocks language config theme start (s :: styles) (cls :: classes) sheets ↔
      ∃ css others, sheets = css :: others ∧ s.RendersAs language config theme start cls css ∧
        (∃ names, cls.fields start = .ok names) ∧
        Blocks language config theme (start + s.slotCount) styles classes others := by
  constructor
  · rintro ⟨hsameClasses, hsameSheets, hblock⟩
    cases sheets with
    | nil => cases hsameSheets
    | cons css others =>
      obtain ⟨hrenders, hnamed⟩ := hblock 0 s cls css rfl rfl rfl
      simp only [List.take_zero, List.map_nil, List.sum_nil, Int.natCast_zero, Int.add_zero]
        at hrenders hnamed
      refine ⟨css, others, rfl, hrenders, hnamed, Nat.succ.inj hsameClasses,
        Nat.succ.inj hsameSheets, fun k s' cls' css' hs hcls hcss => ?_⟩
      have hlater := hblock (k + 1) s' cls' css' hs hcls hcss
      simp only [List.take_succ_cons, List.map_cons, List.sum_cons, Int.natCast_add,
        ← Int.add_assoc] at hlater
      exact hlater
  · rintro ⟨css, others, rfl, hrenders, hnamed, hsameClasses, hsameSheets, hblock⟩
    refine ⟨congrArg (· + 1) hsameClasses, congrArg (· + 1) hsameSheets,
      fun k s' cls' css' hs hcls hcss => ?_⟩
    cases k with
    | zero =>
      cases hs
      cases hcls
      cases hcss
      simpa using ⟨hrenders, hnamed⟩
    | succ k =>
      have hlater := hblock k s' cls' css' hs hcls hcss
      simp only [List.take_succ_cons, List.map_cons, List.sum_cons, Int.natCast_add,
        ← Int.add_assoc]
      exact hlater

/-! ### Classes on a page -/

/-- The texts that classes write one after the other, each of which hands out its names. -/
inductive StyleClass.Written (theme : Theme) : Int → List StyleClass → List Text → Prop where
  | nil {start : Int} : Written theme start [] []
  | cons {start stop : Int} {cls : StyleClass} {classes : List StyleClass} {css : Text}
      {sheets : List Text} {names : List (String × Text)}
      (hwrote : cls.generate theme start = .ok (css, stop)) (hnamed : cls.fields start = .ok names)
      (hrest : Written theme stop classes sheets) :
      Written theme start (cls :: classes) (css :: sheets)

theorem StyleClass.Written.unique {theme : Theme} {start : Int} {classes : List StyleClass}
    {sheets others : List Text} (h : Written theme start classes sheets)
    (hk : Written theme start classes others) : sheets = others := by
  induction h generalizing others with
  | nil =>
    cases hk
    rfl
  | cons hwrote hnamed hrest ih =>
    cases hk with
    | cons hwrote' hnamed' hrest' =>
      cases hwrote.symm.trans hwrote'
      rw [ih hrest']

theorem blocks_iff_written {language : Language} {config : Config} {styles : List Style}
    {compiled : List CompiledStyle} {classes : List StyleClass}
    (hblocks : List.Forall₂ (CompiledStyle.From config) styles compiled)
    (hread : List.Forall₂ (StyleClass.ReadFrom language) (compiled.map ClassDef.ofCompiled) classes)
    (hplain : ∀ cls ∈ classes, cls.isPlain = true)
    (theme : Theme) (start : Int) (sheets : List Text) :
    Blocks language config theme start styles classes sheets ↔
      StyleClass.Written theme start classes sheets := by
  rw [List.forall₂_map_left_iff] at hread
  induction hblocks generalizing classes start sheets with
  | nil =>
    cases hread
    constructor
    · rintro ⟨-, hnone, -⟩
      obtain rfl := List.length_eq_zero_iff.1 hnone
      exact .nil
    · intro h
      cases h
      exact ⟨rfl, rfl, fun _ _ _ _ hnone => nomatch hnone⟩
  | cons hfirst _ ih =>
    cases hread with
    | cons hown hothers =>
      obtain ⟨hplainly, hplain⟩ := List.forall_mem_cons.1 hplain
      rw [blocks_cons]
      constructor
      · rintro ⟨css, rest, rfl, hrenders, ⟨names, hnamed⟩, hlater⟩
        exact .cons ((hfirst.generate_iff hown hplainly).2 ⟨hrenders, rfl⟩) hnamed
          ((ih hothers hplain _ _).1 hlater)
      · intro h
        cases h with
        | cons hwrote hnamed hlater =>
          obtain ⟨hrenders, rfl⟩ := (hfirst.generate_iff hown hplainly).1 hwrote
          exact ⟨_, _, rfl, hrenders, ⟨_, hnamed⟩, (ih hothers hplain _ _).2 hlater⟩

/-- Blocks whose values only compute have classes of that kind. -/
theorem isPlain_of_blocks {language : Language} {config : Config} {styles : List Style}
    {compiled : List CompiledStyle} {classes : List StyleClass}
    (hblocks : List.Forall₂ (CompiledStyle.From config) styles compiled)
    (hread : List.Forall₂ (StyleClass.ReadFrom language) (compiled.map ClassDef.ofCompiled) classes)
    (hplain : ∀ s ∈ styles, s.isPlain language = true) : ∀ cls ∈ classes, cls.isPlain = true := by
  rw [List.forall₂_map_left_iff] at hread
  induction hblocks generalizing classes with
  | nil =>
    cases hread
    exact nofun
  | cons hfirst _ ih =>
    cases hread with
    | cons hown hothers =>
      obtain ⟨hplainly, hplain⟩ := List.forall_mem_cons.1 hplain
      exact List.forall_mem_cons.2 ⟨hfirst.isPlain_of_read hown hplainly, ih hothers hplain⟩

namespace Cli

/-- A provider on which some classes were mounted, and nobody listens. -/
structure Mounted (theme : Theme) (count : Nat) (start : Int) (css : Text) (s : Session) :
    Prop where
  here : 0 < s.providers.length
  stored : 0 < s.backends.length
  idle : (s.provider 0).busy = false
  backend : (s.provider 0).backend = 0
  theme : (s.provider 0).theme = theme
  counter : (s.provider 0).counter = start
  index : ∀ n, count < n → (s.provider 0).index.lookup (.compiled n) = none
  page : s.backend 0 = .memory css 0
  silent : s.bus.subscriptions = []

section
variable {theme : Theme} {count : Nat} {start : Int} {css : Text} {s : Session} {cls : StyleClass}

theorem mounted_renderSession (theme : Theme) : Mounted theme 0 0 "" (renderSession theme) :=
  ⟨Nat.one_pos, Nat.one_pos, rfl, rfl, rfl, rfl, fun _ _ => rfl, rfl, rfl⟩

theorem Mounted.absent (h : Mounted theme count start css s) {n : Nat} (hnew : count < n) :
    (s.provider 0).registered? (Mountable.compiled n cls).generator = none := by
  rw [Provider.registered?]
  show ((s.provider 0).index.lookup (.compiled n)).bind _ = none
  rw [h.index n hnew]
  rfl

theorem Mounted.mount_of_error (h : Mounted theme count start css s)
    (hstill : cls.isInactive = true) {e : EvalError} (hfailed : cls.generate theme start = .error e)
    (again : Step → Act Outcome) {n : Nat}
    (hnew : count < n) :
    ∃ t, exec (Provider.mountClass again 0 (.compiled n cls)) s = (.error (.eval e), t) := by
  have hcalled (t : Session) := exec_call_of_error again (g := (Mountable.compiled n cls).generator)
    rfl hstill hfailed (.page 0 0) t
  rw [← h.theme, ← h.counter] at hcalled
  have hended := Provider.exec_mount_of_failed again h.here h.idle h.backend h.page (h.absent hnew)
    hcalled
  exact ⟨_, exec_bind_of_error hended⟩

/-- What becomes of the session when a class gets its window and the end of the page. -/
theorem Mounted.register (h : Mounted theme count start css s) (g : Generator)
    (hidentity : g.identity = .compiled (count + 1)) (text : Text) (stop : Int)
    (lines : List LogLine) :
    Mounted theme (count + 1) stop (css ++ text)
      ((((s.countCall g.number).modifyBackend 0 (Backend.write 0 text)).modifyProvider 0 fun p =>
        { p with counter := stop, busy := false }.register g (s.provider 0).counter stop).addLogs
          lines) := by
  generalize hchanged : Session.addLogs _ lines = t
  have hprovider : t.provider 0 =
      { s.provider 0 with counter := stop, busy := false }.register g (s.provider 0).counter
        stop := by
    rw [← hchanged]
    exact Session.provider_modifyProvider_self _ h.here
  have hpage : t.backend 0 = Backend.write 0 text (s.backend 0) := by
    rw [← hchanged]
    exact Session.backend_modifyBackend_self _ h.stored
  refine ⟨?_, ?_, ?_, ?_, ?_, ?_, fun n hnew => ?_, ?_, ?_⟩
  · rw [← hchanged]
    exact Nat.lt_of_lt_of_eq h.here (Session.length_modifyProvider _ 0 _).symm
  · rw [← hchanged]
    exact Nat.lt_of_lt_of_eq h.stored (Session.length_modifyBackend _ 0 _).symm
  · rw [hprovider]
    rfl
  · rw [hprovider]
    exact h.backend
  · rw [hprovider]
    exact h.theme
  · rw [hprovider]
    rfl
  · have hother : (Identity.compiled n == g.identity) = false := by
      rw [hidentity, beq_eq_false_iff_ne]
      rintro hsame
      cases hsame
      exact Nat.lt_irrefl _ hnew
    rw [hprovider]
    show List.lookup (Identity.compiled n) ((g.identity, _) :: _) = none
    rw [List.lookup_cons, hother]
    exact h.index n (Nat.lt_of_succ_lt hnew)
  · rw [hpage, h.page]
    simp [Backend.write]
  · rw [← hchanged]
    exact h.silent

/-- A class that writes is mounted behind the others. -/
theorem Mounted.mount_of_ok (h : Mounted theme count start css s) {text : Text} {stop : Int}
    (hwrote : cls.generate theme start = .ok (text, stop)) (again : Step → Act Outcome) :
    ∃ t, exec (Provider.mountClass again 0 (.compiled (count + 1) cls)) s =
        ((cls.fields start).mapError .eval, t) ∧
      Mounted theme (count + 1) stop (css ++ text) t := by
  rw [← h.theme, ← h.counter] at hwrote
  have hmounted := Provider.exec_mount_of_ok again h.here h.idle h.backend h.page
    (h.absent (Nat.lt_succ_self count)) (g := (Mountable.compiled (count + 1) cls).generator) rfl
    hwrote
  obtain ⟨lines, htold⟩ := Provider.exec_tellMounted_of_silent again (i := 0)
    (s := ((s.countCall (count + 1)).modifyBackend 0 (Backend.write 0 text)).modifyProvider 0
      fun p => { p with counter := stop, busy := false }.register
        (Mountable.compiled (count + 1) cls).generator (s.provider 0).counter stop)
    h.silent (Mountable.compiled (count + 1) cls).generator (s.provider 0).counter stop
  refine ⟨_, ?_, h.register (Mountable.compiled (count + 1) cls).generator rfl text stop lines⟩
  rw [Provider.mountClass, exec_bind_of_ok (hmounted.trans htold), exec_ofExcept, h.counter]
  rfl

/-- Classes are mounted one after the other, up to the first that fails. -/
theorem Mounted.mountAll (h : Mounted theme count start css s) (classes : List StyleClass)
    {again : Step → Act Outcome} {result : Except Failure Unit} {t : Session}
    (hplain : ∀ cls ∈ classes, cls.isPlain = true)
    (hran : exec ((classes.zipIdx count).forM fun (c, i) =>
      discard (Provider.mountClass again 0 (.compiled (i + 1) c))) s = (result, t)) :
    (∃ sheets, StyleClass.Written theme start classes sheets ∧ result = .ok () ∧
        t.backend 0 = .memory (css ++ Text.join sheets) 0) ∨
      (∃ e, result = .error e) ∧ ∀ sheets, ¬ StyleClass.Written theme start classes sheets := by
  induction classes generalizing count start css s with
  | nil =>
    cases hran
    refine .inl ⟨[], .nil, rfl, ?_⟩
    show t.backend 0 = .memory (css ++ Text.ofString "") 0
    rw [Text.append_empty, h.page]
  | cons cls classes ih =>
    obtain ⟨hplainly, hplain⟩ := List.forall_mem_cons.1 hplain
    rw [List.zipIdx_cons, exec_forM_cons, exec_discard] at hran
    have hstopped {e : Failure} {u : Session}
        (hfailed : exec (Provider.mountClass again 0 (.compiled (count + 1) cls)) s =
          (.error e, u)) :
        result = .error e := by
      rw [hfailed] at hran
      cases hran
      rfl
    cases hwrote : cls.generate theme start with
    | error e =>
      obtain ⟨u, hfailed⟩ := h.mount_of_error (StyleClass.isPlain_iff.1 hplainly).1 hwrote again
        (Nat.lt_succ_self count)
      refine .inr ⟨⟨_, hstopped hfailed⟩, fun sheets hwritten => ?_⟩
      cases hwritten with
      | cons hwrote' hnamed hrest => cases hwrote.symm.trans hwrote'
    | ok p =>
      obtain ⟨text, stop⟩ := p
      obtain ⟨u, hmounted, hnow⟩ := h.mount_of_ok hwrote again
      cases hnamed : cls.fields start with
      | error e =>
        rw [hnamed] at hmounted
        refine .inr ⟨⟨_, hstopped hmounted⟩, fun sheets hwritten => ?_⟩
        cases hwritten with
        | cons hwrote' hnamed' hrest => cases hnamed.symm.trans hnamed'
      | ok names =>
        rw [hnamed] at hmounted
        rw [hmounted] at hran
        rcases ih hnow hplain hran with ⟨sheets, hwritten, hended, hpage⟩ | ⟨hfailed, hnone⟩
        · refine .inl ⟨text :: sheets, .cons hwrote hnamed hwritten, hended, ?_⟩
          rw [Text.join_cons, ← Text.append_assoc]
          exact hpage
        · refine .inr ⟨hfailed, fun sheets hwritten => ?_⟩
          cases hwritten with
          | cons hwrote' hnamed' hrest =>
            cases hwrote.symm.trans hwrote'
            exact hnone _ hrest

end

/-! ### Responses -/

/-- A response that tells a failure and prints nothing. -/
def Response.Fails (r : Response) : Prop := r.exitCode ≠ 0 ∧ r.stdout = ""

/-- A response that prints what is to be printed, or fails if nothing is. -/
def Response.Answers (r : Response) (wanted : String → Prop) : Prop :=
  r.exitCode = 0 ∧ wanted r.stdout ∨ r.Fails ∧ ∀ out, ¬ wanted out

section
variable {r : Response} {wanted other : String → Prop}

theorem Response.fails_fail (f : Failure) : (Response.fail f).Fails := ⟨Nat.one_ne_zero, rfl⟩

theorem Response.fails_refuse (message : String) : (Response.refuse message).Fails :=
  ⟨Nat.one_ne_zero, rfl⟩

theorem fails_usageError (c : Option CommandName) (fault : UsageFault) :
    (usageError c fault).Fails := ⟨nofun, rfl⟩

theorem Response.stdout_after (lines : String) : (r.after lines).stdout = r.stdout := rfl

theorem Response.Answers.after (h : r.Answers wanted) (lines : String) :
    (r.after lines).Answers wanted := h

theorem Response.Answers.congr (h : r.Answers wanted) (hsame : ∀ out, other out ↔ wanted out) :
    r.Answers other := by
  rcases h with ⟨hcode, hprinted⟩ | ⟨hfails, hnone⟩
  · exact .inl ⟨hcode, (hsame _).2 hprinted⟩
  · exact .inr ⟨hfails, fun out his => hnone out ((hsame out).1 his)⟩

theorem answers_printed (css : Text) : (printed css).Answers fun out => css = out := by
  rw [printed]
  cases hencoded : css.toString? with
  | some text => exact .inl ⟨rfl, (Text.eq_of_toString? hencoded).symm⟩
  | none =>
    refine .inr ⟨Response.fails_fail _, fun out hsame => ?_⟩
    rw [hsame] at hencoded
    cases hencoded

end

/-- Classes are mounted on one provider and its page is printed. -/
theorem answers_renderClasses (verbose : Bool) (theme : Theme) {classes : List StyleClass}
    (hplain : ∀ cls ∈ classes, cls.isPlain = true) :
    (renderClasses verbose false theme classes).Answers fun out =>
      ∃ sheets, StyleClass.Written theme 0 classes sheets ∧ Text.join sheets = out := by
  rw [renderClasses]
  cases hran : (mountAll classes).run.run (renderSession theme) with
  | mk result s =>
  have hdone := (mounted_renderSession theme).mountAll classes hplain hran
  refine Response.Answers.after ?_ _
  rcases hdone with ⟨sheets, hwritten, rfl, hpage⟩ | ⟨⟨e, rfl⟩, hnone⟩
  · rw [Text.empty_append] at hpage
    show (rendered false s).Answers _
    rw [rendered, hpage]
    refine (answers_printed (Text.join sheets)).congr fun out => ?_
    constructor
    · rintro ⟨others, hwritten', hsame⟩
      rw [hwritten.unique hwritten', hsame]
    · exact fun hsame => ⟨sheets, hwritten, hsame⟩
  · refine .inr ⟨?_, ?_⟩
    · dsimp only
      split
      · exact Response.fails_refuse _
      · exact Response.fails_fail _
    · rintro out ⟨sheets, hwritten, -⟩
      exact hnone sheets hwritten

/-! ### The command -/

/-- The theme that is asked for: none, or the object that a file has. -/
inductive ThemeGiven (look : String → FileEntry) : Option String → Theme → Prop where
  | none : ThemeGiven look none .empty
  | file {name text : String} {members : Members}
      (hread : readFile (look name) = .ok text)
      (hobject : Json.parse text = .ok (.object members)) :
      ThemeGiven look (some name) (.mapping members)

/-- What is to be printed for a source against a theme, both of which are in files: the blocks of
the source in order, with the default configuration, on slots that count from zero. -/
inductive Rendering (language : Language) (look : String → FileEntry) (source : String)
    (themeFile : Option String) (out : String) : Prop where
  | intro (theme : Theme) (text : String) (styles : List Style) (compiled : List CompiledStyle)
      (classes : List StyleClass) (sheets : List Text)
      (hgiven : ThemeGiven look themeFile theme) (hread : readFile (look source) = .ok text)
      (hparsed : parseStyles text = .ok styles)
      (haccepted : (Compile.source {} text).result = .ok compiled)
      (hloaded : StyleClass.loadWith language [] (compiled.map ClassDef.ofCompiled) = .ok classes)
      (hblocks : Blocks language {} theme 0 styles classes sheets)
      (hprinted : Text.join sheets = out) :
      Rendering language look source themeFile out

/-- The blocks of a source are of that kind. -/
def PlainSource (language : Language) (look : String → FileEntry) (source : String) : Prop :=
  ∀ text styles, readFile (look source) = .ok text → parseStyles text = .ok styles →
    ∀ s ∈ styles, s.isPlain language = true

section
variable {language : Language} {look : String → FileEntry} {source : String}
  {themeFile : Option String}

theorem themeOf_eq_ok_iff {theme : Theme} :
    themeOf (themeFile.map look) = .ok theme ↔ ThemeGiven look themeFile theme := by
  cases themeFile with
  | none =>
    constructor
    · intro h
      cases h
      exact .none
    · intro h
      cases h
      rfl
  | some name =>
    simp only [Option.map_some, themeOf]
    constructor
    · intro h
      cases hread : readFile (look name) with
      | error f =>
        rw [hread] at h
        cases h
      | ok text =>
        rw [hread] at h
        dsimp only at h
        split at h
        · cases h
        · rename_i members hobject
          cases h
          exact .file hread hobject
        · cases h
    · intro h
      cases h with
      | file hread hobject =>
        rw [hread]
        dsimp only
        rw [hobject]

theorem fails_of_themeOf {r : Response} (h : themeOf (themeFile.map look) = .error r) :
    r.Fails := by
  cases themeFile with
  | none => cases h
  | some name =>
    simp only [Option.map_some, themeOf] at h
    split at h
    · cases h
      exact Response.fails_fail _
    · split at h
      · cases h
        exact Response.fails_fail _
      · cases h
      · cases h
        exact Response.fails_refuse _

/-- What compiles and loads is rendered class by class, and nothing else is. -/
theorem answers_withCompiled (verbose : Bool) (theme : Theme) {text : String}
    (hplain : ∀ styles, parseStyles text = .ok styles → ∀ s ∈ styles, s.isPlain language = true) :
    (withCompiled verbose {} text fun styles =>
      match StyleClass.loadWith language [] (styles.map ClassDef.ofCompiled) with
      | .error e => .fail (.load e)
      | .ok classes => renderClasses verbose false theme classes).Answers fun out =>
    ∃ styles compiled classes sheets, parseStyles text = .ok styles ∧
      (Compile.source {} text).result = .ok compiled ∧
      StyleClass.loadWith language [] (compiled.map ClassDef.ofCompiled) = .ok classes ∧
      Blocks language {} theme 0 styles classes sheets ∧ Text.join sheets = out := by
  refine Response.Answers.after ?_ _
  cases hresult : (Compile.source {} text).result with
  | error e =>
    refine .inr ⟨?_, ?_⟩
    · cases e with
      | unknownClassname n => exact Response.fails_fail _
      | parse e => exact Response.fails_refuse _
      | invalid ds => exact Response.fails_refuse _
    · rintro out ⟨_, _, _, _, -, hcompiled, -⟩
      cases hcompiled
  | ok compiled =>
    dsimp only
    cases hloaded : StyleClass.loadWith language [] (compiled.map ClassDef.ofCompiled) with
    | error e =>
      refine .inr ⟨Response.fails_fail _, ?_⟩
      rintro out ⟨_, _, _, _, -, hsame, hloaded', -⟩
      cases hsame
      cases hloaded.symm.trans hloaded'
    | ok classes =>
      obtain ⟨styles, hparsed, hblocks⟩ := Compile.from_of_source hresult
      have hread := StyleClass.readFrom_of_load hloaded (StyleClass.readBack_of_source hresult)
      have hplainly := isPlain_of_blocks hblocks hread (hplain styles hparsed)
      refine (answers_renderClasses verbose theme hplainly).congr fun out => ?_
      have hwritten := blocks_iff_written hblocks hread hplainly theme 0
      constructor
      · rintro ⟨styles', _, classes', sheets, hparsed', hsame, hloaded', hall, hprinted⟩
        cases hsame
        cases hparsed.symm.trans hparsed'
        cases hloaded.symm.trans hloaded'
        exact ⟨sheets, (hwritten sheets).1 hall, hprinted⟩
      · rintro ⟨sheets, hall, hprinted⟩
        exact ⟨styles, compiled, classes, sheets, hparsed, rfl, hloaded, (hwritten sheets).2 hall,
          hprinted⟩

theorem answers_render (verbose : Bool) (hplain : PlainSource language look source) :
    (render language verbose false (themeFile.map look) (look source)).Answers
      (Rendering language look source themeFile) := by
  rw [render]
  cases hthemed : themeOf (themeFile.map look) with
  | error r =>
    refine .inr ⟨fails_of_themeOf hthemed, ?_⟩
    rintro out ⟨theme, _, _, _, _, _, hgiven, -⟩
    rw [themeOf_eq_ok_iff.2 hgiven] at hthemed
    cases hthemed
  | ok theme =>
    dsimp only
    rw [withText]
    cases hread : readFile (look source) with
    | error f =>
      refine .inr ⟨Response.fails_fail _, ?_⟩
      rintro out ⟨_, text, _, _, _, _, -, hread', -⟩
      cases hread.symm.trans hread'
    | ok text =>
      refine (answers_withCompiled verbose theme fun styles hparsed =>
        hplain text styles hread hparsed).congr fun out => ?_
      constructor
      · rintro ⟨_, _, styles, compiled, classes, sheets, hgiven, hread', hparsed, haccepted,
          hloaded, hblocks, hprinted⟩
        cases hread.symm.trans hread'
        cases (themeOf_eq_ok_iff.2 hgiven).symm.trans hthemed
        exact ⟨styles, compiled, classes, sheets, hparsed, haccepted, hloaded, hblocks, hprinted⟩
      · rintro ⟨styles, compiled, classes, sheets, hparsed, haccepted, hloaded, hblocks, hprinted⟩
        exact ⟨theme, text, styles, compiled, classes, sheets, themeOf_eq_ok_iff.1 hthemed, hread,
          hparsed, haccepted, hloaded, hblocks, hprinted⟩

/-! ### The command line -/

theorem requireFile_of_read {name text : String} (hread : readFile (look name) = .ok text)
    (parameter : String) : requireFile look parameter name = .ok () := by
  rw [requireFile]
  cases hentry : look name with
  | text body => rfl
  | undecodable => rfl
  | _ =>
    rw [hentry] at hread
    cases hread

/-- The words that ask for a theme. -/
def themeWords (themeFile : Option String) : List String :=
  themeFile.elim [] fun name => ["--theme", name]

def themeGiven (themeFile : Option String) : List Given :=
  (themeFile.map fun name => ⟨themeFlag, name⟩).toList

theorem readLine_word {flags : List Flag} {mixed : Bool} {first : String}
    (hword : isFlagWord first = false) (others : List String) :
    readLine flags mixed (first :: others) =
      if mixed then (readLine flags mixed others).map fun c => { c with words := first :: c.words }
      else .ok { words := first :: others } := by
  have hopen : first ≠ "--" := by
    rintro rfl
    exact absurd hword (by decide)
  rw [readLine.eq_def]
  dsimp only
  rw [if_neg hopen, hword]
  rfl

theorem readLine_render (hword : isFlagWord source = false) :
    readLine (flagsOf .render) true (source :: themeWords themeFile) =
      .ok ⟨themeGiven themeFile, [source]⟩ := by
  rw [readLine_word hword, if_pos rfl]
  cases themeFile <;> rfl

/-- The command is found and its line is read; what is left is its own work. -/
theorem respond_render (hword : isFlagWord source = false) :
    respond language look ("render" :: source :: themeWords themeFile) =
      match sourceOf look ⟨themeGiven themeFile, [source]⟩ with
      | .error (.usage fault) => usageError (some .render) fault
      | .error (.failure f) => .fail f
      | .ok source => render language false false (themeFile.map look) (look source) := by
  rw [respond, readLine_word (by decide)]
  show runCommand language look false .render (source :: themeWords themeFile) = _
  rw [runCommand, readLine_render hword]
  cases themeFile <;> rfl

/-- The file of the theme is looked for first, then the source. -/
theorem sourceOf_render (look : String → FileEntry) (source : String) (themeFile : Option String) :
    sourceOf look ⟨themeGiven themeFile, [source]⟩ = do
      themeFile.elim (.ok ()) (requireFile look "'--theme'")
      requireFile look "'SOURCE'" source
      return source := by
  cases themeFile with
  | none => rfl
  | some name =>
    have hchecked : checkFlag look ⟨themeGiven (some name), [source]⟩ "--theme" =
        requireFile look "'--theme'" name := rfl
    have honce : givenNames ⟨themeGiven (some name), [source]⟩ = ["--theme"] := rfl
    have honly : ["--theme"].forM (checkFlag look ⟨themeGiven (some name), [source]⟩) =
        requireFile look "'--theme'" name := by
      rw [List.forM, hchecked]
      exact bind_pure _
    rw [sourceOf, honce, honly]
    rfl

/-- Files that can be read are not refused. -/
theorem sourceOf_of_read {theme : Theme} {text : String} (hgiven : ThemeGiven look themeFile theme)
    (hread : readFile (look source) = .ok text) :
    sourceOf look ⟨themeGiven themeFile, [source]⟩ = .ok source := by
  rw [sourceOf_render, requireFile_of_read hread]
  cases hgiven with
  | none => rfl
  | file hread _ =>
    rw [Option.elim, requireFile_of_read hread]
    rfl

/-- Only the source that was named is taken. -/
theorem eq_of_sourceOf {found : String}
    (h : sourceOf look ⟨themeGiven themeFile, [source]⟩ = .ok found) : found = source := by
  rw [sourceOf_render] at h
  obtain ⟨_, -, h⟩ := bind_eq_ok.1 h
  obtain ⟨_, -, h⟩ := bind_eq_ok.1 h
  cases h
  rfl

theorem answers_respond (hword : isFlagWord source = false)
    (hplain : PlainSource language look source) :
    (respond language look ("render" :: source :: themeWords themeFile)).Answers
      (Rendering language look source themeFile) := by
  rw [respond_render hword]
  cases htaken : sourceOf look ⟨themeGiven themeFile, [source]⟩ with
  | ok found =>
    rw [eq_of_sourceOf htaken]
    exact answers_render false hplain
  | error refusal =>
    refine .inr ⟨?_, ?_⟩
    · cases refusal with
      | usage fault => exact fails_usageError _ _
      | failure f => exact Response.fails_fail _
    · rintro out ⟨_, _, _, _, _, _, hgiven, hread, -⟩
      cases htaken.symm.trans (sourceOf_of_read hgiven hread)

/-- What is compiled and loaded is rendered class by class. -/
theorem respond_of_loaded (hword : isFlagWord source = false) {theme : Theme} {text : String}
    {compiled : List CompiledStyle} {classes : List StyleClass}
    (hgiven : ThemeGiven look themeFile theme) (hread : readFile (look source) = .ok text)
    (haccepted : (Compile.source {} text).result = .ok compiled)
    (hloaded : StyleClass.loadWith language [] (compiled.map ClassDef.ofCompiled) = .ok classes) :
    respond language look ("render" :: source :: themeWords themeFile) =
      (renderClasses false false theme classes).after
        (shownLogs false (Compile.source {} text).logs) := by
  rw [respond_render hword, sourceOf_of_read hgiven hread]
  dsimp only
  rw [render, themeOf_eq_ok_iff.2 hgiven]
  dsimp only
  rw [withText, hread]
  dsimp only
  rw [withCompiled, haccepted]
  dsimp only
  rw [hloaded]

end

/-- Rendering a source whose values do nothing but give values or fail, perhaps against the theme of
a file: the command ends well, and what it prints are its blocks in order, each rendered with the
default configuration from the slot that comes behind those of the blocks before it; or it fails,
and then it prints nothing and there is nothing to be rendered. -/
theorem render_prints_blocks (language : Language) (look : String → FileEntry) (source : String)
    (themeFile : Option String) (hword : isFlagWord source = false)
    (hplain : PlainSource language look source) :
    let r := respond language look ("render" :: source :: themeWords themeFile)
    r.exitCode = 0 ∧ Rendering language look source themeFile r.stdout ∨
      r.exitCode ≠ 0 ∧ r.stdout = "" ∧
        ∀ out, ¬ Rendering language look source themeFile out := by
  intro r
  have hanswers : r.Answers (Rendering language look source themeFile) :=
    answers_respond hword hplain
  rcases hanswers with hdone | ⟨⟨hcode, hempty⟩, hnone⟩
  · exact .inl hdone
  · exact .inr ⟨hcode, hempty, hnone⟩

/-- Two blocks, of which only the second reads the theme. -/
def twoBlocks : String :=
  "(t: T) -> A \x7b a \x7b x: 1 \x7d \x7d (t: T) -> B \x7b b \x7b y: t.w \x7d \x7d"

/-- The two blocks, and a theme that has what the second reads. -/
def twoFiles (name : String) : FileEntry :=
  if name = "two.style" then .text twoBlocks
  else if name = "wide.json" then .text "\x7b\"w\": \"s\"\x7d"
  else .absent

def twoSheets : String := ".css-0 \x7b x: 1; \x7d\n.css-1 \x7b y: s; \x7d\n"

theorem readFile_twoBlocks : readFile (twoFiles "two.style") = .ok twoBlocks := by
  cbv

theorem themeGiven_twoFiles :
    ThemeGiven twoFiles (some "wide.json") (.mapping [("w", .text "s")]) := by
  have hread : readFile (twoFiles "wide.json") = .ok "\x7b\"w\": \"s\"\x7d" := by cbv
  exact .file hread (by cbv)

theorem renderClasses_twoBlocks : ∃ compiled classes,
    StyleClass.Loads .basic [] {} twoBlocks compiled classes ∧
    (renderClasses false false (.mapping [("w", .text "s")]) classes).exitCode = 0 ∧
    (renderClasses false false (.mapping [("w", .text "s")]) classes).stdout = twoSheets ∧
    (renderClasses false false .empty classes).exitCode = 1 :=
  ⟨_, _, ⟨by cbv, by cbv, by cbv, by cbv⟩, rfl, by cbv, rfl⟩

theorem plainSource_twoBlocks : PlainSource .basic twoFiles "two.style" := by
  obtain ⟨styles, hparsed, hplain⟩ : ∃ styles, parseStyles twoBlocks = .ok styles ∧
      styles.all (·.isPlain .basic) = true := ⟨_, by cbv, by cbv⟩
  intro text styles' hread hparsed'
  cases readFile_twoBlocks.symm.trans hread
  cases hparsed.symm.trans hparsed'
  exact List.all_eq_true.1 hplain

/-- With the theme both blocks are printed; without it the second fails, and the first is not
printed either. -/
theorem render_prints_blocks_twoBlocks :
    isFlagWord "two.style" = false ∧
      PlainSource .basic twoFiles "two.style" ∧
      (respond .basic twoFiles ["render", "two.style", "--theme", "wide.json"]).exitCode = 0 ∧
      Rendering .basic twoFiles "two.style" (some "wide.json") twoSheets ∧
      (respond .basic twoFiles ["render", "two.style"]).stdout = "" ∧
      ∀ out, ¬ Rendering .basic twoFiles "two.style" none out := by
  have hword : isFlagWord "two.style" = false := by decide
  obtain ⟨compiled, classes, hloads, hcode, hprinted, hfailed⟩ := renderClasses_twoBlocks
  have hwide := respond_of_loaded hword themeGiven_twoFiles readFile_twoBlocks hloads.accepted
    hloads.loaded
  have hbare := respond_of_loaded hword .none readFile_twoBlocks hloads.accepted hloads.loaded
  refine ⟨hword, plainSource_twoBlocks, ?_⟩
  rcases render_prints_blocks .basic twoFiles "two.style" (some "wide.json") hword
    plainSource_twoBlocks with ⟨hends, hrendering⟩ | ⟨hfails, -⟩
  · rcases render_prints_blocks .basic twoFiles "two.style" none hword plainSource_twoBlocks with
      ⟨hends', -⟩ | ⟨-, hnothing⟩
    · rw [hbare] at hends'
      cases hfailed.symm.trans hends'
    · rw [hwide, Response.stdout_after, hprinted] at hrendering
      exact ⟨hends, hrendering, hnothing⟩
  · rw [hwide] at hfails
    exact absurd hcode hfails

/-- A block with a value that writes to the sink itself. -/
def writingFile (name : String) : FileEntry :=
  if name = "w.style" then .text writingBlock else .absent

/-- What the value writes is printed before what the block is rendered as. -/
theorem written_value_printed : ∃ c css, (Compile.source {} writingBlock).result = .ok [c] ∧
    c.template.render 0 ["3"] = .ok css ∧
    let r := respond .basic writingFile ["render", "w.style"]
    r.exitCode = 0 ∧ Text.ofString r.stdout = Text.ofString "boo" ++ css := by
  obtain ⟨c, cls, css, hloads, hrendered, hends, hprinted⟩ : ∃ c cls css,
      StyleClass.Loads .basic [] {} writingBlock [c] [cls] ∧ c.template.render 0 ["3"] = .ok css ∧
      (renderClasses false false .empty [cls]).exitCode = 0 ∧
      Text.ofString (renderClasses false false .empty [cls]).stdout = Text.ofString "boo" ++ css :=
    ⟨_, _, _, ⟨by cbv, by cbv, by cbv, by cbv⟩, by cbv, by cbv, by cbv⟩
  have hread : readFile (writingFile "w.style") = .ok writingBlock := by cbv
  have hresponse := respond_of_loaded (by decide) .none hread hloads.accepted hloads.loaded
  refine ⟨c, css, hloads.accepted, hrendered, ?_⟩
  rw [show ["render", "w.style"] = "render" :: "w.style" :: themeWords none from rfl, hresponse]
  exact ⟨hends, hprinted⟩

end Cli
end ScopedCss

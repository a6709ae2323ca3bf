import ScopedCss.Cli.Command
import ScopedCss.Proofs.Printing

/-! Checking and compiling come to one verdict. A check tells the errors of all blocks and those
between blocks last; compilation looks between blocks first and then stops at the first block with
an error. Both refuse the same sources, and behind the checks nothing is left that could fail. -/
namespace ScopedCss

/-- The findings about a block that stop its compilation. -/
def errorsOf (s : Style) : List Diagnostic := (validate [] s).filter Diagnostic.isError

/-- The errors that blocks are refused with: those about result types that blocks share or, if there
are none, those of the first block that has any. -/
inductive RefusedWith (ss : List Style) : List Diagnostic → Prop
  | shared (h : Check.uniqueResultTypes ss ≠ []) : RefusedWith ss (Check.uniqueResultTypes ss)
  | block {before after : List Style} {s : Style} (hunique : Check.uniqueResultTypes ss = [])
      (hsplit : ss = before ++ s :: after) (hclean : ∀ b ∈ before, errorsOf b = [])
      (h : errorsOf s ≠ []) : RefusedWith ss (errorsOf s)

/-! ### Errors of a module -/

section
variable {ss : List Style} {errors : List Diagnostic}

theorem isError_uniqueResultTypes : ∀ d ∈ Check.uniqueResultTypes ss, d.isError := by
  intro d hd
  obtain ⟨s, -, rfl⟩ := List.mem_map.1 hd
  rfl

/-- The errors of a module: block by block, then those between blocks. -/
theorem errors_validateModule (ss : List Style) :
    (validateModule [] ss).filter Diagnostic.isError =
      ss.flatMap errorsOf ++ Check.uniqueResultTypes ss := by
  rw [validateModule, List.filter_append, List.filter_flatMap,
    List.filter_eq_self.2 isError_uniqueResultTypes]
  rfl

theorem validateModule_clean_iff :
    (∀ d ∈ validateModule [] ss, d.isError = false) ↔
      Check.uniqueResultTypes ss = [] ∧ ∀ s ∈ ss, errorsOf s = [] := by
  have hnil : (∀ d ∈ validateModule [] ss, d.isError = false) ↔
      (validateModule [] ss).filter Diagnostic.isError = [] := by simp
  rw [hnil, errors_validateModule, List.append_eq_nil_iff, List.flatMap_eq_nil_iff, and_comm]

theorem RefusedWith.ne_nil (h : RefusedWith ss errors) : errors ≠ [] := by
  cases h with
  | shared h => exact h
  | block _ _ _ h => exact h

/-- What blocks are refused with is among what a check tells of them, in the same order. -/
theorem RefusedWith.sublist (h : RefusedWith ss errors) :
    errors.Sublist ((validateModule [] ss).filter Diagnostic.isError) := by
  rw [errors_validateModule]
  cases h with
  | shared => exact List.sublist_append_right _ _
  | @block before after s _ hsplit =>
    have hmem : errorsOf s ∈ ss.map errorsOf := List.mem_map_of_mem (by simp [hsplit])
    exact (List.sublist_flatten_of_mem hmem).trans (List.sublist_append_left _ _)

/-- If some block has errors, one is the first that has. -/
theorem exists_first_errors (h : ∃ s ∈ ss, errorsOf s ≠ []) :
    ∃ before s after, ss = before ++ s :: after ∧ (∀ b ∈ before, errorsOf b = []) ∧
      errorsOf s ≠ [] := by
  induction ss with
  | nil => simp at h
  | cons t ss ih =>
    by_cases ht : errorsOf t = []
    · obtain ⟨before, s, after, rfl, hclean, hs⟩ := ih (by simpa [ht] using h)
      exact ⟨t :: before, s, after, rfl, List.forall_mem_cons.2 ⟨ht, hclean⟩, hs⟩
    · exact ⟨[], t, ss, rfl, by simp, ht⟩

/-- Blocks are refused exactly if a check tells an error of them. -/
theorem exists_refusedWith_iff :
    (∃ errors, RefusedWith ss errors) ↔ ¬ ∀ d ∈ validateModule [] ss, d.isError = false := by
  rw [validateModule_clean_iff]
  constructor
  · rintro ⟨_, ⟨h⟩ | ⟨-, rfl, -, h⟩⟩ ⟨hunique, hclean⟩
    · exact h hunique
    · exact h (hclean _ (by simp))
  · intro h
    by_cases hunique : Check.uniqueResultTypes ss = []
    · have hsome : ∃ s ∈ ss, errorsOf s ≠ [] := by simpa [hunique] using h
      obtain ⟨before, s, after, hsplit, hclean, hs⟩ := exists_first_errors hsome
      exact ⟨_, .block hunique hsplit hclean hs⟩
    · exact ⟨_, .shared hunique⟩

end

/-! ### Compilation -/

namespace Compile

/-- The table of a block has all the slots that its template asks for. -/
theorem exists_assemble (config : Config) (rules : List Rule) :
    ∃ t, Template.assemble (SlotTable.ofRules rules) config rules = .ok t := by
  let c : CompiledStyle := ⟨{}, SlotTable.ofRules rules, .empty, config⟩
  obtain ⟨t, ht, -⟩ := Press.prints_rules (c.numbers_classNames 0 []) 0 rules
    (SlotTable.covers_ofRules rules)
  exact ⟨t, ht⟩

theorem refuseErrors_validate (s : Style) :
    refuseErrors (validate [] s) =
      if errorsOf s = [] then .ok (validate [] s) else .error (errorsOf s) := by
  unfold refuseErrors errorsOf
  by_cases h : (validate [] s).any Diagnostic.isError
  · have hne : (validate [] s).filter Diagnostic.isError ≠ [] := by simpa using h
    rw [if_pos h, if_neg hne]
  · have hnil : (validate [] s).filter Diagnostic.isError = [] := by simpa using h
    rw [if_neg h, if_pos hnil]

theorem style_of_clean (config : Config) {s : Style} (h : errorsOf s = []) :
    ∃ c, (style config s).result = .ok c := by
  obtain ⟨t, ht⟩ := exists_assemble config s.rules
  simp only [style, refuseErrors_validate, if_pos h, ht]
  exact ⟨_, rfl⟩

theorem style_of_errors (config : Config) {s : Style} (h : errorsOf s ≠ []) :
    (style config s).result = .error (.invalid (errorsOf s)) := by
  simp only [style, refuseErrors_validate, if_neg h]

theorem styles_cons_of_ok {config : Config} {s : Style} {c : CompiledStyle}
    (h : (style config s).result = .ok c) (ss : List Style) :
    (styles config (s :: ss)).result = (styles config ss).result.map (c :: ·) := by
  rw [styles]
  split
  next heq => simp [heq] at h
  next heq =>
    rw [heq] at h
    cases h
    rfl

theorem styles_cons_of_error {config : Config} {s : Style} {e : CompileError}
    (h : (style config s).result = .error e) (ss : List Style) :
    (styles config (s :: ss)).result = .error e := by
  rw [styles]
  split
  next heq =>
    rw [heq] at h
    cases h
    rfl
  next heq => simp [heq] at h

theorem styles_of_clean (config : Config) {ss : List Style} (h : ∀ s ∈ ss, errorsOf s = []) :
    ∃ cs, (styles config ss).result = .ok cs := by
  induction ss with
  | nil => exact ⟨[], rfl⟩
  | cons s ss ih =>
    obtain ⟨hs, hothers⟩ := List.forall_mem_cons.1 h
    obtain ⟨c, hc⟩ := style_of_clean config hs
    obtain ⟨cs, hcs⟩ := ih hothers
    exact ⟨c :: cs, by rw [styles_cons_of_ok hc, hcs]; rfl⟩

/-- The first block with errors ends the compilation. -/
theorem styles_of_errors (config : Config) {before : List Style} {s : Style}
    (hclean : ∀ b ∈ before, errorsOf b = []) (h : errorsOf s ≠ []) (after : List Style) :
    (styles config (before ++ s :: after)).result = .error (.invalid (errorsOf s)) := by
  induction before with
  | nil => exact styles_cons_of_error (style_of_errors config h) after
  | cons b before ih =>
    obtain ⟨hb, hothers⟩ := List.forall_mem_cons.1 hclean
    obtain ⟨c, hc⟩ := style_of_clean config hb
    rw [List.cons_append, styles_cons_of_ok hc, ih hothers]
    rfl

section
variable {text : String} {ss : List Style} (hparsed : parseStyles text = .ok ss) (config : Config)
include hparsed

theorem source_of_clean (h : ∀ d ∈ validateModule [] ss, d.isError = false) :
    ∃ cs, (source config text).result = .ok cs := by
  obtain ⟨hunique, hclean⟩ := validateModule_clean_iff.1 h
  simp only [source, hparsed, hunique]
  exact styles_of_clean config hclean

theorem source_of_refused {errors : List Diagnostic} (h : RefusedWith ss errors) :
    (source config text).result = .error (.invalid errors) := by
  simp only [source, hparsed]
  cases h with
  | shared h =>
    split
    next hunique => exact absurd hunique h
    next => rfl
  | block hunique hsplit hclean h =>
    rw [hunique, hsplit]
    exact styles_of_errors config hclean h _

end

theorem source_of_unparsed {text : String} {e : ParseError} (h : parseStyles text = .error e)
    (config : Config) : (source config text).result = .error (.parse e) := by
  simp only [source, h]

end Compile

/-! ### The command -/

namespace Cli

variable {text : String} {entry : FileEntry} (hread : readFile entry = .ok text) (name : String)
include hread

theorem check_of_unparsed {e : ParseError} (h : parseStyles text = .error e) :
    check name entry = .refuse ("Parse error: " ++ e.message) := by
  simp only [check, withText, hread, h]

theorem exitCode_check {ss : List Style} (hparsed : parseStyles text = .ok ss) :
    (check name entry).exitCode = 0 ↔ ∀ d ∈ validateModule [] ss, d.isError = false := by
  simp only [check, withText, hread, hparsed]
  split
  next hnone => simp [hnone]
  next => simp

end Cli

/-- A source is compiled exactly if a check of it tells no error, that is, if the command that
checks it exits with 0. A source that cannot be parsed is refused by both for the same reason, and
one with errors for some of the errors that the check tells. Compilation fails for no other
reason. -/
theorem compile_verdict (config : Config) (text : String) :
    let result := (Compile.source config text).result
    let sound := ∃ ss, parseStyles text = .ok ss ∧ ∀ d ∈ validateModule [] ss, d.isError = false
    ((∃ cs, result = .ok cs) ↔ sound) ∧
    (∀ name entry, Cli.readFile entry = .ok text →
      ((Cli.check name entry).exitCode = 0 ↔ sound)) ∧
    (∀ e, parseStyles text = .error e → result = .error (.parse e) ∧
      ∀ name entry, Cli.readFile entry = .ok text →
        Cli.check name entry = .refuse ("Parse error: " ++ e.message)) ∧
    (∀ ss, parseStyles text = .ok ss → ¬ sound →
      ∃ errors, result = .error (.invalid errors) ∧ RefusedWith ss errors ∧ errors ≠ [] ∧
        errors.Sublist ((validateModule [] ss).filter Diagnostic.isError)) ∧
    ∀ n, result ≠ .error (.unknownClassname n) := by
  intro result sound
  cases hparsed : parseStyles text with
  | error e =>
    have hresult : result = .error (.parse e) := Compile.source_of_unparsed hparsed config
    have hsound : ¬ sound := by simp [sound, hparsed]
    refine ⟨by simp [hresult, hsound], fun name entry hread => ?_, ?_, by simp, by simp [hresult]⟩
    · simp [Cli.check_of_unparsed hread name hparsed, Cli.Response.refuse, hsound]
    · rintro _ ⟨⟩
      exact ⟨hresult, fun name entry hread => Cli.check_of_unparsed hread name hparsed⟩
  | ok ss =>
    have hsound : sound ↔ ∀ d ∈ validateModule [] ss, d.isError = false := by
      simp [sound, hparsed]
    have hcheck : ∀ name entry, Cli.readFile entry = .ok text →
        ((Cli.check name entry).exitCode = 0 ↔ sound) := fun name entry hread =>
      (Cli.exitCode_check hread name hparsed).trans hsound.symm
    by_cases hclean : sound
    · obtain ⟨cs, hcs⟩ := Compile.source_of_clean hparsed config (hsound.1 hclean)
      have hresult : result = .ok cs := hcs
      exact ⟨by simp [hresult, hclean], hcheck, by simp, fun _ _ h => absurd hclean h,
        by simp [hresult]⟩
    · obtain ⟨errors, hrefused⟩ := exists_refusedWith_iff.2 fun h => hclean (hsound.2 h)
      have hresult : result = .error (.invalid errors) :=
        Compile.source_of_refused hparsed config hrefused
      refine ⟨by simp [hresult, hclean], hcheck, by simp, ?_, by simp [hresult]⟩
      rintro _ ⟨⟩ -
      exact ⟨errors, hresult, hrefused, hrefused.ne_nil, hrefused.sublist⟩

end ScopedCss

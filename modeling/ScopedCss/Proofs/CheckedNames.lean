import ScopedCss.Proofs.Captures
import ScopedCss.Proofs.CompiledBlocks
import ScopedCss.Proofs.Selectors

/-!
The names of blocks that are compiled. The type in a signature is only read, as words with dots
between them; the other names go through checks. Main statement: what is known of the names in every
block of a source that is compiled.
-/
namespace ScopedCss

open Text (isBindable isIdentifier isWordStart isWordChar)

/-! ### Types in signatures -/

namespace Source

/-- One or more words with dots between them. -/
def IsPath (type : String) : Prop :=
  ∃ path, path ≠ [] ∧ (∀ w ∈ path, IsName w) ∧ type = Reader.dotted path

/-- The words of a type, or the type itself, in what has been read of a block. -/
def Stage.Typed : Stage → Prop
  | .themeType _ path => ∀ w ∈ path, IsName w
  | .themeDot _ path | .arrow _ path | .resultType _ path => path ≠ [] ∧ ∀ w ∈ path, IsName w
  | .body s => IsPath s.themeType
  | .item s | .head _ s | .separator s | .value _ _ _ s => IsPath s.signature.themeType
  | .outside | .themeVar | .themeColon _ => True

structure Reader.Typed (r : Reader) : Prop where
  done : ∀ b ∈ r.done, IsPath b.signature.themeType
  stage : r.stage.Typed

theorem Reader.typed_start : Reader.start.Typed := ⟨by simp [Reader.start], trivial⟩

theorem isPath_default : IsPath ({} : Signature).themeType := by
  have hname : IsName "EmptyTheme".toList := by decide
  exact ⟨["EmptyTheme".toList], by simp, by simpa using hname, rfl⟩

theorem Reader.typed_close {done : List Block} {s : Scope}
    (hread : ∀ b ∈ done, IsPath b.signature.themeType) (h : IsPath s.signature.themeType) :
    (Reader.close done s).Typed := by
  cases s with
  | block signature items =>
    refine ⟨fun b hmember => ?_, trivial⟩
    rcases List.mem_append.1 hmember with hold | hnew
    · exact hread b hold
    · rw [List.mem_singleton.1 hnew]
      exact h
  | rule head items outer =>
    refine ⟨hread, ?_⟩
    show IsPath (outer.add _).signature.themeType
    rw [Scope.signature_add]
    exact h

/-- A token goes on with a type by a word of its own. -/
theorem Reader.Typed.step {r r' : Reader} {gap : List Char} {t : Token} (h : r.Typed)
    (hword : t.terminal = .name → IsName t.text) (hstep : r.step gap t = some r') : r'.Typed := by
  obtain ⟨done, stage⟩ := r
  obtain ⟨hread, htyped⟩ := h
  by_cases hv : ∃ property pieces c s, stage = .value property pieces c s
  · obtain ⟨property, pieces, c, s, rfl⟩ := hv
    have hadded : IsPath (s.add (.entry property (Reader.joined pieces))).signature.themeType := by
      rw [Scope.signature_add]
      exact htyped
    rcases step_value_cases hstep with ⟨c', -, rfl⟩ | ⟨-, -, ⟨-, rfl⟩ | ⟨-, rfl⟩⟩
    · exact ⟨hread, htyped⟩
    · exact ⟨hread, hadded⟩
    · exact Reader.typed_close hread hadded
  · simp only [Reader.step] at hstep
    split at hstep
    case h_18 => exact absurd ⟨_, _, _, _, rfl⟩ hv
    all_goals cases hstep
    case h_1 => exact ⟨hread, isPath_default⟩
    case h_2 | h_3 => exact ⟨hread, trivial⟩
    case h_4 => exact ⟨hread, by simp [Stage.Typed]⟩
    case h_5 hname =>
      refine ⟨hread, by simp, fun w hmember => ?_⟩
      rcases List.mem_append.1 hmember with hold | hnew
      · exact htyped w hold
      · rw [List.mem_singleton.1 hnew]
        exact hword hname
    case h_6 => exact ⟨hread, htyped.2⟩
    case h_9 => exact ⟨hread, _, htyped.1, htyped.2, rfl⟩
    case h_13 | h_17 => exact Reader.typed_close hread htyped
    all_goals exact ⟨hread, htyped⟩

theorem Reader.Typed.readFrom {r : Reader} {last here : Location} {cs : List Char}
    {blocks : List Block} (h : r.Typed) (hread : Source.readFrom r last here cs = .ok blocks) :
    ∀ b ∈ blocks, IsPath b.signature.themeType := by
  refine readFrom_induction (motive := fun r _ _ _ => r.Typed →
    ∀ b ∈ blocks, IsPath b.signature.themeType) ?_ ?_ hread h
  · rintro r _ _ _ - - rfl htyped
    exact htyped.done
  · intro r _ _ _ gap c rest cut r' _ hscanned hstep _ ih htyped
    refine ih (htyped.step (fun hname => ?_) hstep)
    have hnamed := (matches_of_scan? hscanned).2
    rw [show cut.terminal = .name from hname] at hnamed
    exact hnamed

/-- A word is an identifier. -/
theorem isIdentifier_of_isName {w : List Char} (h : IsName w) :
    isIdentifier (String.ofList w) = true := by
  have hwords := h.isWordChar
  obtain ⟨c, r, rfl, hstart, hothers⟩ := h
  have hascii {d : Char} (hword : isWordChar d = true) : d.toNat < 0x80 := by
    have := toNat_of_isWordChar hword
    omega
  simp only [isIdentifier, String.toList_ofList, Bool.and_eq_true, List.all_eq_true]
  refine ⟨?_, fun d hmember => ?_⟩
  · rw [Text.isIdentifierStart, if_pos (hascii (hwords c List.mem_cons_self))]
    exact hstart
  · rw [Text.isIdentifierContinue, if_pos (hascii (hothers d hmember))]
    exact hothers d hmember

end Source

theorem isPath_of_parseStyles {text : String} {ss : List Style} (h : parseStyles text = .ok ss) :
    ∀ s ∈ ss, Source.IsPath s.signature.themeType := by
  rw [parseStyles, bind_eq_ok] at h
  obtain ⟨blocks, hread, hmade⟩ := h
  intro s hmember
  obtain ⟨b, hown, hstyled⟩ := exists_of_mem_mapM hmade hmember
  obtain ⟨_, -, hrest⟩ := bind_eq_ok.1 hstyled
  obtain ⟨_, -, hwhole⟩ := bind_eq_ok.1 hrest
  cases hwhole
  exact Source.Reader.typed_start.readFrom hread b hown

/-! ### Checks -/

theorem refuseErrors_eq_ok {ds fs : List Diagnostic} (h : refuseErrors ds = .ok fs) :
    ∀ d ∈ ds, d.isError = false := by
  unfold refuseErrors at h
  split at h
  · cases h
  · rename_i hnone
    simpa using hnone

namespace Check

/-- A check that finds only errors finds nothing in a block that is compiled. -/
theorem eq_nil_of_validate {s : Style} {fs : List Diagnostic}
    (hpassed : refuseErrors (validate [] s) = .ok fs) {check : Check} (hstandard : check ∈ all)
    (hstrict : ∀ d ∈ check s, d.isError = true) : check s = [] := by
  refine List.eq_nil_iff_forall_not_mem.2 fun d hfound => ?_
  have htold : d ∈ validate [] s :=
    List.mem_flatMap.2 ⟨check, List.mem_append_left _ hstandard, hfound⟩
  have hharmless := refuseErrors_eq_ok hpassed d htold
  rw [hstrict d hfound] at hharmless
  cases hharmless

/-- No result type is among those seen before, and none stands twice. -/
theorem nodup_of_repeatedResults {seen : List String} {ss : List Style}
    (h : repeatedResults seen ss = []) :
    (∀ s ∈ ss, s.signature.resultType ∉ seen) ∧ (ss.map (·.signature.resultType)).Nodup := by
  induction ss generalizing seen with
  | nil => simp
  | cons s ss ih =>
    rw [repeatedResults] at h
    split at h
    · cases h
    · rename_i hfresh
      obtain ⟨hunseen, hdistinct⟩ := ih h
      have hothers (t : Style) (hmember : t ∈ ss) :
          t.signature.resultType ≠ s.signature.resultType ∧ t.signature.resultType ∉ seen := by
        simpa using hunseen t hmember
      refine ⟨?_, List.nodup_cons.2 ⟨?_, hdistinct⟩⟩
      · intro t hmember
        rcases List.mem_cons.1 hmember with rfl | hmember
        · simpa using hfresh
        · exact (hothers t hmember).2
      · intro htwice
        obtain ⟨t, hmember, hsame⟩ := List.mem_map.1 htwice
        exact (hothers t hmember).1 hsame

end Check

/-! ### Blocks that are compiled -/

/-- What is known of the names in a block that is compiled. -/
structure Style.Checked (s : Style) : Prop where
  classnames : ∀ n ∈ (classnameParts s.rules).map (·.1),
    isBindable n = true ∧ n ∉ Check.reservedMembers
  themeVar : isBindable s.signature.themeVar = true ∧ s.signature.themeVar ∉ Check.reservedLocals
  resultType : isBindable s.signature.resultType = true ∧
    s.signature.resultType ∉ Check.reservedGlobals

theorem Style.checked_of_compiled {config : Config} {s : Style} {c : CompiledStyle}
    (h : (Compile.style config s).result = .ok c) : s.Checked := by
  unfold Compile.style at h
  split at h
  · cases h
  rename_i findings hpassed
  have hbindable : Check.classnameIdentifiers s = [] :=
    Check.eq_nil_of_validate hpassed (by simp [Check.all]) fun d hfound => by
      rw [Check.classnameIdentifiers, Check.tellOnce_nil] at hfound
      obtain ⟨_, -, rfl⟩ := List.mem_map.1 hfound
      rfl
  have hfree : Check.reservedClassnames s = [] :=
    Check.eq_nil_of_validate hpassed (by simp [Check.all]) fun d hfound => by
      rw [Check.reservedClassnames, Check.tellOnce_nil] at hfound
      obtain ⟨_, -, rfl⟩ := List.mem_map.1 hfound
      rfl
  have hsignature : Check.signature s = [] :=
    Check.eq_nil_of_validate hpassed (by simp [Check.all]) fun d hfound => by
      rcases List.mem_append.1 hfound with hvar | hresult
      · split at hvar
        · rw [List.mem_singleton.1 hvar]
          rfl
        · cases hvar
      · split at hresult
        · rw [List.mem_singleton.1 hresult]
          rfl
        · split at hresult
          · rw [List.mem_singleton.1 hresult]
            rfl
          · cases hresult
  obtain ⟨hvar, hresult⟩ := List.append_eq_nil_iff.1 hsignature
  simp only [Check.classnameIdentifiers, Check.reservedClassnames, Check.tellOnce_nil,
    List.map_eq_nil_iff, List.filter_eq_nil_iff] at hbindable hfree
  refine ⟨fun n hmember => ?_, ?_, ?_⟩
  · obtain ⟨p, hfirst, rfl⟩ := List.mem_map.1 ((Check.mem_map_firstOccurrences _ n).2 hmember)
    refine ⟨by simpa using hbindable p hfirst, fun hreserved => hfree p hfirst ?_⟩
    rw [Check.isReserved, List.contains_iff_mem.2 hreserved, Bool.true_or]
  · split_ifs at hvar with hrefused
    simpa using hrefused
  · split_ifs at hresult with hunusable hshadowing
    exact ⟨by simpa using hunusable, by simpa using hshadowing⟩

/-- What is known of the names in a class that is generated. -/
structure ClassDef.Usable (d : ClassDef) : Prop where
  name : isBindable d.name = true ∧ d.name ∉ Check.reservedGlobals
  themeVar : isBindable d.themeVar = true ∧ d.themeVar ∉ Check.reservedLocals
  themeType : Source.IsPath d.themeType
  fields : ∀ n ∈ d.fields.map (·.1), isBindable n = true ∧ n ∉ Check.reservedMembers
  distinct : (d.fields.map (·.1)).Nodup

theorem ClassDef.fields_ofCompiled (c : CompiledStyle) :
    (ofCompiled c).fields.map (·.1) = c.table.names := by
  rw [ofCompiled, SlotTable.slots, List.zipIdx_map_fst]

theorem ClassDef.usable_of_checked {config : Config} {s : Style} {c : CompiledStyle}
    (hchecked : s.Checked) (hpath : Source.IsPath s.signature.themeType) (hmade : c.From config s) :
    (ofCompiled c).Usable := by
  have hsorted := List.mergeSort_perm
    ((Check.firstOccurrences (classnameParts s.rules)).map (·.1)) fun a b => decide (a ≤ b)
  have hnames : (ofCompiled c).fields.map (·.1) =
      Check.sortNames ((Check.firstOccurrences (classnameParts s.rules)).map (·.1)) := by
    rw [fields_ofCompiled, hmade.table, SlotTable.names_ofRules]
  refine ⟨?_, ?_, ?_, fun n hmember => ?_, ?_⟩
  · rw [ofCompiled, hmade.signature]
    exact hchecked.resultType
  · rw [ofCompiled, hmade.signature]
    exact hchecked.themeVar
  · rw [ofCompiled, hmade.signature]
    exact hpath
  · rw [hnames] at hmember
    exact hchecked.classnames n ((Check.mem_map_firstOccurrences _ n).1 (hsorted.mem_iff.1 hmember))
  · rw [hnames]
    exact hsorted.nodup_iff.2 (Check.nodup_firstOccurrences _)

/-- The classes of a source that is compiled have usable names, and each its own. -/
theorem ClassDef.usable_of_source {config : Config} {text : String} {cs : List CompiledStyle}
    (h : (Compile.source config text).result = .ok cs) :
    (∀ d ∈ cs.map ofCompiled, d.Usable) ∧ ((cs.map ofCompiled).map (·.name)).Nodup := by
  obtain ⟨ss, hparsed, hunique, hresults⟩ := Compile.results_of_source h
  have hpaths := isPath_of_parseStyles hparsed
  have hdistinct := (Check.nodup_of_repeatedResults (List.map_eq_nil_iff.1 hunique)).2
  clear h hparsed hunique
  have hnames : (cs.map ofCompiled).map (·.name) = ss.map (·.signature.resultType) := by
    clear hpaths hdistinct
    induction hresults with
    | nil => rfl
    | cons hfirst _ ih =>
      simp only [List.map_cons, ih, ofCompiled, (Compile.from_of_style hfirst).signature]
  refine ⟨?_, by rw [hnames]; exact hdistinct⟩
  clear hnames hdistinct
  induction hresults with
  | nil => simp
  | cons hfirst _ ih =>
    obtain ⟨hpath, hothers⟩ := List.forall_mem_cons.1 hpaths
    exact List.forall_mem_cons.2 ⟨usable_of_checked (Style.checked_of_compiled hfirst) hpath
      (Compile.from_of_style hfirst), ih hothers⟩

end ScopedCss

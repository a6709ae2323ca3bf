import ScopedCss.ModuleReader
import ScopedCss.Proofs.CheckedNames
import ScopedCss.Proofs.EmittedLiterals

/-!
Generated modules read back. The text of a class is a row of phrases with names, numbers, literals
and values between them, and each of these ends where its reader stops. Main statement: a module of
classes with usable names is read as the definitions that it was printed from, as long as no value
closes the parentheses that it stands in.
-/
namespace ScopedCss

open Text (isIdentifierContinue)

/-! ### The text of a class -/

/-- Lines with line feeds between them and one at the end. -/
theorem intercalate_newline {lines : List String} (hlines : lines ≠ []) :
    "\n".intercalate lines ++ "\n" = String.join (lines.map (· ++ "\n")) := by
  induction lines with
  | nil => exact absurd rfl hlines
  | cons line lines ih =>
    cases lines with
    | nil => simp
    | cons next lines =>
      rw [String.intercalate_cons_cons, String.append_assoc, ih (by simp)]
      simp [String.append_assoc]

namespace ClassDef

open ModuleReader (line)

theorem indent_zero : indent 0 = "" := rfl

theorem indent_succ (depth : Nat) : indent (depth + 1) = indent 1 ++ indent depth := by
  rw [← String.toList_inj, String.toList_append, indent, indent, indent, String.toList_ofList,
    String.toList_ofList, String.toList_ofList, List.replicate_append_replicate]
  congr 1
  omega

/-- What stands behind the opening parenthesis in the method that makes instances. -/
def fieldValuesText (d : ClassDef) : String :=
  if d.fields.isEmpty then ")" ++ "\n"
  else
    "\n" ++ (String.join (d.fields.map fun f => line 3 (f.1 ++ "=" ++ Text.quote d.classPrefix ++
      " + str(start + " ++ toString f.2 ++ "),")) ++ line 2 ")")

theorem join_newLines (d : ClassDef) : String.join (d.newLines.map (indent 1 ++ · ++ "\n")) =
    line 1 "@classmethod" ++ indent 1 ++ "def new(cls, start: int) -> " ++ d.name ++ ":" ++ "\n" ++
      indent 2 ++ "return cls(" ++ d.fieldValuesText := by
  rw [newLines, fieldValuesText]
  split
  · simp only [List.map_append, List.map_cons, List.map_nil, String.join_append, String.join_cons,
      String.join_nil, String.append_assoc, line, indent_succ 1, String.append_empty]
    rfl
  · simp only [List.map_append, List.map_cons, List.map_nil, List.map_map, String.join_append,
      String.join_cons, String.join_nil, String.append_assoc, line, indent_succ 1, indent_succ 2,
      Function.comp_def, String.append_empty]

/-- The text of a class, cut where its readers start. -/
theorem text_eq (d : ClassDef) : d.text =
    (line 0 "@dataclass(frozen=True)" ++ "class ") ++ (d.name ++ (("(Classes):" ++ "\n") ++
    (String.join (d.fields.map fun f => line 1 (f.1 ++ ": str")) ++
    ((if d.fields.isEmpty then "" else "\n") ++
    ((line 1 "@staticmethod" ++ indent 1 ++ "def generate(") ++ (d.themeVar ++ (": " ++
    (d.themeType ++ ((", _css: TextSink, _counter: Counter) -> None:" ++ "\n" ++
      line 2 "_start = _counter.value" ++ line 2 "_css.write(" ++ line 3 "(") ++
    (String.join (d.literals.map fun l => line 4 (Text.quote l)) ++ (line 3 ").format(" ++
    (String.join (d.arguments.map fun a => line 4 (argumentText a ++ ",")) ++
    ((line 3 ")" ++ line 2 ")" ++ indent 2 ++ "_counter.value = _start + ") ++
    (toString d.slotCount ++
    (("\n" ++ "\n" ++ line 1 "@classmethod" ++ indent 1 ++ "def new(cls, start: int) -> " ++
      d.name ++ ":" ++ "\n" ++ indent 2 ++ "return cls(") ++ d.fieldValuesText))))))))))))))) := by
  have hnew := d.join_newLines
  simp only [String.append_assoc] at hnew
  rw [text, intercalate_newline (by simp)]
  split
  all_goals
    simp only [List.map_append, List.map_cons, List.map_nil, List.map_map, String.join_append,
      String.join_cons, String.join_nil, String.append_assoc, line, indent_zero, indent_succ 1,
      indent_succ 2, indent_succ 3, Function.comp_def, String.append_empty, String.empty_append,
      generateLines, literalLines] at hnew ⊢
    rw [hnew]

/-- The text of a module, cut where its classes start. -/
theorem moduleText_eq (defs : List ClassDef) (imports : List String) (sourceName : String) :
    moduleText defs imports sourceName = moduleText [] imports sourceName ++
      String.join (defs.map fun d => "\n\n" ++ d.text) := by
  have hclasses (head : String) : "\n\n".intercalate (head :: defs.map text) =
      head ++ String.join (defs.map fun d => "\n\n" ++ d.text) := by
    induction defs generalizing head with
    | nil => simp
    | cons d defs ih =>
      rw [List.map_cons, String.intercalate_cons_cons, ih, List.map_cons, String.join_cons]
      simp only [String.append_assoc]
  rw [moduleText, hclasses]
  simp [moduleText]

end ClassDef

/-! ### Readers -/

namespace Reading

variable {α β γ : Type} {cs rest : List Char}

theorem bind_of_some {p : Reading α} {f : α → Reading β} {a : α} (h : p cs = some (a, rest)) :
    (p >>= f) cs = f a rest := by
  show (p cs).bind _ = _
  rw [h]
  rfl

theorem bind_of_none {p : Reading α} {f : α → Reading β} (h : p cs = none) :
    (p >>= f) cs = none := by
  show (p cs).bind _ = _
  rw [h]
  rfl

theorem phrase_append (s : String) (rest : List Char) :
    phrase s (s.toList ++ rest) = some ((), rest) := by
  have hcut : s.toList.isPrefixOf? (s.toList ++ rest) = some rest := by
    induction s.toList with
    | nil => rfl
    | cons c cs ih => simp [List.isPrefixOf?, ih]
  rw [phrase, hcut]
  rfl

theorem bind_phrase (s t : String) (f : Unit → Reading β) (rest : List Char) :
    (phrase s >>= f) ((s ++ t).toList ++ rest) = f () (t.toList ++ rest) := by
  rw [String.toList_append, List.append_assoc]
  exact bind_of_some (phrase_append s _)

/-- A text that does not go on with characters of a kind. -/
def Stops (kind : Char → Bool) (cs : List Char) : Prop := ∀ c ∈ cs.head?, kind c = false

theorem stops_append {kind : Char → Bool} {s : String} {c : Char} (hs : s.toList.head? = some c)
    (hc : kind c = false) (t : String) (rest : List Char) :
    Stops kind ((s ++ t).toList ++ rest) := by
  obtain ⟨cs, hcs⟩ := List.head?_eq_some_iff.1 hs
  rw [String.toList_append, hcs]
  rintro _ ⟨⟩
  exact hc

theorem charsOf_append {kind : Char → Bool} {w : List Char} (hw : ∀ c ∈ w, kind c = true)
    (hrest : Stops kind rest) : charsOf kind (w ++ rest) = some (w, rest) := by
  have hstop : rest.takeWhile kind = [] ∧ rest.dropWhile kind = rest := by
    cases rest with
    | nil => exact ⟨rfl, rfl⟩
    | cons c cs =>
      have hc := hrest c rfl
      simp [hc]
  rw [charsOf, List.takeWhile_append_of_pos hw, List.dropWhile_append_of_pos hw, hstop.1, hstop.2,
    List.append_nil]

theorem bind_word {w t : String} (hw : ∀ c ∈ w.toList, isIdentifierContinue c = true)
    (ht : Stops isIdentifierContinue (t.toList ++ rest)) (f : String → Reading β) :
    (word >>= f) ((w ++ t).toList ++ rest) = f w (t.toList ++ rest) := by
  rw [String.toList_append, List.append_assoc]
  refine bind_of_some ?_
  rw [word, bind_of_some (charsOf_append hw ht), String.ofList_toList]
  rfl

theorem bind_path {w t : String}
    (hw : ∀ c ∈ w.toList, (isIdentifierContinue c || c == '.') = true)
    (ht : Stops (fun c => isIdentifierContinue c || c == '.') (t.toList ++ rest))
    (f : String → Reading β) : (path >>= f) ((w ++ t).toList ++ rest) = f w (t.toList ++ rest) := by
  rw [String.toList_append, List.append_assoc]
  refine bind_of_some ?_
  rw [path, bind_of_some (charsOf_append hw ht), String.ofList_toList]
  rfl

theorem decimalNumber_toDigits (n : Nat) : Text.decimalNumber (Nat.toDigits 10 n) = n := by
  induction n using Nat.strongRecOn with
  | ind n ih =>
    by_cases hfew : n < 10
    · have hone : ∀ k < 10, Text.decimalNumber [Nat.digitChar k] = k := by decide
      rw [Nat.toDigits_of_lt_base hfew, hone n hfew]
    · have hmany : 10 ≤ n := Nat.not_lt.1 hfew
      have hlast : (Nat.digitChar (n % 10)).toNat - 0x30 = n % 10 := by
        have hdigit : ∀ k < 10, (Nat.digitChar k).toNat - 0x30 = k := by decide
        exact hdigit _ (Nat.mod_lt n (by decide))
      have hfront := ih (n / 10) (Nat.div_lt_self (by omega) (by decide))
      rw [Text.decimalNumber] at hfront ⊢
      rw [Nat.toDigits_of_base_le (by decide) hmany, List.foldl_append, hfront]
      simp only [List.foldl_cons, List.foldl_nil, hlast]
      omega

theorem bind_number (n : Nat) {t : String} (ht : Stops Char.isDigit (t.toList ++ rest))
    (f : Nat → Reading β) :
    (number >>= f) ((toString n ++ t).toList ++ rest) = f n (t.toList ++ rest) := by
  have hdigits : (toString n).toList = Nat.toDigits 10 n := by
    simp [Nat.toString_eq_repr, Nat.repr]
  have hall : ∀ c ∈ Nat.toDigits 10 n, c.isDigit = true := fun c =>
    Nat.isDigit_of_mem_toDigits (by decide) (Nat.le_refl 10)
  rw [String.toList_append, List.append_assoc, hdigits]
  refine bind_of_some ?_
  rw [number, bind_of_some (charsOf_append hall ht), decimalNumber_toDigits]
  rfl

theorem bind_literal (l t : String) (f : String → Reading β) (rest : List Char) :
    (literal >>= f) ((Text.quote l ++ t).toList ++ rest) = f l (t.toList ++ rest) := by
  rw [String.toList_append, List.append_assoc, ← Text.display_ofString]
  refine bind_of_some ?_
  rw [literal, Text.string?_display]
  simp only [Option.bind_eq_bind, Option.bind_some, Expr.textToken?_display,
    Text.toString?_ofString]
  rfl

section
variable {item : Reading β} {text : α → String} {value : α → β} {xs : List α} {t : String}

theorem upTo_append
    (hitem : ∀ x ∈ xs, ∀ rest, item ((text x).toList ++ rest) = some (value x, rest))
    (hstop : item (t.toList ++ rest) = none) {n : Nat} (hn : xs.length ≤ n) :
    upTo item n ((String.join (xs.map text) ++ t).toList ++ rest) =
      some (xs.map value, t.toList ++ rest) := by
  induction xs generalizing n with
  | nil =>
    rw [List.map_nil, String.join_nil, String.empty_append]
    cases n with
    | zero => rfl
    | succ n =>
      simp only [upTo, hstop, List.map_nil]
  | cons x xs ih =>
    obtain ⟨hx, hxs⟩ := List.forall_mem_cons.1 hitem
    cases n with
    | zero => cases hn
    | succ n =>
      rw [List.map_cons, String.join_cons, String.append_assoc, String.toList_append,
        List.append_assoc]
      simp only [upTo, hx, ih hxs (Nat.le_of_succ_le_succ hn), Option.map_some, List.map_cons]

/-- A row of items, each of which is read whatever follows it, up to what is no item. -/
theorem many_append
    (hitem : ∀ x ∈ xs, ∀ rest, item ((text x).toList ++ rest) = some (value x, rest))
    (hfilled : ∀ x ∈ xs, text x ≠ "") (hstop : item (t.toList ++ rest) = none) :
    many item ((String.join (xs.map text) ++ t).toList ++ rest) =
      some (xs.map value, t.toList ++ rest) := by
  have hcount : xs.length ≤ ((String.join (xs.map text) ++ t).toList ++ rest).length := by
    have hrow : xs.length ≤ (String.join (xs.map text)).toList.length := by
      clear hitem hstop
      induction xs with
      | nil => exact Nat.zero_le _
      | cons x xs ih =>
        obtain ⟨hx, hxs⟩ := List.forall_mem_cons.1 hfilled
        have hone : 0 < (text x).toList.length := by
          rw [List.length_pos_iff]
          intro hempty
          exact hx (String.toList_inj.1 hempty)
        have hothers := ih hxs
        rw [List.map_cons, String.join_cons, String.toList_append, List.length_append,
          List.length_cons]
        omega
    rw [String.toList_append, List.length_append, List.length_append]
    omega
  exact upTo_append hitem hstop hcount

theorem bind_many (hitem : ∀ x ∈ xs, ∀ rest, item ((text x).toList ++ rest) = some (value x, rest))
    (hfilled : ∀ x ∈ xs, text x ≠ "") (hstop : item (t.toList ++ rest) = none)
    (f : List β → Reading γ) :
    (many item >>= f) ((String.join (xs.map text) ++ t).toList ++ rest) =
      f (xs.map value) (t.toList ++ rest) :=
  bind_of_some (many_append hitem hfilled hstop)

end

end Reading

/-! ### Values -/

/-- Code that is scanned to a place is passed over on the way to the parenthesis. -/
theorem CodePlace.enclosed?_append {p q : CodePlace} {cs : List Char}
    (h : cs.foldlM step p = some q) (rest : List Char) :
    p.enclosed? (cs ++ rest) = (q.enclosed? rest).map fun r => (cs ++ r.1, r.2) := by
  induction cs generalizing p with
  | nil =>
    cases h
    simp
  | cons c cs ih =>
    rw [List.foldlM_cons] at h
    obtain ⟨u, hu, h⟩ := Option.bind_eq_some_iff.1 h
    have hopen : ¬ (p = {} ∧ c = ')') := by
      rintro ⟨rfl, rfl⟩
      cases hu
    rw [List.cons_append, enclosed?, if_neg hopen, hu]
    simp only [Option.bind_eq_bind, Option.bind_some, ih h]
    cases q.enclosed? rest <;> rfl

/-- Blanks and line feeds lead nowhere in code. -/
theorem CodePlace.foldlM_blank {cs : List Char} (h : ∀ c ∈ cs, c = ' ' ∨ c = '\n') :
    cs.foldlM step ({} : CodePlace) = some {} := by
  induction cs with
  | nil => rfl
  | cons c cs ih =>
    obtain ⟨hc, hcs⟩ := List.forall_mem_cons.1 h
    rw [List.foldlM_cons]
    rcases hc with rfl | rfl <;> exact ih hcs

namespace ModuleReader

open ClassDef (argumentText indent indent_succ)
open Reading

theorem mem_padding {c : Char} (h : c ∈ padding) : c = ' ' ∨ c = '\n' := by
  rw [padding, String.toList_append, List.mem_append] at h
  rcases h with h | h
  · exact .inr (by simpa using h)
  · exact .inl (ClassDef.eq_blank_of_mem_indent h)

theorem unpadded?_append {v : List Char} (h : v.contains '\n' = true) :
    unpadded? (v ++ padding) = some v := by
  have hlines : (v ++ padding).contains '\n' = true := by
    simpa using Or.inl (List.contains_iff_mem.1 h)
  have hend : padding.isSuffixOf (v ++ padding) = true :=
    List.isSuffixOf_iff_suffix.2 (List.suffix_append v padding)
  rw [unpadded?, if_pos hlines, if_pos hend, List.length_append, Nat.add_sub_cancel,
    List.take_left]

/-- A value is read up to the parenthesis that it was put in. -/
theorem value_append {v : String} (h : (Argument.value v).isEnclosed = true) (rest : List Char) :
    ∃ gap, argumentText (.value v) = "(" ++ (v ++ gap ++ ")") ∧
      value ((v ++ gap ++ ")").toList ++ rest) = some (v, rest) := by
  have hscan : v.toList.foldlM CodePlace.step {} = some {} := of_decide_eq_true h
  have hclosed : CodePlace.enclosed? {} (')' :: rest) = some ([], rest) := rfl
  by_cases hlines : v.toList.contains '\n' = true
  · refine ⟨"\n" ++ indent 4, ?_, ?_⟩
    · rw [argumentText, if_pos hlines]
      simp only [String.append_assoc]
    · have hgap := CodePlace.enclosed?_append (CodePlace.foldlM_blank fun c => mem_padding)
        (')' :: rest)
      have hread := CodePlace.enclosed?_append hscan (padding ++ ')' :: rest)
      rw [hgap, hclosed] at hread
      have htext : (v ++ ("\n" ++ indent 4) ++ ")").toList ++ rest =
          v.toList ++ (padding ++ ')' :: rest) := by
        simp [padding]
      rw [value, htext, hread]
      simp [unpadded?_append hlines]
  · refine ⟨"", ?_, ?_⟩
    · rw [argumentText, if_neg hlines, String.append_empty]
      simp only [String.append_assoc]
    · have hread := CodePlace.enclosed?_append hscan (')' :: rest)
      rw [hclosed] at hread
      have htext : (v ++ "" ++ ")").toList ++ rest = v.toList ++ (')' :: rest) := by simp
      rw [value, htext, hread]
      simp [unpadded?, List.contains_iff_mem.not.1 hlines]

/-! ### Lines -/

theorem line_eq (depth : Nat) (s : String) : line depth s = indent depth ++ (s ++ "\n") := by
  rw [line, String.append_assoc]

theorem orElse_of_some {α : Type} {p q : Reading α} {cs : List Char} {r : α × List Char}
    (h : p cs = some r) : (p <|> q) cs = some r := by
  show (p cs).orElse (fun _ => q cs) = some r
  rw [h]
  rfl

theorem orElse_of_none {α : Type} {p q : Reading α} {cs : List Char} (h : p cs = none) :
    (p <|> q) cs = q cs := by
  show (p cs).orElse (fun _ => q cs) = q cs
  rw [h]
  rfl

/-- What ends an item is read, and nothing else. -/
theorem bind_ending {α : Type} (s : String) (a : α) (rest : List Char) :
    (phrase s >>= fun _ => (return a : Reading α)) (s.toList ++ rest) = some (a, rest) := by
  rw [bind_of_some (phrase_append s rest)]
  rfl

theorem argument_append {a : Argument} (h : a.isEnclosed = true) (rest : List Char) :
    argument ((line 4 (argumentText a ++ ",")).toList ++ rest) = some (a, rest) := by
  rw [line_eq, String.append_assoc, argument, bind_phrase]
  refine (bind_of_some ?_).trans (bind_ending ("," ++ "\n") a rest)
  cases a with
  | slot i =>
    apply orElse_of_some
    rw [argumentText, String.append_assoc, bind_phrase, bind_number i]
    · rfl
    · exact stops_append rfl rfl _ _
  | value v =>
    obtain ⟨gap, htext, hread⟩ := value_append h (("," ++ "\n").toList ++ rest)
    rw [htext, String.append_assoc]
    refine (orElse_of_none (bind_of_none ?_)).trans ?_
    · rw [String.toList_append]
      rfl
    · rw [bind_phrase, String.toList_append, List.append_assoc, bind_of_some hread]
      rfl

theorem literalLine_append (l : String) (rest : List Char) :
    literalLine ((line 4 (Text.quote l)).toList ++ rest) = some (l, rest) := by
  rw [line_eq, literalLine, bind_phrase, bind_literal]
  exact bind_ending "\n" l rest

theorem field_append {name : String} (h : ∀ c ∈ name.toList, isIdentifierContinue c = true)
    (rest : List Char) : field ((line 1 (name ++ ": str")).toList ++ rest) = some (name, rest) := by
  rw [line_eq, String.append_assoc, field, bind_phrase, bind_word h]
  · exact bind_ending _ name rest
  · exact stops_append rfl rfl _ _

theorem fieldValue_append {name : String} (h : ∀ c ∈ name.toList, isIdentifierContinue c = true)
    (classPrefix : String) (slot : Nat) (rest : List Char) :
    fieldValue ((line 3 (name ++ "=" ++ Text.quote classPrefix ++ " + str(start + " ++
      toString slot ++ "),")).toList ++ rest) = some (⟨name, classPrefix, slot⟩, rest) := by
  rw [line_eq]
  simp only [String.append_assoc]
  rw [fieldValue, bind_phrase, bind_word h, bind_phrase, bind_literal, bind_phrase, bind_number]
  · exact bind_ending _ _ rest
  · exact stops_append rfl rfl _ _
  · exact stops_append rfl rfl _ _

theorem line_ne_empty (depth : Nat) (s : String) : line depth s ≠ "" := by
  intro hempty
  have := congrArg String.toList hempty
  simp [line] at this

/-! ### Classes -/

/-- What a class has to be like for its text to be read back: its names are words, and no value
closes the parentheses that it stands in. -/
structure Readable (d : ClassDef) : Prop where
  name : ∀ c ∈ d.name.toList, isIdentifierContinue c = true
  themeVar : ∀ c ∈ d.themeVar.toList, isIdentifierContinue c = true
  themeType : ∀ c ∈ d.themeType.toList, (isIdentifierContinue c || c == '.') = true
  fields : ∀ f ∈ d.fields, ∀ c ∈ f.1.toList, isIdentifierContinue c = true
  classPrefix : d.fields = [] → d.classPrefix = ""
  arguments : ∀ a ∈ d.arguments, a.isEnclosed = true

section
variable {d : ClassDef} (h : Readable d)
include h

theorem fieldValues_append (rest : List Char) :
    fieldValues (!d.fields.isEmpty) (d.fieldValuesText.toList ++ rest) =
      some (d.fields.map fun f => ⟨f.1, d.classPrefix, f.2⟩, rest) := by
  rw [fieldValues, ClassDef.fieldValuesText]
  cases hfields : d.fields.isEmpty with
  | true =>
    rw [List.isEmpty_iff.1 hfields]
    exact bind_ending _ _ rest
  | false =>
    simp only [Bool.not_false, if_true, Bool.false_eq_true, if_false]
    rw [bind_phrase, bind_many fun f hf => fieldValue_append (h.fields f hf) d.classPrefix f.2]
    · exact bind_ending _ _ rest
    · exact fun f _ => line_ne_empty 3 _
    · exact bind_of_none rfl

omit h in
/-- The lines of the fields end with an empty line, or where the first method starts. -/
theorem field_stop (isEmpty : Bool) (t : String) (rest : List Char) :
    field (((if isEmpty then "" else "\n") ++
      ((line 1 "@staticmethod" ++ indent 1 ++ "def generate(") ++ t)).toList ++ rest) = none := by
  cases isEmpty with
  | false =>
    rw [String.toList_append]
    exact bind_of_none rfl
  | true =>
    simp only [if_true, String.empty_append, line_eq, String.append_assoc]
    have hword : Stops isIdentifierContinue
        (("@staticmethod" ++ ("\n" ++ (indent 1 ++ ("def generate(" ++ t)))).toList ++ rest) :=
      stops_append rfl rfl _ _
    have hread := bind_word (w := "") (by simp) hword fun name => do
      phrase (": str" ++ "\n")
      return name
    rw [String.empty_append] at hread
    rw [field, bind_phrase, hread]
    refine bind_of_none ?_
    rw [String.toList_append]
    rfl

/-- The prefix of all fields is that of the first one, if there is one. -/
theorem head?_fieldValues : (((d.fields.map fun f =>
    (⟨f.1, d.classPrefix, f.2⟩ : FieldValue)).head?.map (·.classPrefix)).getD "") =
      d.classPrefix := by
  cases hfields : d.fields with
  | nil => exact (h.classPrefix hfields).symm
  | cons f fs => rfl

/-- A class is read back, whatever follows its text. -/
theorem classDef_append (rest : List Char) : classDef (d.text.toList ++ rest) = some (d, rest) := by
  have hliterals (t : String) : literalLine ((line 3 ").format(" ++ t).toList ++ rest) = none := by
    rw [String.toList_append]
    exact bind_of_none rfl
  have harguments (t : String) : argument (((line 3 ")" ++ line 2 ")" ++ indent 2 ++
      "_counter.value = _start + ") ++ t).toList ++ rest) = none := by
    rw [String.toList_append]
    exact bind_of_none rfl
  rw [d.text_eq, classDef, bind_phrase, bind_word h.name (stops_append rfl rfl _ _), bind_phrase,
    bind_many (fun f hf => field_append (h.fields f hf)) (fun _ _ => line_ne_empty _ _)
      (field_stop _ _ _), List.isEmpty_map, bind_phrase, bind_phrase,
    bind_word h.themeVar (stops_append rfl rfl _ _), bind_phrase,
    bind_path h.themeType (stops_append rfl rfl _ _), bind_phrase,
    bind_many (fun l _ => literalLine_append l) (fun _ _ => line_ne_empty _ _) (hliterals _),
    bind_phrase, bind_many (fun a ha => argument_append (h.arguments a ha))
      (fun _ _ => line_ne_empty _ _) (harguments _), bind_phrase,
    bind_number _ (by simp only [String.append_assoc]; exact stops_append rfl rfl _ _), bind_phrase,
    bind_of_some (fieldValues_append h rest)]
  have hnames : (d.fields.map fun f => (⟨f.1, d.classPrefix, f.2⟩ : FieldValue)).map (·.name) =
      d.fields.map fun f => f.1 := by
    rw [List.map_map]
    rfl
  have hfields : (d.fields.map fun f => (⟨f.1, d.classPrefix, f.2⟩ : FieldValue)).map
      (fun v => (v.name, v.slot)) = d.fields := by
    rw [List.map_map]
    exact List.map_id _
  have hstart : ((d.fields.map fun f => (⟨f.1, d.classPrefix, f.2⟩ : FieldValue)).all
      (·.classPrefix = d.classPrefix)) = true := by
    simp
  simp only [head?_fieldValues h, hnames, hstart, hfields, List.map_id', and_self, guard,
    if_true]
  rfl

end

/-! ### Modules -/

/-- A module of readable classes is read back as it is. -/
theorem read?_moduleText {defs : List ClassDef} (h : ∀ d ∈ defs, Readable d) :
    read? (ClassDef.moduleText defs [] "") = some defs := by
  have hclass : ∀ d ∈ defs, ∀ rest, (do phrase "\n\n"; classDef : Reading ClassDef)
      (("\n\n" ++ d.text).toList ++ rest) = some (d, rest) := by
    intro d hd rest
    rw [bind_phrase, classDef_append (h d hd)]
  have hend : (do phrase "\n\n"; classDef : Reading ClassDef) ("".toList ++ []) = none :=
    bind_of_none rfl
  have hfilled : ∀ d ∈ defs, "\n\n" ++ d.text ≠ "" := by
    intro d _ hempty
    have := congrArg String.toList hempty
    simp at this
  have hrow := many_append hclass hfilled hend
  have hread (head : String) : (do phrase head; many do phrase "\n\n"; classDef)
      ((head ++ String.join (defs.map fun d : ClassDef => "\n\n" ++ d.text)).toList ++ []) =
        some (defs, []) := by
    rw [bind_phrase]
    simpa using hrow
  have hwhole : classDefs (ClassDef.moduleText defs [] "").toList = some (defs, []) := by
    rw [ClassDef.moduleText_eq, ← List.append_nil (String.toList _)]
    exact hread _
  unfold read?
  simp only [hwhole]

theorem isIdentifierContinue_of_start {c : Char} (h : Text.isIdentifierStart c = true) :
    isIdentifierContinue c = true := by
  by_cases hascii : c.toNat < 0x80
  · rw [Text.isIdentifierStart, if_pos hascii, Text.isWordStart, Bool.or_eq_true] at h
    rw [isIdentifierContinue, if_pos hascii, Text.isWordChar, Char.isAlphanum, Bool.or_eq_true,
      Bool.or_eq_true]
    exact h.imp_left .inl
  · rw [isIdentifierContinue, if_neg hascii, h, Bool.true_or]

theorem isIdentifierContinue_of_identifier {n : String} (h : Text.isIdentifier n = true) :
    ∀ c ∈ n.toList, isIdentifierContinue c = true := by
  rw [Text.isIdentifier] at h
  split at h
  · cases h
  · rename_i first others hn
    rw [Bool.and_eq_true, List.all_eq_true] at h
    rw [hn]
    exact List.forall_mem_cons.2 ⟨isIdentifierContinue_of_start h.1, h.2⟩

theorem isIdentifierContinue_of_bindable {n : String} (h : Text.isBindable n = true) :
    ∀ c ∈ n.toList, isIdentifierContinue c = true :=
  isIdentifierContinue_of_identifier (Bool.and_eq_true_iff.1 h).1

/-- A class with usable names is read back if its values are enclosed. -/
theorem readable_of_usable {d : ClassDef} (h : d.Usable)
    (hstart : d.fields = [] → d.classPrefix = "")
    (hvalues : ∀ a ∈ d.arguments, a.isEnclosed = true) : Readable d where
  name := isIdentifierContinue_of_bindable h.name.1
  themeVar := isIdentifierContinue_of_bindable h.themeVar.1
  themeType := by
    obtain ⟨words, -, hwords, htype⟩ := h.themeType
    intro c hc
    rw [htype, Source.Reader.dotted, String.toList_ofList] at hc
    clear htype
    induction words with
    | nil => cases hc
    | cons w words ih =>
      obtain ⟨hw, hwords⟩ := List.forall_mem_cons.1 hwords
      have hfirst (hc : c ∈ w) : (isIdentifierContinue c || c == '.') = true := by
        have hword := isIdentifierContinue_of_identifier (Source.isIdentifier_of_isName hw) c
          (by rwa [String.toList_ofList])
        rw [hword, Bool.true_or]
      cases words with
      | nil => exact hfirst (by simpa using hc)
      | cons next words =>
        rw [List.intercalate_cons_cons, List.append_assoc, List.mem_append, List.mem_append] at hc
        rcases hc with hc | hc | hc
        · exact hfirst hc
        · simp [List.mem_singleton.1 hc]
        · exact ih hwords hc
  fields f hf := isIdentifierContinue_of_bindable (h.fields f.1 (List.mem_map_of_mem hf)).1
  classPrefix := hstart
  arguments := hvalues

end ModuleReader
end ScopedCss

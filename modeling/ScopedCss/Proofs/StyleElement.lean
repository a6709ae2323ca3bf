import Mathlib.Data.List.Chain
import ScopedCss.Perform
import ScopedCss.Proofs.Letters

/-!
The element that holds a stylesheet on a page. What stands inside quotes has its marks replaced by
entities, and what stands inside the element has every end mark broken up. Main statement: whatever
the stylesheet and the values of the attributes are, the element ends where its own end tag is and
its start tag ends where the attributes do.
-/
namespace ScopedCss

/-- A mark stands at a place of a text. -/
def Text.OccursAt (mark : String) (t : Text) (i : Nat) : Prop :=
  mark.toList.map Letter.char <+: t.letters.drop i

namespace Html

/-! ### Texts without end marks -/

/-- What two neighbours must not be: the two letters that begin an end tag. -/
def Apart (a b : Letter) : Prop := a = .char '<' → b ≠ .char '/'

/-- A row of letters in which no end tag begins. -/
abbrev Unclosing (ls : List Letter) : Prop := ls.IsChain Apart

theorem unclosing_of_notMem {ls : List Letter} (h : .char '<' ∉ ls) : Unclosing ls := by
  induction ls with
  | nil => exact .nil
  | cons l ls ih =>
    obtain ⟨hl, hls⟩ := not_or.1 (List.mem_cons.not.1 h)
    exact List.isChain_cons.2 ⟨fun _ _ heq => absurd heq.symm hl, ih hls⟩

/-- A letter that is no slash can follow anything. -/
theorem Unclosing.append_cons {ls ms : List Letter} {m : Letter} (hls : Unclosing ls)
    (hms : Unclosing (m :: ms)) (hm : m ≠ .char '/') : Unclosing (ls ++ m :: ms) := by
  refine List.isChain_append.2 ⟨hls, hms, fun _ _ y hy => ?_⟩
  obtain rfl : m = y := by simpa using hy
  exact fun _ => hm

/-- Breaking up end marks keeps the first character. -/
theorem head?_guard (cs : List Char) : (guard cs).head? = cs.head? := by
  fun_cases guard cs <;> rfl

/-- What a text has between its halves holds no end mark once it is broken up. -/
theorem unclosing_guard (cs : List Char) : Unclosing ((guard cs).map .char) := by
  fun_induction guard cs with
  | case1 r ih =>
    simp only [List.map_cons]
    refine List.isChain_cons.2 ⟨by simp [Apart], List.isChain_cons.2 ⟨by simp [Apart], ?_⟩⟩
    exact List.isChain_cons.2 ⟨by simp [Apart], ih⟩
  | case2 c r hother ih =>
    refine List.isChain_cons.2 ⟨fun y hy heq => ?_, ih⟩
    -- the letter behind a `<` was not a slash, and breaking up what follows has not made it one
    rintro rfl
    obtain rfl : c = '<' := by simpa using heq
    rw [List.head?_map, head?_guard] at hy
    cases r with
    | nil => cases hy
    | cons d r =>
      obtain rfl : d = '/' := by simpa using hy
      exact hother r rfl rfl
  | case3 => exact .nil

theorem unclosing_letters_guard (css : Text) : Unclosing (css.mapRuns guard).letters := by
  obtain ⟨front, rest⟩ := css
  have hrun (s : String) : Unclosing (Text.runLetters (String.ofList (guard s.toList))) := by
    rw [Text.runLetters, String.toList_ofList]
    exact unclosing_guard _
  rw [Text.mapRuns, Text.letters]
  induction rest generalizing front with
  | nil => simpa using hrun front
  | cons p rest ih =>
    refine (hrun front).append_cons ?_ (by simp)
    exact List.isChain_cons.2 ⟨fun _ _ heq => by simp at heq, ih p.2⟩

/-- Where the end tag is put behind a text without end marks, it is the only one. -/
theorem occursAt_append_endTag {t : Text} (h : Unclosing t.letters) (i : Nat) :
    Text.OccursAt "</" (t ++ .ofString "</style>") i ↔ i = t.letters.length := by
  have hwhole : (t ++ Text.ofString "</style>").letters =
      t.letters ++ "</style>".toList.map .char := by
    rw [Text.letters_append, Text.letters_ofString]
  rw [Text.OccursAt, hwhole]
  rcases Nat.lt_or_ge i t.letters.length with hinside | hbehind
  · refine ⟨fun hbegins => ?_, fun heq => by omega⟩
    rw [List.drop_append_of_le_length hinside.le, List.drop_eq_getElem_cons hinside] at hbegins
    have hrest := h.drop i
    rw [List.drop_eq_getElem_cons hinside] at hrest
    cases hlater : t.letters.drop (i + 1) with
    | nil => simp [hlater] at hbegins
    | cons m ms =>
      rw [hlater] at hbegins hrest
      obtain ⟨hfirst, hbegins⟩ := List.cons_prefix_cons.1 hbegins
      obtain ⟨hsecond, -⟩ := List.cons_prefix_cons.1 hbegins
      exact absurd hsecond.symm ((List.isChain_cons_cons.1 hrest).1 hfirst.symm)
  · obtain ⟨j, rfl⟩ := Nat.exists_eq_add_of_le hbehind
    rw [List.drop_length_add_append]
    cases j with
    | zero => exact iff_of_true ⟨"style>".toList.map .char, rfl⟩ rfl
    | succ j =>
      refine iff_of_false (fun hbegins => ?_) (by omega)
      have hagain : .char '<' ∈ "/style>".toList.map Letter.char :=
        List.mem_of_mem_drop (hbegins.subset (List.mem_map_of_mem (by simp)))
      exact absurd hagain (by decide)

/-! ### Attributes -/

/-- The characters that would end an attribute or the start tag, or begin another tag. -/
def marks : List Char := ['<', '>', '\x22']

theorem notMem_escape {c : Char} (hc : c ∈ marks) (cs : List Char) : c ∉ escape cs := by
  have hone (d : Char) : c ∉ escapeChar d := by
    unfold escapeChar
    simp only [marks, List.mem_cons, List.not_mem_nil, or_false] at hc
    rcases hc with rfl | rfl | rfl <;> split_ifs <;> simp_all [eq_comm]
  intro hmember
  obtain ⟨d, -, hd⟩ := List.mem_flatMap.1 hmember
  exact hone d hd

theorem notMem_letters_escape {c : Char} (hc : c ∈ marks) (t : Text) :
    .char c ∉ (t.mapRuns escape).letters := by
  have hrun (s : String) : .char c ∉ Text.runLetters (String.ofList (escape s.toList)) := by
    rw [Text.runLetters, String.toList_ofList]
    simpa using notMem_escape hc s.toList
  obtain ⟨front, rest⟩ := t
  simp only [Text.mapRuns, Text.letters, List.mem_append, List.mem_flatMap, List.mem_map, not_or]
  refine ⟨hrun front, ?_⟩
  rintro ⟨_, ⟨p, -, rfl⟩, hmember⟩
  rcases List.mem_cons.1 hmember with hsame | hmember
  · cases hsame
  · exact hrun p.2 hmember

/-- An identifier of ASCII characters. -/
def IsAttributeName (name : String) : Prop :=
  Text.isIdentifier name = true ∧ ∀ c ∈ name.toList, c.toNat < 0x80

instance (name : String) : Decidable (IsAttributeName name) :=
  @instDecidableAnd _ _ inferInstance (List.decidableBAll _ _)

theorem IsAttributeName.isWordChar {name : String} (h : IsAttributeName name) :
    ∀ c ∈ name.toList, Text.isWordChar c = true := by
  obtain ⟨hidentifier, hascii⟩ := h
  unfold Text.isIdentifier at hidentifier
  split at hidentifier
  · cases hidentifier
  · rename_i first others hsplit
    rw [hsplit] at hascii ⊢
    simp only [Bool.and_eq_true, List.all_eq_true] at hidentifier
    rintro c (_ | ⟨_, hmember⟩)
    · have hstart := hidentifier.1
      rw [Text.isIdentifierStart, if_pos (hascii first List.mem_cons_self)] at hstart
      simp only [Text.isWordStart, Text.isWordChar, Char.isAlphanum, Bool.or_eq_true] at hstart ⊢
      exact hstart.imp_left .inl
    · have hstart := hidentifier.2 c hmember
      rwa [Text.isIdentifierContinue, if_pos (hascii c (List.mem_cons_of_mem _ hmember))] at hstart

/-- An attribute has no mark but the two quotes around its value. -/
theorem count_attributeText {name : String} (h : IsAttributeName name) (value : Text) {c : Char}
    (hc : c ∈ marks) :
    (attributeText name value).letters.count (.char c) = if c = '\x22' then 2 else 0 := by
  have hunnamed : c ∉ name.toList.map fun d => if d = '_' then '-' else d := by
    intro hmember
    obtain ⟨d, hd, rfl⟩ := List.mem_map.1 hmember
    have hword := h.isWordChar d hd
    revert hc
    split
    · decide
    · intro hc
      simp only [marks, List.mem_cons, List.not_mem_nil, or_false] at hc
      rcases hc with rfl | rfl | rfl <;> exact absurd hword (by decide)
  have hunvalued := List.count_eq_zero.2 (notMem_letters_escape hc value)
  have hnamed := List.count_eq_zero.2 (show Letter.char c ∉ (name.toList.map fun d =>
    if d = '_' then '-' else d).map .char by simpa using hunnamed)
  simp only [attributeText, Text.letters_append, Text.letters_ofString, String.toList_append,
    String.toList_ofList, List.map_append, List.count_append, hunvalued, hnamed]
  simp only [marks, List.mem_cons, List.not_mem_nil, or_false] at hc
  rcases hc with rfl | rfl | rfl <;> decide

/-- Attributes in the order of their names. -/
def inOrder (attributes : List (String × Text)) : List (String × Text) :=
  attributes.mergeSort fun a b => decide (a.1 ≤ b.1)

/-- All attributes of the start tag. -/
def row (attributes : List (String × Text)) : Text :=
  Text.join ((inOrder attributes).map fun a => attributeText a.1 a.2)

def startTag (attributes : List (String × Text)) : Text :=
  .ofString "<style" ++ row attributes ++ .ofString ">"

theorem count_row {attributes : List (String × Text)}
    (hnames : ∀ a ∈ attributes, IsAttributeName a.1) {c : Char} (hc : c ∈ marks) :
    (row attributes).letters.count (.char c) =
      (if c = '\x22' then 2 else 0) * attributes.length := by
  have heach (as : List (String × Text)) (hnames : ∀ a ∈ as, IsAttributeName a.1) :
      ((as.map fun a => attributeText a.1 a.2).flatMap Text.letters).count (.char c) =
        (if c = '\x22' then 2 else 0) * as.length := by
    induction as with
    | nil => simp
    | cons a as ih =>
      obtain ⟨hown, hothers⟩ := List.forall_mem_cons.1 hnames
      rw [List.map_cons, List.flatMap_cons, List.count_append, count_attributeText hown a.2 hc,
        ih hothers, List.length_cons, Nat.mul_succ, Nat.add_comm]
  rw [row, Text.letters_join, heach, inOrder, List.length_mergeSort]
  intro a ha
  exact hnames a (List.mem_mergeSort.1 ha)

theorem attributeRow_texts (as : List (String × Text)) :
    attributeRow (as.map fun a => (a.1, .text a.2)) =
      .ok (Text.join (as.map fun a => attributeText a.1 a.2)) := by
  induction as with
  | nil => rfl
  | cons a as ih =>
    rw [List.map_cons, attributeRow, ih, List.map_cons, Text.join_cons]
    rfl

/-- The element of a stylesheet, unless an attribute has the name that is taken. -/
theorem styleElement_texts (css : Text) {attributes : List (String × Text)}
    (hfree : "self" ∉ attributes.map (·.1)) :
    styleElement css (attributes.map fun a => (a.1, .text a.2)) =
      .ok (startTag attributes ++ .ofString "\n" ++ css.mapRuns guard ++ .ofString "</style>") := by
  have hsorted : (attributes.map fun a => (a.1, Value.text a.2)).mergeSort
      (fun a b => decide (a.1 ≤ b.1)) = (inOrder attributes).map fun a => (a.1, .text a.2) := by
    symm
    apply List.map_mergeSort
    intro a _ b _
    rfl
  have hunused : (attributes.map fun a => (a.1, Value.text a.2)).any (·.1 == "self") = false := by
    rw [List.any_map, List.any_eq_false]
    intro a ha hsame
    exact hfree (List.mem_map.2 ⟨a, ha, by simpa using hsame⟩)
  rw [styleElement, hunused, hsorted]
  dsimp only
  rw [if_neg Bool.false_ne_true, attributeRow_texts]
  refine congrArg Except.ok ?_
  rw [startTag, row, Text.append_assoc (_ ++ _) (.ofString ">"), Text.ofString_append]
  rfl

theorem styleElement_self (css : Text) {attributes : List (String × Text)}
    (htaken : "self" ∈ attributes.map (·.1)) :
    styleElement css (attributes.map fun a => (a.1, .text a.2)) =
      .error (.call (.repeated "StringBackend.to_html" "self")) := by
  have hused : (attributes.map fun a => (a.1, Value.text a.2)).any (·.1 == "self") = true := by
    obtain ⟨a, ha, hsame⟩ := List.mem_map.1 htaken
    exact List.any_eq_true.2 ⟨_, List.mem_map_of_mem ha, by simpa using hsame⟩
  rw [styleElement, hused]
  rfl

/-! ### The element -/

theorem notMem_of_count_row {attributes : List (String × Text)}
    (hnames : ∀ a ∈ attributes, IsAttributeName a.1) {c : Char} (hc : c ∈ marks) (hq : c ≠ '\x22') :
    .char c ∉ (row attributes).letters := by
  rw [← List.count_eq_zero, count_row hnames hc, if_neg hq, Nat.zero_mul]

/-- No end tag begins in a start tag. -/
theorem unclosing_startTag {attributes : List (String × Text)}
    (hnames : ∀ a ∈ attributes, IsAttributeName a.1) : Unclosing (startTag attributes).letters := by
  have hwhole : (startTag attributes).letters =
      .char '<' :: ("style".toList.map .char ++ (row attributes).letters ++ [.char '>']) := by
    simp [startTag, Text.letters_append]
  have hclean := notMem_of_count_row hnames (c := '<') (by decide) (by decide)
  rw [hwhole]
  refine List.isChain_cons.2 ⟨fun y hy _ => ?_, unclosing_of_notMem ?_⟩
  · obtain rfl : Letter.char 's' = y := by simpa using hy
    decide
  · simpa using hclean

/-- The first mark of its kind is the one that ends the start tag. -/
theorem idxOf_startTag {attributes : List (String × Text)}
    (hnames : ∀ a ∈ attributes, IsAttributeName a.1) (t : Text) :
    (startTag attributes ++ t).letters.idxOf (.char '>') + 1 =
      (startTag attributes).letters.length := by
  have hclean : .char '>' ∉ "<style".toList.map Letter.char ++ (row attributes).letters := by
    rw [List.mem_append, not_or]
    exact ⟨by decide, notMem_of_count_row hnames (by decide) (by decide)⟩
  have hmark : (Text.ofString ">").letters = [.char '>'] := rfl
  simp only [startTag, Text.letters_append, Text.letters_ofString "<style", hmark]
  rw [List.append_assoc, List.idxOf_append_of_notMem hclean, List.singleton_append,
    List.idxOf_cons_self]
  simp only [List.length_append, List.length_singleton, Nat.add_zero]

end Html

/-- The element that a page has for a stylesheet. -/
theorem style_element_contained (css : Text) (edition : Nat) {attributes : List (String × Text)}
    (hnames : ∀ a ∈ attributes, Html.IsAttributeName a.1) :
    let element := Step.htmlOf (.memory css edition) (attributes.map fun a => (a.1, .text a.2))
    let tag := Html.startTag attributes
    ("self" ∈ attributes.map (·.1) →
      element = .error (.eval (.call (.repeated "StringBackend.to_html" "self")))) ∧
    ("self" ∉ attributes.map (·.1) → ∃ out : Text, element = .ok out ∧
      out = tag ++ .ofString "\n" ++ css.mapRuns Html.guard ++ .ofString "</style>" ∧
      (∀ i, out.OccursAt "</" i ↔ i + "</style>".length = out.letters.length) ∧
      out.letters.idxOf (.char '>') + 1 = tag.letters.length ∧
      tag.letters.count (.char '\x22') = 2 * attributes.length) := by
  intro element tag
  refine ⟨fun htaken => ?_, fun hfree => ?_⟩
  · show Step.htmlOf _ _ = _
    rw [Step.htmlOf, Html.styleElement_self css htaken]
    rfl
  · have hmade : element =
        .ok (tag ++ .ofString "\n" ++ css.mapRuns Html.guard ++ .ofString "</style>") := by
      show Step.htmlOf _ _ = _
      rw [Step.htmlOf, Html.styleElement_texts css hfree]
      rfl
    refine ⟨_, hmade, rfl, fun i => ?_, ?_, ?_⟩
    · have hunclosing : Html.Unclosing
          (tag ++ .ofString "\n" ++ css.mapRuns Html.guard).letters := by
        have hnewline : (Text.ofString "\n").letters = [.char '\n'] := rfl
        rw [Text.append_assoc, Text.letters_append, Text.letters_append, hnewline,
          List.singleton_append]
        refine (Html.unclosing_startTag hnames).append_cons ?_ (by decide)
        exact List.isChain_cons.2
          ⟨fun _ _ hsame => absurd hsame (by decide), Html.unclosing_letters_guard css⟩
      rw [Html.occursAt_append_endTag hunclosing i, Text.letters_append _ (.ofString "</style>"),
        List.length_append, Text.letters_ofString, List.length_map, String.length_toList]
      omega
    · rw [Text.append_assoc, Text.append_assoc]
      exact Html.idxOf_startTag hnames _
    · have hquotes := Html.count_row hnames (c := '\x22') (by decide)
      simp only [tag, Html.startTag, Text.letters_append, Text.letters_ofString,
        List.count_append, hquotes, if_true]
      simp

/-- A stylesheet with end marks that touch and one that is cut short by the end, and values that
would close their quotes, the start tag and the element. -/
theorem style_element_contained_hostile :
    let css : Text := .ofString "<</style></</script><"
    let attributes : List (String × Text) :=
      [("media", .ofString "\"></style><b a='"), ("data_id", .ofString "a&b")]
    (∀ a ∈ attributes, Html.IsAttributeName a.1) ∧
    Html.startTag attributes =
      .ofString "<style data-id=\"a&amp;b\" media=\"&quot;&gt;&lt;/style&gt;&lt;b a=&#x27;\">" ∧
    ∃ out : Text,
      Step.htmlOf (.memory css 0) (attributes.map fun a => (a.1, .text a.2)) = .ok out ∧
      (∀ i, out.OccursAt "</" i ↔ i + 8 = out.letters.length) ∧
      out.letters.idxOf (.char '>') + 1 = (Html.startTag attributes).letters.length ∧
      (Html.startTag attributes).letters.count (.char '\x22') = 4 := by
  intro css attributes
  have hnames : ∀ a ∈ attributes, Html.IsAttributeName a.1 := by decide
  have hsorted : Html.inOrder attributes = attributes.reverse := by
    simp [attributes, Html.inOrder, List.mergeSort]
  have htag : Html.startTag attributes = .ofString
      "<style data-id=\"a&amp;b\" media=\"&quot;&gt;&lt;/style&gt;&lt;b a=&#x27;\">" := by
    rw [Html.startTag, Html.row, hsorted]
    decide +kernel
  obtain ⟨out, hmade, -, hends, hfirst, hquotes⟩ :=
    (style_element_contained css 0 hnames).2 (by decide)
  exact ⟨hnames, htag, out, hmade, hends, hfirst, hquotes⟩

/-- An attribute may not have the name by which the stylesheet itself is passed, though that is an
identifier like others. -/
theorem self_attribute_refused :
    Html.IsAttributeName "self" ∧
      ∀ out : Text,
        Step.htmlOf (.memory (.ofString "") 0) [("self", .text (.ofString "x"))] ≠ .ok out := by
  refine ⟨by decide, fun out hmade => ?_⟩
  have hrefused : Step.htmlOf (.memory (.ofString "") 0) [("self", .text (.ofString "x"))] =
    .error (.eval (.call (.repeated "StringBackend.to_html" "self"))) := rfl
  rw [hrefused] at hmade
  cases hmade

end ScopedCss

import ScopedCss.Expr.Token
import ScopedCss.Proofs.CompiledBlocks
import ScopedCss.Proofs.Scanning

/-!
Texts as literals of generated classes. Between quotes a letter is written as itself or as an
escape, and either way with printable characters only, so that no literal goes over a line end. Main
statement: the lines that are printed for a template denote, read one by one and joined, exactly the
template, and the literal that class names are made with denotes the configured prefix.
-/
namespace ScopedCss

open Source (string? isQuote Inside string?_literal eq_of_isQuote)

theorem Letter.code_lt (l : Letter) : l.code < 0x110000 := by
  cases l with
  | char c =>
    have hvalid : c.toNat < 0xD800 ∨ (0xDFFF < c.toNat ∧ c.toNat < 0x110000) := c.valid
    simp only [code]
    omega
  | half h =>
    simp only [code, Half.code, Half.first]
    omega

theorem Letter.ofCode?_code (l : Letter) : ofCode? l.code = some l := by
  cases l with
  | half h => simp [ofCode?, code]
  | char c =>
    have hvalid : c.toNat < 0xD800 ∨ (0xDFFF < c.toNat ∧ c.toNat < 0x110000) := c.valid
    have hwhole : Half.ofCode? c.toNat = none := dif_neg (by simp only [Half.first]; omega)
    have hsmall : c.toNat < 0x110000 := code_lt (.char c)
    simp [ofCode?, code, hwhole, hsmall]

namespace Text

/-! ### Digits -/

theorem hexValue?_hexDigit : ∀ n < 16, hexValue? (hexDigit n) = some n := by decide

theorem length_hexDigits (width n : Nat) : (hexDigits width n).length = width := by
  induction width generalizing n with
  | zero => rfl
  | succ width ih => simp [hexDigits, ih]

/-- Digits read back as the number, if there are enough of them. -/
theorem hexNumber?_hexDigits {width n : Nat} (h : n < 16 ^ width) :
    hexNumber? (hexDigits width n) = some n := by
  induction width generalizing n with
  | zero =>
    obtain rfl : n = 0 := by simpa using h
    rfl
  | succ width ih =>
    have hhigh : n / 16 < 16 ^ width := Nat.div_lt_of_lt_mul (by rwa [← Nat.pow_succ'])
    have hlow := hexValue?_hexDigit (n % 16) (Nat.mod_lt n (by decide))
    have hread := ih hhigh
    unfold hexNumber? at hread ⊢
    simp [hexDigits, List.foldlM_append, hread, hlow, Nat.div_add_mod']

theorem mem_hexDigits {width n : Nat} {c : Char} (h : c ∈ hexDigits width n) :
    ∃ k < 16, c = hexDigit k := by
  induction width generalizing n with
  | zero => cases h
  | succ width ih =>
    rcases List.mem_append.1 h with h | h
    · exact ih h
    · exact ⟨n % 16, Nat.mod_lt n (by decide), List.mem_singleton.1 h⟩

theorem mark_of_hexWidth? {mark : Char} {width : Nat} (h : hexWidth? mark = some width) :
    mark = 'x' ∨ mark = 'u' ∨ mark = 'U' := by
  unfold hexWidth? at h
  split at h <;> simp_all

/-- An escape by number ends after as many digits as its mark says. -/
theorem escape?_hexDigits {mark : Char} {width : Nat} (hmarked : hexWidth? mark = some width)
    {l : Letter} (henough : l.code < 16 ^ width) (rest : List Char) :
    escape? (mark :: (hexDigits width l.code ++ rest)) = some ([l], rest) := by
  have hdigits : (hexDigits width l.code ++ rest).take width = hexDigits width l.code := by
    simp [length_hexDigits]
  have hbehind : (hexDigits width l.code ++ rest).drop width = rest := by
    simp [length_hexDigits]
  have hlong : width ≤ (hexDigits width l.code).length + rest.length := by
    simp [length_hexDigits]
  have hvalue : (hexNumber? (hexDigits width l.code)).bind Letter.ofCode? = some l := by
    rw [hexNumber?_hexDigits henough, Option.bind_some, Letter.ofCode?_code]
  rcases mark_of_hexWidth? hmarked with rfl | rfl | rfl <;>
    simp [escape?, isOctal, control?, hmarked, hlong, hdigits, hbehind, hvalue]

/-! ### Letters between quotes -/

/-- How a letter can stand between quotes: as itself, or behind a backslash as an escape that
neither closes the literal nor begins another escape. All of it is printable. -/
inductive Spells (quote : Char) : List Char → Letter → Prop
  | plain {c : Char} (hshown : isPrintable c) (hq : c ≠ quote) (hb : c ≠ '\x5c') :
      Spells quote [c] (.char c)
  | escaped {first : Char} {more : List Char} {l : Letter} (hshown : isPrintable first)
      (hbare : ∀ c ∈ more, isPrintable c ∧ c ≠ quote ∧ c ≠ '\x5c')
      (hread : ∀ rest, escape? (first :: (more ++ rest)) = some ([l], rest)) :
      Spells quote ('\x5c' :: first :: more) l

variable {quote : Char}

/-- Control characters that have a letter are written with it. -/
theorem spells_control {letter c : Char} (h : control? letter = some c) :
    Spells quote ['\x5c', letter] (.char c) := by
  unfold control? at h
  split at h <;> cases h
  all_goals exact .escaped (by decide) (by simp) fun rest => by simp [escape?, isOctal, control?]

theorem spells_hexDigits (hq : isQuote quote) {mark : Char} {width : Nat}
    (hmarked : hexWidth? mark = some width) {l : Letter} (henough : l.code < 16 ^ width) :
    Spells quote ('\x5c' :: mark :: hexDigits width l.code) l := by
  refine .escaped ?_ (fun c hc => ?_) (escape?_hexDigits hmarked henough)
  · rcases mark_of_hexWidth? hmarked with rfl | rfl | rfl <;> decide
  · have hdigit : ∀ k < 16, isPrintable (hexDigit k) ∧ hexDigit k ≠ '\x22' ∧ hexDigit k ≠ '\x27' ∧
        hexDigit k ≠ '\x5c' := by decide
    obtain ⟨k, hk, rfl⟩ := mem_hexDigits hc
    obtain ⟨hshown, hdouble, hsingle, hb⟩ := hdigit k hk
    rcases eq_of_isQuote hq with rfl | rfl
    · exact ⟨hshown, hdouble, hb⟩
    · exact ⟨hshown, hsingle, hb⟩

theorem spells_escapeLetter (hq : isQuote quote) (l : Letter) :
    Spells quote (escapeLetter quote l) l := by
  cases l with
  | half h =>
    refine spells_hexDigits (l := .half h) hq rfl ?_
    simp only [Letter.code, Half.code, Half.first]
    omega
  | char c =>
    rw [escapeLetter, escapeChar]
    -- one case for each way of writing a character, in the order in which they are tried
    split_ifs with hmark hn hr ht hshown htwo hfour
    · have hmarks : c = '\x5c' ∨ c = '\x27' ∨ c = '\x22' := by
        rcases eq_of_isQuote hq with rfl | rfl <;> tauto
      refine .escaped ?_ (by simp) fun rest => ?_
      · rcases hmarks with rfl | rfl | rfl <;> decide
      · rw [escape?, if_pos hmarks, List.nil_append]
    · exact spells_control (hn ▸ rfl)
    · exact spells_control (hr ▸ rfl)
    · exact spells_control (ht ▸ rfl)
    · exact .plain hshown (not_or.1 hmark).1 (not_or.1 hmark).2
    · exact spells_hexDigits (l := .char c) hq rfl htwo
    · exact spells_hexDigits (l := .char c) hq rfl hfour
    · have := Letter.code_lt (.char c)
      exact spells_hexDigits (l := .char c) hq rfl (by omega)

theorem Spells.unescape_append {w : List Char} {l : Letter} (h : Spells quote w l)
    (rest : List Char) : unescape (w ++ rest) = (unescape rest).map (l :: ·) := by
  cases h with
  | plain _ _ hb =>
    -- the last equation, for characters that are no backslash
    rw [List.singleton_append, unescape.eq_4]
    · exact fun heq _ => hb heq
    · exact hb
  | escaped _ _ hread =>
    have hfound := hread rest
    rw [List.cons_append, List.cons_append, unescape]
    · split
      · rename_i hmissing
        cases hfound.symm.trans hmissing
      · rename_i p hsame
        cases hfound.symm.trans hsame
        rfl
    · exact List.cons_ne_nil _ _

theorem Spells.printable {w : List Char} {l : Letter} (h : Spells quote w l) :
    ∀ c ∈ w, isPrintable c := by
  intro c hc
  cases h with
  | plain hshown =>
    obtain rfl := List.mem_singleton.1 hc
    exact hshown
  | escaped hshown hbare =>
    rcases List.mem_cons.1 hc with rfl | hc
    · decide
    · rcases List.mem_cons.1 hc with rfl | hc
      · exact hshown
      · exact (hbare c hc).1

/-- What ends a line on display is never printable. -/
theorem isLineEnd_of_isPrintable {c : Char} (h : isPrintable c) : isLineEnd c = false := by
  by_contra hending
  have hcodes : c.toNat < 0x20 ∨ c.toNat ∈ [0x85, 0x2028, 0x2029] := by
    simp only [isLineEnd, Bool.or_eq_true, Bool.and_eq_true, decide_eq_true_eq, beq_iff_eq,
      Bool.not_eq_false] at hending
    simp only [List.mem_cons, List.not_mem_nil, or_false]
    omega
  rcases hcodes with hlow | hbeyond
  · rw [not_isPrintable_of_control hlow] at h
    cases h
  · -- the line ends beyond ASCII stand in the first table of hidden code points
    have hhidden : ∀ code ∈ [0x85, 0x2028, 0x2029],
        ¬ code < 0x20 ∧ ¬ code < 0x7F ∧ code < 0x3400 ∧ inRanges hiddenLow code := by
      decide +kernel
    obtain ⟨hcontrol, hascii, hlow, hfound⟩ := hhidden _ hbeyond
    simp [isPrintable, hcontrol, hascii, hlow, hfound] at h

theorem ne_newline_of_isPrintable {c : Char} (h : isPrintable c) : c ≠ '\n' ∧ c ≠ '\r' := by
  constructor <;> rintro rfl <;> exact absurd h (by decide)

/-- What neither closes a literal nor begins an escape can stand in front of anything inside. -/
theorem inside_append {more rest : List Char}
    (hbare : ∀ c ∈ more, isPrintable c ∧ c ≠ quote ∧ c ≠ '\x5c') (hr : Inside quote rest) :
    Inside quote (more ++ rest) := by
  induction more with
  | nil => exact hr
  | cons c more ih =>
    obtain ⟨⟨hshown, hq, hb⟩, hbare⟩ := List.forall_mem_cons.1 hbare
    exact .char hq hb (ne_newline_of_isPrintable hshown).1 (ih hbare)

theorem Spells.inside_append {w : List Char} {l : Letter} (h : Spells quote w l)
    {rest : List Char} (hr : Inside quote rest) : Inside quote (w ++ rest) := by
  cases h with
  | plain hshown hq hb => exact .char hq hb (ne_newline_of_isPrintable hshown).1 hr
  | escaped hshown hbare _ =>
    exact .escape (ne_newline_of_isPrintable hshown).1 (Text.inside_append hbare hr)

/-! ### Rows of letters -/

theorem unescape_flatMap (hq : isQuote quote) (ls : List Letter) :
    unescape (ls.flatMap (escapeLetter quote)) = some ls := by
  induction ls with
  | nil => rw [List.flatMap_nil, unescape]
  | cons l ls ih =>
    rw [List.flatMap_cons, (spells_escapeLetter hq l).unescape_append, ih]
    rfl

theorem inside_flatMap (hq : isQuote quote) (ls : List Letter) :
    Inside quote (ls.flatMap (escapeLetter quote)) := by
  induction ls with
  | nil => exact .nil
  | cons l ls ih => exact (spells_escapeLetter hq l).inside_append ih

theorem printable_flatMap (hq : isQuote quote) (ls : List Letter) :
    ∀ c ∈ ls.flatMap (escapeLetter quote), isPrintable c := by
  intro c hc
  obtain ⟨l, -, hl⟩ := List.mem_flatMap.1 hc
  exact (spells_escapeLetter hq l).printable c hl

theorem toList_display (t : Text) : ∃ quote, isQuote quote ∧
    (display t).toList = quote :: (t.letters.flatMap (escapeLetter quote) ++ [quote]) := by
  refine ⟨_, ?_, String.toList_ofList⟩
  split <;> rfl

/-- A displayed text stands on one line. -/
theorem isLineEnd_of_mem_display {t : Text} {c : Char} (h : c ∈ (display t).toList) :
    isLineEnd c = false := by
  obtain ⟨quote, hq, hwritten⟩ := toList_display t
  have hshown : isPrintable quote := by
    rcases eq_of_isQuote hq with rfl | rfl <;> decide
  apply isLineEnd_of_isPrintable
  simp only [hwritten, List.mem_cons, List.mem_append, List.not_mem_nil, or_false] at h
  rcases h with rfl | h | rfl
  · exact hshown
  · exact printable_flatMap hq t.letters c h
  · exact hshown

/-- A displayed text is one literal, whatever stands behind it. -/
theorem string?_display (t : Text) (rest : List Char) :
    string? ((display t).toList ++ rest) = some ⟨.string, (display t).toList, rest⟩ := by
  obtain ⟨quote, hq, hwritten⟩ := toList_display t
  rw [hwritten, List.cons_append, List.append_assoc, List.singleton_append]
  exact string?_literal hq (inside_flatMap hq t.letters) rest

end Text

/-! ### Literals -/

namespace Expr

/-- The text that characters denote, if they are one string literal and nothing else. -/
def literal? (cs : List Char) : Option Text :=
  match string? cs with
  | some ⟨_, literal, []⟩ =>
    match textToken? literal with
    | some (.text t) => some t
    | _ => Option.none
  | _ => Option.none

theorem hasLineEnd_of_notMem {cs : List Char} (h : '\r' ∉ cs) : hasLineEnd cs = false := by
  fun_induction hasLineEnd cs with
  | case1 => rfl
  | case2 _ r ih => exact ih (by simp_all)
  | case3 c r _ ih =>
    obtain ⟨hc, hr⟩ := not_or.1 (List.mem_cons.not.1 h)
    simp [Ne.symm hc, ih hr]

theorem textToken?_display (t : Text) :
    textToken? (Text.display t).toList = some (.text t) := by
  obtain ⟨quote, hq, hwritten⟩ := Text.toList_display t
  have hbetween : inner (Text.display t).toList = t.letters.flatMap (Text.escapeLetter quote) := by
    rw [inner, hwritten, List.drop_one, List.tail_cons, List.dropLast_concat]
  have hunbroken : hasLineEnd (t.letters.flatMap (Text.escapeLetter quote)) = false :=
    hasLineEnd_of_notMem fun hmember =>
      (Text.ne_newline_of_isPrintable (Text.printable_flatMap hq t.letters _ hmember)).2 rfl
  simp only [textToken?, hbetween, hunbroken, decoded?, Text.unescape_flatMap hq]
  rw [if_neg (by decide), Option.map_some, Text.ofLetters_letters, Option.map_some]

/-- A displayed text denotes itself. -/
theorem literal?_display (t : Text) : literal? (Text.display t).toList = some t := by
  have hcut := Text.string?_display t []
  rw [List.append_nil] at hcut
  rw [literal?, hcut]
  simp only [textToken?_display]

end Expr

theorem Text.join_map_ofString (ls : List String) :
    join (ls.map ofString) = ofString (String.join ls) := by
  apply letters_injective
  simp [letters_join, List.flatMap_map, String.toList_join, List.map_flatMap]

namespace ClassDef

theorem literalsOf_ne_nil (template : String) : literalsOf template ≠ [] := by
  unfold literalsOf
  split <;> simp_all

theorem eq_blank_of_mem_indent {depth : Nat} {c : Char} (h : c ∈ (indent depth).toList) :
    c = ' ' := by
  rw [indent, String.toList_ofList] at h
  exact List.eq_of_mem_replicate h

/-- What stands in front of a displayed text is all there is to trim. -/
theorem trim_indent_display (depth : Nat) (t : Text) :
    Text.trim (indent depth ++ Text.display t).toList = (Text.display t).toList := by
  obtain ⟨quote, hq, hwritten⟩ := Text.toList_display t
  have hsolid : Text.isBlank quote = false := by
    rcases eq_of_isQuote hq with rfl | rfl <;> decide
  have hpadding : ∀ c ∈ (indent depth).toList, Text.isBlank c := by
    intro c hc
    rw [eq_blank_of_mem_indent hc]
    decide
  -- trimming stops at the quotes on both sides
  rw [Text.trim, String.toList_append, List.dropWhile_append_of_pos hpadding, hwritten,
    List.dropWhile_cons_of_neg (by simp [hsolid]), Text.trimEnd]
  simp [hsolid]

/-- Literals are quoted strings, that is, displayed texts without halves. -/
theorem literalLines_ofCompiled (c : CompiledStyle) (depth : Nat) :
    (ofCompiled c).literalLines depth =
      (literalsOf c.template.text).map fun l => indent depth ++ Text.display (.ofString l) := by
  simp only [Text.display_ofString]
  rfl

/-- The lines of a template, each without its padding, denote the texts that the template is cut
into. -/
theorem mapM_literal?_literalLines (c : CompiledStyle) (depth : Nat) :
    (((ofCompiled c).literalLines depth).mapM fun line =>
        Expr.literal? (Text.trim line.toList)) =
      some ((literalsOf c.template.text).map Text.ofString) := by
  rw [literalLines_ofCompiled, List.mapM_map]
  simp only [Function.comp_def, trim_indent_display, Expr.literal?_display]
  exact List.mapM_pure

theorem line_of_literalLines {c : CompiledStyle} {depth : Nat} {line : String}
    (h : line ∈ (ofCompiled c).literalLines depth) :
    line = indent depth ++ String.ofList (Text.trim line.toList) ∧
      ∀ ch ∈ line.toList, Text.isLineEnd ch = false := by
  rw [literalLines_ofCompiled] at h
  obtain ⟨l, -, rfl⟩ := List.mem_map.1 h
  refine ⟨?_, fun ch hch => ?_⟩
  · rw [trim_indent_display, String.ofList_toList]
  · rw [String.toList_append, List.mem_append] at hch
    rcases hch with hpadding | hliteral
    · rw [eq_blank_of_mem_indent hpadding]
      decide
    · exact Text.isLineEnd_of_mem_display hliteral

/-- Every field has a line that names it, with the literal of the prefix behind the name. -/
theorem field_mem_newLines (d : ClassDef) {f : String × Nat} (hmember : f ∈ d.fields) :
    indent 2 ++ f.1 ++ "=" ++ Text.display (.ofString d.classPrefix) ++
      (" + str(start + " ++ toString f.2 ++ "),") ∈ d.newLines := by
  have hfilled : d.fields.isEmpty = false := by
    simpa using List.ne_nil_of_mem hmember
  rw [Text.display_ofString, ← String.append_assoc, ← String.append_assoc, newLines, hfilled]
  refine List.mem_append_right _ (List.mem_append_left _ (List.mem_append_right _ ?_))
  exact List.mem_map_of_mem hmember

end ClassDef

/-- The literals of a generated class denote what they were made from: those in the lines of a
template, stripped of their padding and joined, the template, and the one behind the name of each
field the prefix of its class name. -/
theorem emitted_literals_denote (c : CompiledStyle) (depth : Nat) :
    let d := ClassDef.ofCompiled c
    let lines := d.literalLines depth
    (lines ≠ [] ∧
      (∀ line ∈ lines, line = ClassDef.indent depth ++ String.ofList (Text.trim line.toList) ∧
        ∀ ch ∈ line.toList, Text.isLineEnd ch = false) ∧
      (lines.mapM fun line => Expr.literal? (Text.trim line.toList)).map Text.join =
        some (.ofString c.template.text)) ∧
    ∀ f ∈ d.fields, ∃ literal : String,
      let rest := " + str(start + " ++ toString f.2 ++ "),"
      ClassDef.indent 2 ++ f.1 ++ "=" ++ literal ++ rest ∈ d.newLines ∧
      string? (literal.toList ++ rest.toList) = some ⟨.string, literal.toList, rest.toList⟩ ∧
      (∀ ch ∈ literal.toList, Text.isLineEnd ch = false) ∧
      Expr.literal? literal.toList = some (.ofString c.config.classPrefix) := by
  intro d lines
  refine ⟨⟨?_, fun line => ClassDef.line_of_literalLines, ?_⟩, fun f hmember => ?_⟩
  · show (ClassDef.ofCompiled c).literalLines depth ≠ []
    rw [ClassDef.literalLines_ofCompiled]
    exact List.map_eq_nil_iff.not.2 (ClassDef.literalsOf_ne_nil _)
  · show Option.map _ (((ClassDef.ofCompiled c).literalLines depth).mapM _) = _
    rw [ClassDef.mapM_literal?_literalLines, Option.map_some, Text.join_map_ofString,
      ClassDef.join_literalsOf]
  · have hline := ClassDef.field_mem_newLines d hmember
    rw [ClassDef.classPrefix_ofCompiled hmember] at hline
    exact ⟨Text.display (.ofString c.config.classPrefix), hline, Text.string?_display _ _,
      fun _ => Text.isLineEnd_of_mem_display, Expr.literal?_display _⟩

/-- Both quotes in one line, a line end of two characters, one beyond ASCII in a line of its own,
an escape of each width and a prefix that changes the quote. -/
theorem emitted_literals_denote_hostile :
    let text := "it's\r\n\u2028\x01'\"\\".push (Char.ofNat 0x10FFFF)
    let c : CompiledStyle := ⟨{}, ⟨[("a", none)]⟩, ⟨text, []⟩,
      { classPrefix := "x'", classPrefix_ne := by decide }⟩
    let d := ClassDef.ofCompiled c
    d.literalLines 1 =
      ["    \"it's\\r\\n\"", "    '\\u2028'", "    '\\x01\\'\"\\\\\\U0010ffff'"] ∧
    ((d.literalLines 1).mapM fun line => Expr.literal? (Text.trim line.toList)).map Text.join =
      some (.ofString text) ∧
    ("a", 0) ∈ d.fields ∧
    ∃ literal : String, "        a=" ++ literal ++ " + str(start + 0)," ∈ d.newLines ∧
      Expr.literal? literal.toList = some (.ofString "x'") := by
  intro text c d
  have hlines : d.literalLines 1 =
      ["    \"it's\\r\\n\"", "    '\\u2028'", "    '\\x01\\'\"\\\\\\U0010ffff'"] := by
    decide +kernel
  have hfield : ("a", 0) ∈ d.fields := by decide +kernel
  obtain ⟨⟨-, -, hjoined⟩, hbehind⟩ := emitted_literals_denote c 1
  obtain ⟨literal, hline, -, -, hdenoted⟩ := hbehind _ hfield
  exact ⟨hlines, hjoined, hfield, literal, hline, hdenoted⟩

end ScopedCss

import Mathlib.Data.List.Forall2
import Mathlib.Data.List.TakeWhile
import ScopedCss.Proofs.Lexemes
import ScopedCss.Proofs.Outcomes
import ScopedCss.Proofs.Selectors

/-! Which selectors are accepted, and what becomes of them. A dot has to start a class name, which
is the longest run of word characters behind it and has no hyphen at its end. The dots are looked at
from left to right, so the first one that starts no class name is what a refused selector is refused
for. What is accepted can be written down and read again without a change. -/
namespace ScopedCss

open Text (isWordChar quote)

namespace Selector

/-- What stands behind each dot of a text, from left to right. -/
def behindDots : List Char → List (List Char)
  | [] => []
  | c :: r => if c = '.' then r :: behindDots r else behindDots r

/-- The class name that a dot starts: all word characters directly behind it, at least one, and no
hyphen follows them. -/
structure Names (name after : List Char) : Prop where
  ne_nil : name ≠ []
  word : ∀ c ∈ name, isWordChar c
  ends : ∃ rest, after = name ++ rest ∧ ∀ c, rest.head? = some c → isWordChar c = false ∧ c ≠ '-'

/-- What is wrong with a dot that starts no class name, and what is said about it. -/
inductive Offends (literal : String) : List Char → String → Prop
  | missingName {after : List Char} (h : ∀ c, after.head? = some c → isWordChar c = false) :
    Offends literal after
      ("Not a valid selector: expected a classname after '.' in " ++ quote literal)
  | hyphen {name rest : List Char} (hne : name ≠ []) (hword : ∀ c ∈ name, isWordChar c) :
    Offends literal (name ++ '-' :: rest)
      ("Not a valid selector: '-' directly after classname " ++ quote (String.ofList name) ++
        " in " ++ quote literal)

section
variable {literal : String} {cs name after run rest : List Char} {reason : String}

theorem dot_notMem_of_word (h : ∀ c ∈ run, isWordChar c) : '.' ∉ run := fun hdot => by
  cases h '.' hdot

theorem behindDots_append (h : '.' ∉ run) (rest : List Char) :
    behindDots (run ++ rest) = behindDots rest := by
  induction run with
  | nil => rfl
  | cons c run ih =>
    obtain ⟨hc, hrun⟩ := not_or.1 (List.mem_cons.not.1 h)
    rw [List.cons_append, behindDots, if_neg (Ne.symm hc), ih hrun]

/-- A dot does not offend and start a class name at once. -/
theorem Offends.not_names (h : Offends literal after reason) : ¬ Names name after := by
  rintro ⟨hne, hword, rest, hafter, hrest⟩
  cases h with
  | missingName hnone =>
    obtain ⟨c, r, rfl⟩ := List.exists_cons_of_ne_nil hne
    have hc := hnone c (by rw [hafter]; rfl)
    rw [hword c List.mem_cons_self] at hc
    cases hc
  | @hyphen run r _ hrun =>
    -- both runs are the longest one, so what follows them is the same
    have hdrop := (Source.split_run hrun (r := '-' :: r) (by simp; rfl)).2
    rw [hafter, (Source.split_run hword fun c hc => (hrest c hc).1).2] at hdrop
    exact (hrest '-' (by rw [hdrop]; rfl)).2 rfl

/-! ### Cutting -/

theorem behindDots_dot (r : List Char) :
    behindDots ('.' :: r) = r :: behindDots (r.dropWhile isWordChar) := by
  have hrun : '.' ∉ r.takeWhile isWordChar := dot_notMem_of_word fun c => List.mem_takeWhile_imp
  have hdots := behindDots_append hrun (r.dropWhile isWordChar)
  rw [List.takeWhile_append_dropWhile] at hdots
  rw [behindDots, if_pos rfl, hdots]

theorem behindDots_raw {c : Char} (hc : c ≠ '.') (r : List Char) :
    behindDots (c :: r) = behindDots (r.dropWhile (· != '.')) := by
  have hrun : '.' ∉ r.takeWhile (· != '.') := fun hdot => by simpa using List.mem_takeWhile_imp hdot
  have hdots := behindDots_append hrun (r.dropWhile (· != '.'))
  rw [List.takeWhile_append_dropWhile] at hdots
  rw [behindDots, if_neg hc, hdots]

/-- The word characters behind a dot, if there are some and no hyphen follows. -/
theorem names_takeWhile {r : List Char} (hne : r.takeWhile isWordChar ≠ [])
    (hhyphen : (r.dropWhile isWordChar).head? ≠ some '-') :
    Names (r.takeWhile isWordChar) r := by
  refine ⟨hne, fun c => List.mem_takeWhile_imp, r.dropWhile isWordChar,
    List.takeWhile_append_dropWhile.symm, fun c hc => ⟨head?_dropWhile hc, ?_⟩⟩
  rintro rfl
  exact hhyphen hc

/-- The class names of a selector that is cut are those that its dots start, in order. -/
theorem names_of_split {parts : List Part} (h : split cs = .ok parts) :
    List.Forall₂ (fun n after => Names n.toList after) (parts.filterMap Part.name?)
      (behindDots cs) := by
  fun_induction split cs generalizing parts with
  | case1 =>
    cases h
    exact .nil
  | case2 r => cases h
  | case3 r => cases h
  | case4 r name hne hhyphen =>
    rename_i ih
    obtain ⟨others, hothers, rfl⟩ := map_eq_ok.1 h
    rw [behindDots_dot]
    refine .cons ?_ (ih hothers)
    rw [String.toList_ofList]
    exact names_takeWhile hne hhyphen
  | case5 c r hc ih =>
    obtain ⟨others, hothers, rfl⟩ := map_eq_ok.1 h
    rw [behindDots_raw hc, List.filterMap_cons_none rfl]
    exact ih hothers

/-- A selector is not cut because of its first dot that starts no class name. -/
theorem offends_of_split {fault : Fault} (h : split cs = .error fault) (literal : String) :
    ∃ good after others, behindDots cs = good ++ after :: others ∧
      (∀ a ∈ good, ∃ name, Names name a) ∧
      Offends literal after (fault.toParseFault literal).reason := by
  fun_induction split cs with
  | case1 => cases h
  | case2 r name hnone =>
    cases h
    have hfirst : ∀ c, r.head? = some c → isWordChar c = false := by
      intro c hc
      obtain ⟨r', rfl⟩ := List.head?_eq_some_iff.1 hc
      simpa [name] using hnone
    exact ⟨[], r, _, behindDots_dot r, by simp, .missingName hfirst⟩
  | case3 r name hne hhyphen =>
    cases h
    obtain ⟨r', hr'⟩ := List.head?_eq_some_iff.1 hhyphen
    have hr : r = name ++ '-' :: r' := by rw [← hr', List.takeWhile_append_dropWhile]
    refine ⟨[], r, _, behindDots_dot r, by simp, ?_⟩
    have hoffends : Offends literal (name ++ '-' :: r') _ :=
      .hyphen hne fun c => List.mem_takeWhile_imp
    rwa [← hr] at hoffends
  | case4 r name hne hhyphen =>
    rename_i ih
    cases hs : split (r.dropWhile isWordChar) with
    | ok others =>
      rw [hs] at h
      cases h
    | error f =>
      rw [hs] at h
      cases h
      obtain ⟨good, after, others, hdots, hgood, hoffends⟩ := ih hs
      refine ⟨r :: good, after, others, by rw [behindDots_dot, hdots]; rfl, ?_, hoffends⟩
      exact List.forall_mem_cons.2 ⟨⟨name, names_takeWhile hne hhyphen⟩, hgood⟩
  | case5 c r hc ih =>
    cases hs : split (r.dropWhile (· != '.')) with
    | ok others =>
      rw [hs] at h
      cases h
    | error f =>
      rw [hs] at h
      cases h
      rw [behindDots_raw hc]
      exact ih hs

end

/-! ### Literals -/

/-- What a literal is refused for, by the text inside its blanks. -/
theorem parse_eq_error_iff {literal : String} {location : Option Location} {e : ParseError} :
    parse literal location = .error e ↔
      (Text.trim literal.toList = [] ∧ e = ⟨.emptySelector, location⟩) ∨
        ∃ c r fault, Text.trim literal.toList = c :: r ∧ c ≠ '@' ∧ split (c :: r) = .error fault ∧
          e = ⟨fault.toParseFault literal, location⟩ := by
  unfold parse
  cases hcs : Text.trim literal.toList with
  | nil => simp [eq_comm]
  | cons c r =>
    by_cases hc : c = '@'
    · subst hc
      simp
    · cases hs : split (c :: r) <;> simp [hc, hs, eq_comm]

section
variable {literal : String} {location : Option Location} {h : Header} {e : ParseError}

theorem trim_ne_nil_of_parse (hparse : parse literal location = .ok h) :
    Text.trim literal.toList ≠ [] := by
  rcases (parse_eq_ok_iff.1 hparse).2 with ⟨r, hr, -⟩ | ⟨c, r, hr, -⟩ <;> simp [hr]

/-- A prelude has no class names, and a selector has those that its dots start. -/
theorem names_of_parse (hparse : parse literal location = .ok h) :
    ((Text.trim literal.toList).head? ≠ some '@' →
      List.Forall₂ (fun n after => Names n.toList after) h.classnames
        (behindDots (Text.trim literal.toList))) ∧
    ((Text.trim literal.toList).head? = some '@' → h.classnames = []) := by
  rcases (parse_eq_ok_iff.1 hparse).2 with ⟨r, hr, hparts, -⟩ | ⟨c, r, hr, hc, hsplit, -⟩ <;>
    rw [hr]
  · refine ⟨fun hno => absurd rfl hno, fun _ => ?_⟩
    rw [Header.classnames, hparts]
    rfl
  · exact ⟨fun _ => names_of_split hsplit, fun hat => absurd (Option.some.inj hat) hc⟩

/-- A literal that is not blank is refused for its first dot that starts no class name. -/
theorem offends_of_parse (hparse : parse literal location = .error e)
    (hne : Text.trim literal.toList ≠ []) :
    (Text.trim literal.toList).head? ≠ some '@' ∧ ∃ good after others,
      behindDots (Text.trim literal.toList) = good ++ after :: others ∧
        (∀ a ∈ good, ∃ name, Names name a) ∧ Offends literal after e.fault.reason ∧
        e.location = location := by
  rcases parse_eq_error_iff.1 hparse with ⟨hnil, -⟩ | ⟨c, r, fault, hr, hc, hsplit, rfl⟩
  · exact absurd hnil hne
  · obtain ⟨good, after, others, hdots, hgood, hoffends⟩ := offends_of_split hsplit literal
    rw [hr]
    exact ⟨fun hat => hc (Option.some.inj hat), good, after, others, hdots, hgood, hoffends, rfl⟩

end
end Selector

/-- A selector is accepted exactly if there is something inside its blanks that is the prelude of an
at-rule or in which every dot starts a class name. One that is not accepted is refused for its first
dot that starts none. The class names of one that is accepted are those that its dots start, in
order; a prelude is not looked into and has none. -/
theorem selector_accepted_iff (literal : String) (location : Option Location) :
    let s := Text.trim literal.toList
    ((∃ h, Selector.parse literal location = .ok h) ↔
      s ≠ [] ∧ (s.head? = some '@' ∨
        ∀ after ∈ Selector.behindDots s, ∃ name, Selector.Names name after)) ∧
    (∀ e, s ≠ [] → Selector.parse literal location = .error e →
      ∃ good after others, Selector.behindDots s = good ++ after :: others ∧
        (∀ a ∈ good, ∃ name, Selector.Names name a) ∧
        Selector.Offends literal after e.fault.reason ∧ e.location = location) ∧
    ∀ h, Selector.parse literal location = .ok h →
      (s.head? ≠ some '@' →
        List.Forall₂ (fun n after => Selector.Names n.toList after) h.classnames
          (Selector.behindDots s)) ∧
      (s.head? = some '@' → h.classnames = []) := by
  intro s
  refine ⟨⟨?_, ?_⟩, fun e hne he => (Selector.offends_of_parse he hne).2,
    fun h => Selector.names_of_parse⟩
  · rintro ⟨h, hparse⟩
    refine ⟨Selector.trim_ne_nil_of_parse hparse, or_iff_not_imp_left.2 fun hat => ?_⟩
    have hnames := ((Selector.names_of_parse hparse).1 hat).flip
    exact ((List.forall₂_and_left _ _).1 (hnames.imp fun _ n hn => ⟨⟨n.toList, hn⟩, hn⟩)).1
  · rintro ⟨hne, hall⟩
    cases hparse : Selector.parse literal location with
    | ok h => exact ⟨h, rfl⟩
    | error e =>
      obtain ⟨hat, good, after, others, hdots, -, hoffends, -⟩ :=
        Selector.offends_of_parse hparse hne
      obtain ⟨name, hname⟩ := hall.resolve_left hat after (by simp [s, hdots])
      exact absurd hname hoffends.not_names

/-- The first dot starts a class name that a letter of no word ends, the second one is refused for
its hyphen, and the third one, which has no name behind it, is not come to. -/
theorem selector_accepted_iff_secondDot :
    Selector.parse " .a1é.b-c. " none =
      .error ⟨.hyphenAfterClassname "b" " .a1é.b-c. ", none⟩ ∧
    ∃ good after others,
      Selector.behindDots (Text.trim " .a1é.b-c. ".toList) = good ++ after :: others ∧
        (∀ a ∈ good, ∃ name, Selector.Names name a) ∧
        Selector.Offends " .a1é.b-c. " after
          (ParseFault.hyphenAfterClassname "b" " .a1é.b-c. ").reason := by
  have herror : Selector.parse " .a1é.b-c. " none =
      .error ⟨.hyphenAfterClassname "b" " .a1é.b-c. ", none⟩ := by decide +kernel
  have hne : Text.trim " .a1é.b-c. ".toList ≠ [] := by decide
  obtain ⟨good, after, others, hdots, hgood, hoffends, -⟩ :=
    (selector_accepted_iff " .a1é.b-c. " none).2.1 _ hne herror
  exact ⟨herror, good, after, others, hdots, hgood, hoffends⟩

/-- A prelude is accepted with a dot in it that starts a class name, and does not have that name. -/
theorem prelude_keeps_dots :
    ∃ h, Selector.parse "@media (min-width: 1.5em)" none = .ok h ∧
      Selector.behindDots (Text.trim "@media (min-width: 1.5em)".toList) = ["5em)".toList] ∧
      Selector.Names "5em".toList "5em)".toList ∧
      ¬ List.Forall₂ (fun n after => Selector.Names n.toList after) h.classnames
        (Selector.behindDots (Text.trim "@media (min-width: 1.5em)".toList)) := by
  have hdots : Selector.behindDots (Text.trim "@media (min-width: 1.5em)".toList) =
      ["5em)".toList] := by decide +kernel
  refine ⟨⟨[.raw "@media (min-width: 1.5em)"], none, true⟩, by decide +kernel, hdots, ?_, ?_⟩
  · have hname : ['5', 'e', 'm'].all isWordChar := rfl
    exact ⟨by decide, List.all_eq_true.1 hname, [')'], by decide, by simp; decide⟩
  · rw [hdots]
    rintro ⟨⟩

/-! ### Written selectors -/

/-- The text of a header that was read is the literal without the blanks around it. Every header,
read from a literal or made of a name, is read again from its own text, so headers with one text
have the same parts. -/
theorem selector_text_canonical :
    (∀ literal location h, Selector.parse literal location = .ok h →
      h.text = String.ofList (Text.trim literal.toList)) ∧
    (∀ h : Header, h.Written → Selector.parse h.text h.location = .ok h) ∧
    ∀ h h' : Header, h.Written → h'.Written → h'.text = h.text →
      h'.parts = h.parts ∧ h'.isAtRule = h.isAtRule := by
  refine ⟨fun literal location h hparse => ?_, fun h hh => hh.parse_text h.location, ?_⟩
  · rw [← Selector.text_of_parse hparse, String.ofList_toList]
  · intro h h' hh hh' htext
    have hsame := hh.parse_text none
    rw [← htext, hh'.parse_text none, Except.ok.injEq, Header.mk.injEq] at hsame
    exact ⟨hsame.1, hsame.2.2⟩

/-- Blanks of several kinds around a selector whose class names touch, and the header of a name that
has the same parts as a literal. -/
theorem selector_text_canonical_touching :
    (∃ h, Selector.parse "\u00a0a.b_1.2 >\n.c \t" (some ⟨2, 5⟩) = .ok h ∧
      h.text = "a.b_1.2 >\n.c" ∧ Selector.parse "a.b_1.2 >\n.c" (some ⟨2, 5⟩) = .ok h) ∧
    (Selector.parse ".b_1 " none = .ok ⟨[.classname "b_1"], none, false⟩ ∧
      (Header.ofIdentifier "b_1" (some ⟨1, 3⟩)).parts = [.classname "b_1"]) := by
  have hparse : Selector.parse "\u00a0a.b_1.2 >\n.c \t" (some ⟨2, 5⟩) =
      .ok ⟨[.raw "a", .classname "b_1", .classname "2", .raw " >\n", .classname "c"],
        some ⟨2, 5⟩, false⟩ := by decide +kernel
  have htext : Header.text _ = "a.b_1.2 >\n.c" :=
    (selector_text_canonical.1 _ _ _ hparse).trans (by decide +kernel)
  have hagain := selector_text_canonical.2.1 _ (.inr ⟨_, _, hparse⟩)
  rw [htext] at hagain
  have hname : Header.Written (.ofIdentifier "b_1" (some ⟨1, 3⟩)) :=
    .inl ⟨"b_1", by decide, List.all_eq_true.1 (by decide), _, rfl⟩
  have hliteral : Selector.parse ".b_1 " none = .ok ⟨[.classname "b_1"], none, false⟩ := by
    decide +kernel
  have hsame := selector_text_canonical.2.2 _ _ (.inr ⟨_, _, hliteral⟩) hname (by decide +kernel)
  exact ⟨⟨_, hparse, htext, hagain⟩, hliteral, hsame.1⟩

end ScopedCss

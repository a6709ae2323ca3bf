import Mathlib.Data.List.Forall2
import ScopedCss.Proofs.Relocation
import ScopedCss.Proofs.TokenEnds

/-! The layout of a source: the tokens that a reader takes, and the gaps in front of them. What
stands in a gap outside the values of entries has no part in what is read, so any blanks and
comments can stand there. Two readers that differ only in locations go through the two layouts side
by side. -/
namespace ScopedCss

/-- One point in place of every location, so that what is moved there is told apart by all else. -/
def Location.erased (_ : Location) : Location := Location.start

namespace Source

/-! ### Layouts -/

/-- A token with the gap in front of it. -/
structure Segment where
  gap : List Char
  text : List Char
  /-- The gap stands between two tokens of one value. -/
  inValue : Bool
deriving DecidableEq, Repr

/-- What a text is made of; all that stands behind the last token comes last. -/
structure Layout where
  segments : List Segment
  trailing : List Char
deriving DecidableEq, Repr

def Layout.chars (l : Layout) : List Char :=
  l.segments.flatMap (fun x => x.gap ++ x.text) ++ l.trailing

/-- The layout that a reader finds in a text, as far as it can read it. -/
def layoutFrom (r : Reader) (here : Location) (cs : List Char) : Layout :=
  let gap := (splitGap false cs).1
  match _h : (splitGap false cs).2 with
  | [] => ⟨[], cs⟩
  | c :: rest =>
    match _hc : scan? r.stage.allows (c :: rest) with
    | none => ⟨[], cs⟩
    | some cut =>
      match r.step gap ⟨cut.terminal, cut.text, here.after gap⟩ with
      | none => ⟨[], cs⟩
      | some r' =>
        let others := layoutFrom r' ((here.after gap).after cut.text) cut.rest
        ⟨⟨gap, cut.text, r.stage.keepsGap cut.terminal⟩ :: others.segments, others.trailing⟩
termination_by cs.length
decreasing_by exact length_rest_lt _h _hc

def layout (source : String) : Layout :=
  layoutFrom Reader.start Location.start source.toList

/-- A layout leaves out nothing of its text. -/
theorem chars_layoutFrom (r : Reader) (here : Location) (cs : List Char) :
    (layoutFrom r here cs).chars = cs := by
  fun_induction layoutFrom r here cs with
  | case1 r here cs | case2 r here cs | case3 r here cs => simp [Layout.chars]
  | case4 r here cs gap c rest hgap cut hscan r' hstep others ih =>
    have hsplit := splitGap_append false cs
    rw [hgap, ← (scan?_of hscan).append, ← ih] at hsplit
    simpa [Layout.chars, others] using hsplit

theorem layoutFrom_end {r : Reader} {cs : List Char} (here : Location)
    (hend : (splitGap false cs).2 = []) : layoutFrom r here cs = ⟨[], cs⟩ := by
  rw [layoutFrom]
  split
  next => rfl
  next h =>
    rw [hend] at h
    cases h

theorem layoutFrom_token {r r' : Reader} {here : Location} {cs gap rest : List Char} {c : Char}
    {cut : Cut} (hgap : splitGap false cs = (gap, c :: rest))
    (hscan : scan? r.stage.allows (c :: rest) = some cut)
    (hstep : r.step gap ⟨cut.terminal, cut.text, here.after gap⟩ = some r') :
    layoutFrom r here cs =
      ⟨⟨gap, cut.text, r.stage.keepsGap cut.terminal⟩ ::
          (layoutFrom r' ((here.after gap).after cut.text) cut.rest).segments,
        (layoutFrom r' ((here.after gap).after cut.text) cut.rest).trailing⟩ := by
  rw [layoutFrom]
  split
  next h =>
    rw [hgap] at h
    cases h
  next c' rest' h =>
    rw [hgap] at h
    cases h
    split
    next hc =>
      rw [hscan] at hc
      cases hc
    next cut' hc =>
      rw [hscan] at hc
      cases hc
      simp only [hgap, hstep]

/-! ### Changes of the layout -/

/-- Blanks, and comments that end with their line. -/
inductive Padding : List Char → Prop
  | nil : Padding []
  | blank {c : Char} {others : List Char} (hc : isSpace c) (h : Padding others) :
      Padding (c :: others)
  | comment {text others : List Char} (hline : '\n' ∉ text) (h : Padding others) :
      Padding ('#' :: (text ++ '\n' :: others))

theorem splitGap_comment {text : List Char} (hline : '\n' ∉ text) (more : List Char) :
    splitGap true (text ++ '\n' :: more) =
      (text ++ '\n' :: (splitGap false more).1, (splitGap false more).2) := by
  induction text with
  | nil =>
    rw [List.nil_append, splitGap_cons_of_some (by rfl)]
    rfl
  | cons c text ih =>
    have hc : c ≠ '\n' := fun h => hline (h ▸ List.mem_cons_self)
    have hnext : gapNext true c = some true := by simp [gapNext, hc]
    rw [List.cons_append, splitGap_cons_of_some hnext, ih fun h => hline (List.mem_cons_of_mem c h)]
    rfl

theorem Padding.skipped {gap : List Char} (h : Padding gap) : Skipped gap := by
  induction h with
  | nil => exact fun _ => rfl
  | @blank c others hc _ ih =>
    intro more
    have hnext : gapNext false c = some false := by simp [gapNext, hc]
    rw [List.cons_append, splitGap_cons_of_some hnext, ih, List.cons_append]
  | @comment text others hline _ ih =>
    intro more
    rw [List.cons_append, List.append_assoc, List.cons_append, splitGap_cons_of_some (by rfl),
      splitGap_comment hline, ih]
    simp

/-- A gap that is left as it was or that is padded anew. -/
def Repadded (gap gap' : List Char) : Prop := gap' = gap ∨ (gap' ≠ [] ∧ Padding gap')

/-- The same token with its gap repadded, which the gaps inside of values never are. -/
structure Segment.Relaid (x x' : Segment) : Prop where
  text : x'.text = x.text
  gap : Repadded x.gap x'.gap
  value : x.inValue → x'.gap = x.gap

/-- The same tokens with other gaps outside of values. -/
structure Layout.Relaid (l l' : Layout) : Prop where
  segments : List.Forall₂ Segment.Relaid l.segments l'.segments
  trailing : Repadded l.trailing l'.trailing

/-! ### Readers side by side -/

/-- Readers that differ in locations only. -/
def Reader.Parallel (r r₂ : Reader) : Prop :=
  r₂.moved Location.erased [] = r.moved Location.erased []

section Parallel
variable {r r₂ r' : Reader}

theorem Reader.Parallel.allows (h : r.Parallel r₂) : r₂.stage.allows = r.stage.allows := by
  have hstage := congrArg (fun x => x.stage.allows) h
  simpa [Reader.moved] using hstage

theorem Reader.Parallel.done (h : r.Parallel r₂) :
    r₂.done.map (Block.relocate Location.erased) =
      r.done.map (Block.relocate Location.erased) :=
  congrArg Reader.done h

theorem Reader.Parallel.isFinished (h : r.Parallel r₂) (hr : r.isFinished) : r₂.isFinished := by
  have hmoved := r.isFinished_moved Location.erased [] hr
  rw [← h] at hmoved
  obtain ⟨done, stage⟩ := r₂
  cases stage <;> simp_all [Reader.isFinished, Reader.moved, Stage.relocate]

theorem keepsGap_relocate (f : Location → Location) (s : Stage) :
    (s.relocate f).keepsGap = s.keepsGap := by
  cases s <;> rfl

/-- Parallel readers take parallel steps with a token, with any gap where it is not kept. -/
theorem Reader.Parallel.step {gap gap' w : List Char} {t : Terminal} {l : Location}
    (h : r.Parallel r₂) (hstep : r.step gap ⟨t, w, l⟩ = some r')
    (hgap : r.stage.keepsGap t → gap' = gap) (l' : Location) :
    ∃ r₂', r₂.step gap' ⟨t, w, l'⟩ = some r₂' ∧ r'.Parallel r₂' := by
  have hmoved := r.step_moved Location.erased [] gap ⟨t, w, l⟩
  have hmoved' := r₂.step_moved Location.erased [] gap' ⟨t, w, l'⟩
  rw [hstep, Option.map_some] at hmoved
  have hgap' : (r.moved Location.erased []).step gap'
      (Token.relocate Location.erased ⟨t, w, l⟩) =
        some (r'.moved Location.erased []) := by
    cases hkeeps : r.stage.keepsGap t with
    | true => rw [hgap hkeeps, hmoved]
    | false =>
      refine ((Reader.step_gap_iff hmoved).1 ?_) gap'
      rw [Reader.moved, keepsGap_relocate]
      exact hkeeps
  rw [h] at hmoved'
  exact Option.map_eq_some_iff.1 (hmoved'.symm.trans hgap')

end Parallel

section Relaid
variable {r r' : Reader} {last here : Location} {cs gap rest : List Char} {c : Char} {cut : Cut}
  {blocks : List Block} {l' : Layout}

theorem Repadded.skipped {gap' : List Char} (h : Repadded gap gap') (hgap : Skipped gap) :
    Skipped gap' := by
  rcases h with rfl | ⟨-, hpadding⟩
  · exact hgap
  · exact hpadding.skipped

theorem relaid_end (hend : (splitGap false cs).2 = []) (hl : (layoutFrom r here cs).Relaid l') :
    Repadded cs l'.chars := by
  rw [layoutFrom_end here hend] at hl
  obtain ⟨segments, trailing⟩ := l'
  obtain ⟨hsegments, htrailing⟩ := hl
  cases hsegments
  exact htrailing

/-- A first token stays the first one, and what stands behind it is laid out anew too. -/
theorem relaid_token (hgap : splitGap false cs = (gap, c :: rest))
    (hscan : scan? r.stage.allows (c :: rest) = some cut)
    (hstep : r.step gap ⟨cut.terminal, cut.text, here.after gap⟩ = some r')
    (hl : (layoutFrom r here cs).Relaid l') :
    ∃ gap' others, l'.chars = gap' ++ (cut.text ++ others.chars) ∧
      Repadded gap gap' ∧ (r.stage.keepsGap cut.terminal → gap' = gap) ∧
      (layoutFrom r' ((here.after gap).after cut.text) cut.rest).Relaid others := by
  rw [layoutFrom_token hgap hscan hstep] at hl
  obtain ⟨segments, trailing⟩ := l'
  obtain ⟨hsegments, htrailing⟩ := hl
  obtain ⟨x, others, ⟨htext, hx, hvalue⟩, hothers, rfl⟩ := List.forall₂_cons_left_iff.1 hsegments
  exact ⟨x.gap, ⟨others, trailing⟩, by simp [Layout.chars, htext], hx, hvalue, hothers, htrailing⟩

theorem resembles_relaid (h : readFrom r last here cs = .ok blocks)
    (hl : (layoutFrom r here cs).Relaid l') : Resembles r.stage.allows cs l'.chars := by
  rcases readFrom_ok_cases h with ⟨hend, -⟩ | ⟨gap, c, rest, cut, r', hgap, hscan, hstep, -⟩
  · rcases relaid_end hend hl with hsame | ⟨hne, hpadding⟩
    · exact .same hsame
    · obtain ⟨d, more, hchars, hd⟩ := hpadding.skipped.exists_cons hne
      exact .gap hd hchars
  · obtain ⟨gap', others, hchars, hrepadded, -⟩ := relaid_token hgap hscan hstep hl
    by_cases hne : gap' = []
    · -- tokens that touch in the new text have touched before
      obtain rfl : gap = [] := by
        rcases hrepadded with hsame | ⟨hnot, -⟩
        · exact hsame.symm.trans hne
        · exact absurd hne hnot
      have hcs := splitGap_append false cs
      rw [hgap, List.nil_append] at hcs
      rw [hne, List.nil_append] at hchars
      exact .token (hcs ▸ hscan) hchars
    · have hskipped := hrepadded.skipped (skipped_of_token hgap).1
      obtain ⟨d, more, rfl, hd⟩ := hskipped.exists_cons hne
      exact .gap hd hchars

/-- A text that is laid out anew is read as before by a reader that differs in locations only, and
the blocks differ in locations only. -/
theorem readFrom_relaid (h : readFrom r last here cs = .ok blocks) {r₂ : Reader}
    (hr : r.Parallel r₂) (hl : (layoutFrom r here cs).Relaid l') (last₂ here₂ : Location) :
    ∃ blocks₂, readFrom r₂ last₂ here₂ l'.chars = .ok blocks₂ ∧
      blocks₂.map (Block.relocate Location.erased) =
        blocks.map (Block.relocate Location.erased) := by
  refine readFrom_induction (motive := fun r _ here cs => ∀ {r₂ l'}, r.Parallel r₂ →
    (layoutFrom r here cs).Relaid l' → ∀ last₂ here₂, ∃ blocks₂,
      readFrom r₂ last₂ here₂ l'.chars = .ok blocks₂ ∧
        blocks₂.map (Block.relocate Location.erased) =
          blocks.map (Block.relocate Location.erased)) ?_ ?_ h hr hl last₂ here₂
  · intro r _ here cs hend hfinished hdone r₂ l' hr hl last₂ here₂
    have hend' : (splitGap false l'.chars).2 = [] := by
      rcases relaid_end hend hl with hsame | ⟨-, hpadding⟩
      · rw [hsame, hend]
      · have hall := hpadding.skipped []
        rw [List.append_nil] at hall
        rw [hall]
        rfl
    have hread₂ := readFrom_end last₂ here₂ (Prod.ext rfl hend') (hr.isFinished hfinished)
    exact ⟨r₂.done, hread₂, hdone ▸ hr.done⟩
  · intro r _ here cs gap c rest cut r' hgap hscan hstep hread ih r₂ l' hr hl last₂ here₂
    obtain ⟨gap', others, hchars, hrepadded, hkeeps, hothers⟩ := relaid_token hgap hscan hstep hl
    obtain ⟨hskipped, hc⟩ := skipped_of_token hgap
    obtain ⟨happend, hne⟩ := scan?_of hscan
    obtain ⟨d, w, hw⟩ := List.exists_cons_of_ne_nil hne
    obtain rfl : d = c := by
      rw [hw] at happend
      exact (List.cons.inj happend).1
    have hsplit := (hrepadded.skipped hskipped).splitGap_token hc (w ++ others.chars)
    rw [← List.cons_append, ← hw, ← hchars] at hsplit
    have hscan₂ := scan?_resembling hscan hstep (resembles_relaid hread hothers)
    rw [← hr.allows] at hscan₂
    obtain ⟨r₂', hstep₂, hr'⟩ := hr.step hstep hkeeps (here₂.after gap')
    obtain ⟨blocks₂, hread₂, hblocks⟩ :=
      ih hr' hothers (here₂.after gap') ((here₂.after gap').after cut.text)
    refine ⟨blocks₂, ?_, hblocks⟩
    rw [hw, List.cons_append] at hsplit hscan₂
    rw [readFrom_token _ _ hsplit hscan₂ (by simpa [hw] using hstep₂)]
    simpa [hw] using hread₂

end Relaid

end Source

/-! ### Sources -/

open Source

/-- The layout of a source does not matter: the tokens that make up an accepted source, with gaps
that are left as they are or that hold any blanks and comments, make up a source that is accepted,
and its blocks differ in locations only. Gaps inside the values of entries stay as they are. -/
theorem parseStyles_relaid {source : String} {styles : List Style} {l : Layout}
    (h : parseStyles source = .ok styles) (hl : (layout source).Relaid l) :
    (layout source).chars = source.toList ∧
      ∃ styles', parseStyles (String.ofList l.chars) = .ok styles' ∧
        styles'.map Style.unlocated = styles.map Style.unlocated := by
  obtain ⟨blocks, hblocks, hstyles⟩ := bind_eq_ok.1 h
  have hstart : Reader.start.Parallel Reader.start := rfl
  obtain ⟨blocks', hblocks', hsame⟩ :=
    readFrom_relaid hblocks hstart hl Location.start Location.start
  have hread : parseStyles (String.ofList l.chars) = blocks'.mapM styleOf := by
    rw [parseStyles, String.toList_ofList, outline, hblocks']
    rfl
  have hmoved := mapM_styleOf_relocate Location.erased blocks'
  rw [hsame, mapM_styleOf_relocate, hstyles] at hmoved
  refine ⟨chars_layoutFrom _ _ _, ?_⟩
  cases hstyles' : blocks'.mapM styleOf with
  | error e =>
    rw [hstyles'] at hmoved
    cases hmoved
  | ok styles' =>
    rw [hstyles'] at hmoved
    refine ⟨styles', hread.trans hstyles', ?_⟩
    have hunlocated := congrArg (List.map Style.unlocated) (Except.ok.inj hmoved)
    simpa [Function.comp_def, Style.unlocated_relocate] using hunlocated.symm

/-- Tokens that touch are set apart, with blanks and with comments that hold a quote and a brace.
The comment at the end is replaced too; it had no end of its line. -/
theorem parseStyles_relaid_comments :
    parseStyles "\x7ba\x7bx:1 +2\x7d\x7d#b" =
      .ok [⟨{}, [.plain ⟨[.classname "a"], some ⟨1, 2⟩, false⟩ [⟨"x", "1 +2", some ⟨1, 4⟩⟩]]⟩] ∧
    ∃ l, (layout "\x7ba\x7bx:1 +2\x7d\x7d#b").Relaid l ∧
      String.ofList l.chars = "\n\x7ba\t \x7bx: #'\x7d\n1 +2#\n\x7d\x7d\x0c#c\n" ∧
      ∃ styles, parseStyles "\n\x7ba\t \x7bx: #'\x7d\n1 +2#\n\x7d\x7d\x0c#c\n" = .ok styles ∧
        styles.map Style.unlocated =
          [⟨{}, [.plain ⟨[.classname "a"], none, false⟩ [⟨"x", "1 +2", none⟩]]⟩] := by
  have hparse : parseStyles "\x7ba\x7bx:1 +2\x7d\x7d#b" =
      .ok [⟨{}, [.plain ⟨[.classname "a"], some ⟨1, 2⟩, false⟩ [⟨"x", "1 +2", some ⟨1, 4⟩⟩]]⟩] := by
    decide +kernel
  have hlayout : layout "\x7ba\x7bx:1 +2\x7d\x7d#b" =
      ⟨[⟨[], ['\x7b'], false⟩, ⟨[], ['a'], false⟩, ⟨[], ['\x7b'], false⟩, ⟨[], ['x'], false⟩,
        ⟨[], [':'], false⟩, ⟨[], ['1'], false⟩, ⟨[' '], ['+'], true⟩, ⟨[], ['2'], true⟩,
        ⟨[], ['\x7d'], false⟩, ⟨[], ['\x7d'], false⟩], ['#', 'b']⟩ := by decide +kernel
  have hkept (x : Segment) : x.Relaid x := ⟨rfl, .inl rfl, fun _ => rfl⟩
  have hpadded {gap gap' text : List Char} (hne : gap' ≠ []) (h : Padding gap') :
      Segment.Relaid ⟨gap, text, false⟩ ⟨gap', text, false⟩ := ⟨rfl, .inr ⟨hne, h⟩, by simp⟩
  have hcomment (text : List Char) (hline : '\n' ∉ text) : Padding ('#' :: (text ++ ['\n'])) :=
    .comment hline .nil
  have hquote : Padding [' ', '#', '\x27', '\x7d', '\n'] :=
    .blank rfl (hcomment ['\x27', '\x7d'] (by decide))
  have hend : Padding ['\x0c', '#', 'c', '\n'] := .blank rfl (hcomment ['c'] (by decide))
  have hrelaid : (layout "\x7ba\x7bx:1 +2\x7d\x7d#b").Relaid
      ⟨[⟨['\n'], ['\x7b'], false⟩, ⟨[], ['a'], false⟩, ⟨['\t', ' '], ['\x7b'], false⟩,
        ⟨[], ['x'], false⟩, ⟨[], [':'], false⟩, ⟨[' ', '#', '\x27', '\x7d', '\n'], ['1'], false⟩,
        ⟨[' '], ['+'], true⟩, ⟨[], ['2'], true⟩, ⟨['#', '\n'], ['\x7d'], false⟩,
        ⟨[], ['\x7d'], false⟩], ['\x0c', '#', 'c', '\n']⟩ := by
    rw [hlayout]
    refine ⟨?_, .inr ⟨by decide, hend⟩⟩
    simp only [List.forall₂_cons, List.forall₂_nil_left_iff, hkept, true_and, and_true]
    exact ⟨hpadded (by decide) (.blank rfl .nil),
      hpadded (by decide) (.blank rfl (.blank rfl .nil)), hpadded (by decide) hquote,
      hpadded (by decide) (hcomment [] (by decide))⟩
  exact ⟨hparse, _, hrelaid, by decide +kernel, (parseStyles_relaid hparse hrelaid).2⟩

end ScopedCss

import ScopedCss.Proofs.Relocation
import ScopedCss.Proofs.TokenEnds

/-! Sources one behind the other. The end of a line ends the last token of a source and a comment
behind it, so the reader stands there as it does at the start of a text, further down and with
blocks that were read before. What follows is read as a source of its own. -/
namespace ScopedCss

/-! ### Lines -/

namespace Location

/-- The point a number of lines further down. -/
def down (n : Nat) (l : Location) : Location := ⟨l.line + n, l.column⟩

theorem after_down (n : Nat) (l : Location) (cs : List Char) :
    (l.after cs).down n = (l.down n).after cs := by
  induction cs generalizing l with
  | nil => rfl
  | cons c cs ih =>
    have hnext : (l.next c).down n = (l.down n).next c := by
      unfold next down
      split
      · rw [Nat.add_right_comm]
      · rfl
    exact (ih (l.next c)).trans (by rw [hnext]; rfl)

theorem line_after (l : Location) (cs : List Char) :
    (l.after cs).line = l.line + cs.count '\n' := by
  induction cs generalizing l with
  | nil => rfl
  | cons c cs ih =>
    refine (ih (l.next c)).trans ?_
    by_cases hc : c = '\n'
    · subst hc
      rw [List.count_cons_self]
      simp only [next, if_pos]
      omega
    · rw [List.count_cons_of_ne hc, next, if_neg hc]

/-- Behind the end of a line a text goes on as it starts, only further down. -/
theorem start_after_newline (cs : List Char) :
    start.after (cs ++ ['\n']) = start.down (cs.count '\n' + 1) := by
  have hline := line_after start cs
  rw [after_append]
  show Location.mk ((start.after cs).line + 1) 1 = _
  rw [hline]
  rfl

end Location

/-! ### Readers -/

namespace Source

variable {r : Reader} {last here : Location} {cs : List Char} {blocks : List Block}

/-- A text is read alike wherever it stands and whatever blocks stand before it. -/
theorem readFrom_moved {f : Location → Location}
    (hf : ∀ l w, f (l.after w) = (f l).after w) (before : List Block)
    (h : readFrom r last here cs = .ok blocks) (last' : Location) :
    readFrom (r.moved f before) last' (f here) cs =
      .ok (before ++ blocks.map (Block.relocate f)) := by
  refine readFrom_induction (motive := fun r _ here cs => ∀ last',
    readFrom (r.moved f before) last' (f here) cs =
      .ok (before ++ blocks.map (Block.relocate f))) ?_ ?_ h last'
  · intro r last here cs hend hr hdone last'
    rw [readFrom_end _ _ (Prod.ext rfl hend) (r.isFinished_moved f before hr)]
    simp [Reader.moved, hdone]
  · intro r last here cs gap c rest cut r' hgap hscan hstep _ ih last'
    have hmoved := r.step_moved f before gap ⟨cut.terminal, cut.text, here.after gap⟩
    rw [hstep, Token.relocate, hf] at hmoved
    rw [readFrom_token _ _ hgap (by simpa [Reader.moved] using hscan) hmoved, ← hf, ← hf]
    exact ih _

/-- Between blocks a gap is passed over. -/
theorem readFrom_skipped {gap : List Char} (hr : r.stage = .outside) (hgap : Skipped gap)
    (h : readFrom r last (here.after gap) cs = .ok blocks) (last' : Location) :
    readFrom r last' here (gap ++ cs) = .ok blocks := by
  rcases readFrom_ok_cases h with
    ⟨hend, hfinished, rfl⟩ | ⟨gap', c, rest, cut, r', hgap', hscan, hstep, hrest⟩
  · exact readFrom_end _ _ (by rw [hgap, hend]) hfinished
  · rw [← Location.after_append] at hstep hrest
    have hstep' := (r.step_gap_iff hstep).1 (by rw [hr]; rfl) (gap ++ gap')
    rw [readFrom_token _ _ (by rw [hgap, hgap']) hscan hstep']
    exact hrest

theorem resembles_append_gap {c : Char} (hc : gapNext false c ≠ none)
    (h : readFrom r last here cs = .ok blocks) (more : List Char) :
    Resembles r.stage.allows cs (cs ++ c :: more) := by
  rcases start_of_readFrom h with rfl | ⟨d, others, rfl, hd⟩ | ⟨cut, hscan⟩
  · exact .gap hc rfl
  · exact .gap hd rfl
  · have htoken : cs ++ c :: more = cut.text ++ (cut.rest ++ c :: more) := by
      rw [← (scan?_of hscan).append, List.append_assoc]
    exact .token hscan htoken

/-- A text that can be read to its end is read up to a line feed behind it, and then what follows
is read behind its blocks. -/
theorem readFrom_newline {more : List Char} {all : List Block}
    (h : readFrom r last here cs = .ok blocks)
    (hmore : ∀ last',
      readFrom ⟨blocks, .outside⟩ last' (here.after (cs ++ ['\n'])) more = .ok all) :
    readFrom r last here (cs ++ '\n' :: more) = .ok all := by
  refine readFrom_induction (motive := fun r last here cs =>
    (∀ last', readFrom ⟨blocks, .outside⟩ last' (here.after (cs ++ ['\n'])) more = .ok all) →
      readFrom r last here (cs ++ '\n' :: more) = .ok all) ?_ ?_ h hmore
  · rintro ⟨done, stage⟩ last here cs hend hr rfl hmore
    obtain rfl : stage = .outside := Reader.stage_of_isFinished hr
    rw [List.append_cons cs '\n' more]
    exact readFrom_skipped rfl (skipped_newline hend) (hmore last) last
  · intro r last here cs gap c rest cut r' hgap hscan hstep hread ih hmore
    have hnewline : gapNext false '\n' ≠ none := by decide
    have hsplit : splitGap false (cs ++ '\n' :: more) = (gap, c :: (rest ++ '\n' :: more)) := by
      rw [splitGap_append_of_token (by rw [hgap]; simp), hgap, List.cons_append]
    have htoken : c :: (rest ++ '\n' :: more) = cut.text ++ (cut.rest ++ '\n' :: more) := by
      rw [← List.cons_append, ← (scan?_of hscan).append, List.append_assoc]
    have hcs : cs = gap ++ (cut.text ++ cut.rest) := by
      rw [(scan?_of hscan).append, ← splitGap_append false cs, hgap]
    have hscan' := scan?_resembling hscan hstep (resembles_append_gap hnewline hread more)
    rw [← htoken] at hscan'
    rw [readFrom_token _ _ hsplit hscan' hstep]
    refine ih fun last' => ?_
    rw [← Location.after_append, ← Location.after_append]
    simpa [hcs] using hmore last'

end Source

/-! ### Sources -/

open Source

/-- Two sources with a line feed between them are the blocks of the first one and then those of the
second one, with their locations as many lines further down as the first one takes. -/
theorem parseStyles_concat {first second : String} {styles others : List Style}
    (hfirst : parseStyles first = .ok styles) (hsecond : parseStyles second = .ok others) :
    parseStyles (first ++ "\n" ++ second) = .ok (styles ++
      others.map (Style.relocate (Location.down (first.toList.count '\n' + 1)))) := by
  obtain ⟨blocks, hblocks, hstyles⟩ := bind_eq_ok.1 hfirst
  obtain ⟨later, hlater, hothers⟩ := bind_eq_ok.1 hsecond
  generalize hlines : first.toList.count '\n' + 1 = lines
  have hread : outline (first ++ "\n" ++ second).toList =
      .ok (blocks ++ later.map (Block.relocate (Location.down lines))) := by
    have hlist : (first ++ "\n" ++ second).toList = first.toList ++ '\n' :: second.toList := by simp
    rw [hlist]
    refine readFrom_newline hblocks fun last => ?_
    rw [Location.start_after_newline, hlines]
    simpa [Reader.moved, Reader.start, Stage.relocate] using
      readFrom_moved (Location.after_down lines) blocks hlater last
  rw [parseStyles, hread]
  show List.mapM styleOf _ = _
  rw [List.mapM_append, hstyles, mapM_styleOf_relocate, hothers]
  rfl

/-- The first source ends in a comment that holds an open quote and brace and no line feed, and the
second one has a value of two lines. -/
theorem parseStyles_concat_comment :
    parseStyles "\x7b a \x7b x: 1 \x7d \x7d\n# don't \x7b" =
      .ok [⟨{}, [.plain ⟨[.classname "a"], some ⟨1, 3⟩, false⟩ [⟨"x", "1", some ⟨1, 7⟩⟩]]⟩] ∧
    parseStyles "(t: T) -> B \x7b\n b \x7b y: [t.w,\n 2] \x7d \x7d" =
      .ok [⟨⟨"t", "T", "B", some ⟨1, 2⟩⟩,
        [.plain ⟨[.classname "b"], some ⟨2, 2⟩, false⟩ [⟨"y", "[t.w,\n 2]", some ⟨2, 6⟩⟩]]⟩] ∧
    parseStyles ("\x7b a \x7b x: 1 \x7d \x7d\n# don't \x7b" ++ "\n" ++
        "(t: T) -> B \x7b\n b \x7b y: [t.w,\n 2] \x7d \x7d") =
      .ok [⟨{}, [.plain ⟨[.classname "a"], some ⟨1, 3⟩, false⟩ [⟨"x", "1", some ⟨1, 7⟩⟩]]⟩,
        ⟨⟨"t", "T", "B", some ⟨3, 2⟩⟩,
          [.plain ⟨[.classname "b"], some ⟨4, 2⟩, false⟩ [⟨"y", "[t.w,\n 2]", some ⟨4, 6⟩⟩]]⟩] := by
  have hfirst : parseStyles "\x7b a \x7b x: 1 \x7d \x7d\n# don't \x7b" =
      .ok [⟨{}, [.plain ⟨[.classname "a"], some ⟨1, 3⟩, false⟩ [⟨"x", "1", some ⟨1, 7⟩⟩]]⟩] := by
    decide +kernel
  have hsecond : parseStyles "(t: T) -> B \x7b\n b \x7b y: [t.w,\n 2] \x7d \x7d" =
      .ok [⟨⟨"t", "T", "B", some ⟨1, 2⟩⟩,
        [.plain ⟨[.classname "b"], some ⟨2, 2⟩, false⟩ [⟨"y", "[t.w,\n 2]", some ⟨2, 6⟩⟩]]⟩] := by
    decide +kernel
  exact ⟨hfirst, hsecond, (parseStyles_concat hfirst hsecond).trans (by decide +kernel)⟩

end ScopedCss

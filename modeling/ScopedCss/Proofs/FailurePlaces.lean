import Mathlib.Data.List.Induction
import ScopedCss.Proofs.ClosingOrder

/-! Where failures are found. Reading stops at a token that cannot be taken, at a character that
starts none, or at the end of the text, behind tokens that it has passed. If all tokens are taken,
what is wrong with the outline is blamed on a header or a property, which is one of them. So a
failure always names a place of the source. -/
namespace ScopedCss

open Source

namespace Source

/-! ### Where reading stops -/

/-- Reading fails at a point, behind a token that starts at a location. -/
inductive Stuck (q : Point) (last : Location) : ParseError → Prop
  | ended (hend : (splitGap false q.rest).2 = []) : Stuck q last ⟨.unexpectedEnd, some last⟩
  | stray {gap rest : List Char} {c : Char} (hgap : splitGap false q.rest = (gap, c :: rest)) :
      Stuck q last ⟨strayFault c (c :: rest), some (q.here.after gap)⟩
  | refused {gap rest : List Char} {c : Char} {cut : Cut}
      (hgap : splitGap false q.rest = (gap, c :: rest))
      (hscan : scan? q.reader.stage.allows (c :: rest) = some cut) :
      Stuck q last ⟨.unexpectedToken (String.ofList cut.text), some (q.here.after gap)⟩

/-- Where the last of some tokens starts, or another location if there are none. -/
def lastStart (otherwise : Location) (ts : List Token) : Location :=
  (ts.map Token.location).getLastD otherwise

theorem lastStart_cases (otherwise : Location) (ts : List Token) :
    ts = [] ∧ lastStart otherwise ts = otherwise ∨
      ∃ t ∈ ts, lastStart otherwise ts = t.location := by
  induction ts using List.reverseRecOn with
  | nil => exact .inl ⟨rfl, rfl⟩
  | append_singleton ts t _ =>
    exact .inr ⟨t, List.mem_append_right _ List.mem_cons_self, by simp [lastStart]⟩

/-- Reading that fails passes some tokens and fails behind the last of them. -/
theorem exists_stuck {r : Reader} {last here : Location} {cs : List Char} {e : ParseError}
    (h : readFrom r last here cs = .error e) :
    ∃ ls q, Passes ⟨r, here, cs⟩ ls q ∧ Stuck q (lastStart last (Lexeme.tokensFrom here ls)) e := by
  fun_induction readFrom r last here cs with
  | case1 => cases h
  | case2 r last here cs hend =>
    cases h
    exact ⟨[], _, .refl, .ended hend⟩
  | case3 r last here cs gap loc c rest hgap =>
    cases h
    exact ⟨[], _, .refl, .stray (Prod.ext rfl hgap)⟩
  | case4 r last here cs gap loc c rest hgap cut hscan =>
    cases h
    exact ⟨[], _, .refl, .refused (Prod.ext rfl hgap) hscan⟩
  | case5 r last here cs gap loc c rest hgap cut hscan r' hstep ih =>
    obtain ⟨ls, q, hpasses, hstuck⟩ := ih h
    -- the token is the latest one only if no other follows
    refine ⟨_, q, .token cut (Prod.ext rfl hgap) hscan hstep hpasses, ?_⟩
    rwa [lastStart, Lexeme.tokensFrom, List.map_cons, List.getLastD_cons]

/-- What stands behind the gap at a point is shown by the location there. -/
theorem Passes.shows_rest {source : List Char} {ls : List Lexeme} {q : Point}
    (h : Passes ⟨.start, .start, source⟩ ls q) {gap rest : List Char}
    (hgap : splitGap false q.rest = (gap, rest)) : (q.here.after gap).Shows source rest := by
  have hsource : source = _ := h.rest_eq
  have hsplit := splitGap_append false q.rest
  rw [hgap] at hsplit
  rw [hsource, ← hsplit, h.here_eq, ← Location.after_append, ← List.append_assoc]
  exact Location.shows_after _ _

/-- A text with nothing behind a gap at its front is ignorable. -/
theorem ignorable_of_splitGap {cs : List Char} (h : (splitGap false cs).2 = []) : Ignorable cs := by
  have hsplit := splitGap_append false cs
  rw [h, List.append_nil] at hsplit
  exact hsplit ▸ (ignorable_splitGap cs).1

/-! ### Tokens that are to blame -/

/-- An item in the middle of others has its header or property among theirs. -/
theorem Item.mem_headsOf_middle {t : Token} {i : Item} (h : t ∈ i.heads) (front back : List Item) :
    t ∈ Item.headsOf (front ++ i :: back) := by
  rw [Item.headsOf_eq_flatMap, List.mem_flatMap]
  exact ⟨i, List.mem_append_right _ List.mem_cons_self, h⟩

mutual

theorem OutlineNode.Raises.mem_heads {n : OutlineNode} {t : Token} {reason : String}
    (hn : n.Raises t reason) : (i : Item) → n ∈ i.nodes → t ∈ i.heads
  | .entry _ _, hmem => absurd hmem List.not_mem_nil
  | .rule head items, hmem => by
    rw [Item.nodes, List.mem_cons, List.mem_append, List.mem_singleton] at hmem
    rw [Item.heads]
    rcases hmem with rfl | hinner | rfl
    · cases hn
      exact List.mem_cons_self
    · exact List.mem_cons_of_mem _ (hn.mem_headsOf items hinner)
    · refine List.mem_cons_of_mem _ ?_
      cases hn with
      | entryInAtRule => exact Item.mem_headsOf_middle List.mem_cons_self _ _
      | ruleInRule => exact Item.mem_headsOf_middle List.mem_cons_self _ _

theorem OutlineNode.Raises.mem_headsOf {n : OutlineNode} {t : Token} {reason : String}
    (hn : n.Raises t reason) : (items : List Item) → n ∈ Item.nodesOf items → t ∈ Item.headsOf items
  | [], hmem => absurd hmem List.not_mem_nil
  | i :: items, hmem => by
    rw [Item.nodesOf, List.mem_append] at hmem
    rw [Item.headsOf, List.mem_append]
    exact hmem.imp (hn.mem_heads i) (hn.mem_headsOf items)

end

/-- Only headers and properties are to blame. -/
theorem OutlineNode.Raises.mem_landmarks {n : OutlineNode} {t : Token} {reason : String}
    (hn : n.Raises t reason) {b : Block} (hmem : n ∈ b.nodes) : t ∈ b.landmarks := by
  rw [Block.nodes, List.mem_append, List.mem_singleton] at hmem
  refine List.mem_append_right _ ?_
  rcases hmem with hinner | rfl
  · exact hn.mem_headsOf b.items hinner
  · -- what a node raises is told by the form of its items
    generalize b.items = items at hn
    cases hn
    exact Item.mem_headsOf_middle List.mem_cons_self _ _

end Source

/-! ### Places of failures -/

/-- What a fault says about its location: the text in question starts there, or it is the start of
the last token, behind which there are only blanks and comments. The faults of outlines are found at
the token that is to blame. -/
def ParseFault.FoundAt (source : List Char) (l : Location) : ParseFault → Prop
  | .unexpectedToken text => text ≠ "" ∧ ∃ rest, l.Shows source (text.toList ++ rest)
  | .unexpectedChar c => ∃ rest, l.Shows source (c :: rest)
  | .unexpectedEnd => ∃ ls q, Passes ⟨.start, .start, source⟩ ls q ∧ Ignorable q.rest ∧
      l = lastStart Location.start (Lexeme.tokens ls)
  | fault => ∃ ls blocks, Tokens source ls ∧ outline source = .ok blocks ∧
      ∃ n ∈ blocks.flatMap Block.nodes, ∃ t ∈ Lexeme.tokens ls,
        n.Raises t fault.reason ∧ l = t.location ∧ ∃ rest, l.Shows source (t.text ++ rest)

/-- The place of a character of the source, or the first one if there is no token. -/
def Location.Within (source : List Char) (l : Location) : Prop :=
  (∃ c rest, l.Shows source (c :: rest) ∧ ∀ text, l.Shows source text → text = c :: rest) ∨
    Ignorable source ∧ l = ⟨1, 1⟩

theorem Location.Shows.within {source text : List Char} {l : Location} (h : l.Shows source text)
    (hne : text ≠ []) : l.Within source := by
  obtain ⟨c, rest, rfl⟩ := List.exists_cons_of_ne_nil hne
  exact .inl ⟨c, rest, h, fun _ => h.unique⟩

theorem foundAt_of_scan? {source cs : List Char} {l : Location} {allowed : Terminal → Bool}
    {cut : Cut} (h : l.Shows source cs) (hscan : scan? allowed cs = some cut) :
    (ParseFault.unexpectedToken (String.ofList cut.text)).FoundAt source l := by
  refine ⟨?_, cut.rest, ?_⟩
  · simpa using (scan?_of hscan).ne_nil
  · rwa [String.toList_ofList, (scan?_of hscan).append]

/-- A token stands at a place of the source. -/
theorem Source.Passes.token_within {source : List Char} {ls : List Lexeme} {q : Point}
    (h : Passes ⟨.start, .start, source⟩ ls q) {t : Token} (ht : t ∈ Lexeme.tokens ls) :
    t.location.Within source ∧ ∃ rest, t.location.Shows source (t.text ++ rest) := by
  obtain ⟨rest, hshows⟩ := h.shows [] rfl rfl t ht
  have hne : t.text ++ rest ≠ [] := List.append_ne_nil_of_left_ne_nil (h.ordered.1 t ht).2 rest
  exact ⟨hshows.within hne, rest, hshows⟩

/-- Reading fails at a place of the source. -/
theorem foundAt_of_outline {source : List Char} {e : ParseError} (h : outline source = .error e) :
    ∃ l, e.location = some l ∧ l.Within source ∧ e.fault.FoundAt source l := by
  obtain ⟨ls, q, hpasses, hstuck⟩ := exists_stuck h
  cases hstuck with
  | ended hend =>
    have hrest := ignorable_of_splitGap hend
    refine ⟨_, rfl, ?_, ls, q, hpasses, hrest, rfl⟩
    rcases lastStart_cases Location.start (Lexeme.tokensFrom Location.start ls) with
      ⟨hnone, hstart⟩ | ⟨t, ht, hlast⟩
    · rw [hstart]
      cases ls with
      | nil =>
        cases hpasses
        exact .inr ⟨hrest, rfl⟩
      | cons => cases hnone
    · rw [hlast]
      exact (hpasses.token_within ht).1
  | @stray gap rest c hgap =>
    have hshows := hpasses.shows_rest hgap
    refine ⟨_, rfl, hshows.within (List.cons_ne_nil c rest), ?_⟩
    show (strayFault c (c :: rest)).FoundAt source _
    unfold strayFault
    split
    next cut hscan => exact foundAt_of_scan? hshows hscan
    next => exact ⟨rest, hshows⟩
  | @refused gap rest c cut hgap hscan =>
    have hshows := hpasses.shows_rest hgap
    exact ⟨_, rfl, hshows.within (List.cons_ne_nil c rest), foundAt_of_scan? hshows hscan⟩

/-- The faults of outlines are not those of reading. -/
theorem ParseFault.foundAt_of_raises {source : List Char} {ls : List Lexeme} {blocks : List Block}
    {n : OutlineNode} {t : Token} {rest : List Char} {fault : ParseFault}
    (hfault : fault.isSyntax = false) (hls : Tokens source ls)
    (hblocks : outline source = .ok blocks)
    (hn : n ∈ blocks.flatMap Block.nodes) (ht : t ∈ Lexeme.tokens ls)
    (hraises : n.Raises t fault.reason) (hshows : t.location.Shows source (t.text ++ rest)) :
    fault.FoundAt source t.location := by
  cases fault with
  | unexpectedToken | unexpectedChar | unexpectedEnd => cases hfault
  | _ => exact ⟨ls, blocks, hls, hblocks, n, hn, t, ht, hraises, rfl, rest, hshows⟩

/-- Every failure points into the source: it has a location, which is the place of a character, or
line 1 and column 1 if there is no token. What is unexpected stands there; if it is the end, the
last token starts there. Other faults are found at the header or the property that is to blame. -/
theorem failures_point_into_source {source : String} {e : ParseError}
    (h : parseStyles source = .error e) :
    ∃ l, e.location = some l ∧ l.Within source.toList ∧ e.fault.FoundAt source.toList l := by
  cases houtline : outline source.toList with
  | error e' =>
    rw [parseStyles, houtline] at h
    cases h
    exact foundAt_of_outline houtline
  | ok blocks =>
    have hgrammar := noSyntaxError_parseStyles.2 ⟨blocks, houtline⟩ e h
    have hjudges := judges_parseStyles houtline
    rw [h] at hjudges
    obtain ⟨good, n, others, t, hnodes, -, hraises, hlocation⟩ := hjudges
    have hn : n ∈ blocks.flatMap Block.nodes := by
      rw [hnodes]
      exact List.mem_append_right _ List.mem_cons_self
    -- the token is a landmark of the block that the node is from, hence one of the source
    obtain ⟨b, hb, hnb⟩ := List.mem_flatMap.1 hn
    obtain ⟨ls, htokens, hsublist⟩ := exists_tokens houtline
    have hmark := hsublist.subset (List.mem_flatMap.2 ⟨b, hb, hraises.mem_landmarks hnb⟩)
    have ht : t ∈ Lexeme.tokens ls := (List.mem_filter.1 hmark).1
    obtain ⟨q, hpasses, -⟩ := id htokens
    obtain ⟨hwithin, rest, hshows⟩ := hpasses.token_within ht
    exact ⟨t.location, hlocation, hwithin,
      ParseFault.foundAt_of_raises hgrammar htokens houtline hn ht hraises hshows⟩

/-- A second value of one entry, on the line behind a comment with a brace in it. -/
theorem failures_point_into_source_second_line :
    let source := "\x7b # \x7d\r\n\ta \x7b b: 1 cd\x7d\x7d"
    ∃ e, parseStyles source = .error e ∧ e.fault.reason = "Unexpected token 'cd'" ∧
      ∃ l, e.location = some l ∧ l.Within source.toList ∧ e.fault.FoundAt source.toList l := by
  intro source
  have hparse : parseStyles source = .error ⟨.unexpectedToken "cd", some ⟨2, 11⟩⟩ := by
    decide +kernel
  exact ⟨_, hparse, by decide, failures_point_into_source hparse⟩

end ScopedCss

import Mathlib.Data.List.Forall2
import ScopedCss.Proofs.Outcomes
import ScopedCss.Proofs.Places
import ScopedCss.Proofs.Selectors

/-! The landmarks of a source are the tokens whose locations are kept: theme variables, headers and
properties. A reader comes to them in order and forgets none, so they are found among the tokens of
the source in the order in which they stand there, and so are the pieces of a block that are made of
them. -/
namespace ScopedCss

open Source

/-- The token of the theme variable, if the signature is written. -/
def Signature.variable? (s : Signature) : Option Token :=
  s.location.map fun l => ⟨.name, s.themeVar.toList, l⟩

namespace Source

/-! ### Landmarks of a reader -/

mutual

/-- The headers and properties in an item, in order. -/
def Item.heads : Item → List Token
  | .rule t items => t :: Item.headsOf items
  | .entry t _ => [t]

def Item.headsOf : List Item → List Token
  | [] => []
  | i :: is => i.heads ++ Item.headsOf is

end

theorem Item.headsOf_eq_flatMap (is : List Item) : Item.headsOf is = is.flatMap Item.heads := by
  induction is with
  | nil => rfl
  | cons i is ih => rw [Item.headsOf, ih, List.flatMap_cons]

theorem Item.headsOf_reverse_cons (i : Item) (is : List Item) :
    Item.headsOf (i :: is).reverse = Item.headsOf is.reverse ++ i.heads := by
  simp [Item.headsOf_eq_flatMap]

def Block.landmarks (b : Block) : List Token :=
  b.signature.variable?.toList ++ Item.headsOf b.items

def Scope.landmarks : Scope → List Token
  | .block s items => s.variable?.toList ++ Item.headsOf items.reverse
  | .rule t items outer => outer.landmarks ++ t :: Item.headsOf items.reverse

theorem Scope.landmarks_add (i : Item) (s : Scope) :
    (s.add i).landmarks = s.landmarks ++ i.heads := by
  cases s <;> simp [Scope.add, Scope.landmarks, Item.headsOf_reverse_cons, -List.reverse_cons]

def Stage.landmarks : Stage → List Token
  | .outside | .themeVar => []
  | .themeColon v | .themeType v _ | .themeDot v _ | .arrow v _ | .resultType v _ =>
    [⟨.name, v.text, v.location⟩]
  | .body s => s.variable?.toList
  | .item s | .separator s => s.landmarks
  | .head t s | .value t _ _ s => s.landmarks ++ [t]

/-- The landmarks that have been read. -/
def Reader.landmarks (r : Reader) : List Token :=
  r.done.flatMap Block.landmarks ++ r.stage.landmarks

theorem Reader.landmarks_close (done : List Block) (s : Scope) :
    (Reader.close done s).landmarks = done.flatMap Block.landmarks ++ s.landmarks := by
  cases s <;>
    simp [Reader.close, Reader.landmarks, Block.landmarks, Stage.landmarks, Scope.landmarks,
      Scope.landmarks_add, Item.heads]

/-- Landmarks are names and string literals. -/
def Token.mayMark (t : Token) : Bool := t.terminal = .name ∨ t.terminal = .string

/-- A token is the next landmark or none, and those before it stay. -/
theorem landmarks_step {r r' : Reader} {gap : List Char} {t : Token}
    (h : r.step gap t = some r') :
    r'.landmarks = r.landmarks ∨ t.mayMark ∧ r'.landmarks = r.landmarks ++ [t] := by
  obtain ⟨done, stage⟩ := r
  by_cases hv : ∃ property pieces c s, stage = .value property pieces c s
  · obtain ⟨property, pieces, c, s, rfl⟩ := hv
    left
    rcases step_value_cases h with ⟨c', -, rfl⟩ | ⟨-, -, ⟨-, rfl⟩ | ⟨-, rfl⟩⟩
    · rfl
    · simp [Reader.landmarks, Stage.landmarks, Scope.landmarks_add, Item.heads]
    · rw [Reader.landmarks_close, Scope.landmarks_add, Item.heads]
      rfl
  · simp only [Reader.step] at h
    split at h
    case h_18 => exact absurd ⟨_, _, _, _, rfl⟩ hv
    all_goals cases h
    case h_3 ht =>
      have htoken : (⟨.name, t.text, t.location⟩ : Token) = t := by rw [← ht]
      exact .inr ⟨by simp [Token.mayMark, ht], by simp [Reader.landmarks, Stage.landmarks, htoken]⟩
    case h_11 ht | h_12 ht =>
      exact .inr ⟨by simp [Token.mayMark, ht], by simp [Reader.landmarks, Stage.landmarks]⟩
    case h_13 | h_17 =>
      rw [Reader.landmarks_close]
      exact .inl rfl
    all_goals
      left
      simp [Reader.landmarks, Stage.landmarks, Scope.landmarks, Item.headsOf, Signature.variable?]

/-- The landmarks that a reader comes to are among the tokens that it takes, in the same order. -/
theorem Passes.landmarks_sublist {p q : Point} {ls : List Lexeme} (h : Passes p ls q)
    (past : List Token) (hp : p.reader.landmarks.Sublist past) :
    q.reader.landmarks.Sublist
      (past ++ (Lexeme.tokensFrom p.here ls).filter Token.mayMark) := by
  induction h generalizing past with
  | refl => simpa [Lexeme.tokensFrom] using hp
  | @token p q gap rest c cut r' ls _ _ hstep _ ih =>
    rw [Lexeme.tokensFrom]
    rcases landmarks_step hstep with hsame | ⟨hmark, hnew⟩
    · refine (ih past (hsame ▸ hp)).trans (.append_left ?_ past)
      exact (List.sublist_cons_self _ _).filter _
    · rw [List.filter_cons_of_pos hmark, List.append_cons]
      exact ih _ (hnew ▸ hp.append (.refl _))

/-- The landmarks of a source are among its tokens, in the same order. -/
theorem exists_tokens {source : List Char} {blocks : List Block}
    (h : outline source = .ok blocks) :
    ∃ ls, Tokens source ls ∧
      (blocks.flatMap Block.landmarks).Sublist ((Lexeme.tokens ls).filter Token.mayMark) := by
  obtain ⟨ls, q, hpasses, hfinished, rfl, hend⟩ := exists_passes h
  have hsublist := hpasses.landmarks_sublist [] (.refl _)
  have hstage := Reader.stage_of_isFinished hfinished
  rw [Reader.landmarks, hstage] at hsublist
  refine ⟨ls, ⟨q, hpasses, hfinished, hend⟩, ?_⟩
  simpa [Stage.landmarks, Lexeme.tokens] using hsublist

end Source

/-! ### Landmarks of style blocks -/

/-- A piece of a style block that has a location. -/
inductive Landmark where
  | signature (s : Signature)
  | header (h : Header)
  | entry (e : Entry)

namespace Landmark

def location : Landmark → Option Location
  | .signature s => s.location
  | .header h => h.location
  | .entry e => e.location

/-- The token that a piece of a block is made of: the theme variable of a signature, and the name or
the literal that a header or a property is written as. A literal is trimmed if it is a header. -/
def SpelledBy (t : Token) : Landmark → Prop
  | .signature s => t.terminal = .name ∧ s.themeVar.toList = t.text
  | .header h =>
    t.terminal = .name ∧ h.text.toList = '.' :: t.text ∨
      t.terminal = .string ∧ h.text.toList = Text.trim (unquote t.text)
  | .entry e =>
    t.terminal = .name ∧ e.property.toList = t.text.map (fun c => if c = '_' then '-' else c) ∨
      t.terminal = .string ∧ e.property.toList = unquote t.text

/-- A piece of a block that is found at a token. -/
structure FoundAt (t : Token) (m : Landmark) : Prop where
  location : m.location = some t.location
  spelled : m.SpelledBy t

end Landmark

def Signature.landmarks (s : Signature) : List Landmark :=
  if s.location.isSome then [.signature s] else []

mutual

/-- The headers and entries of a rule, depth first. -/
def Rule.landmarks : Rule → List Landmark
  | .plain h es => .header h :: es.map .entry
  | .nested h rs => .header h :: Rule.landmarksAll rs

def Rule.landmarksAll : List Rule → List Landmark
  | [] => []
  | r :: rs => r.landmarks ++ Rule.landmarksAll rs

end

/-- The signature of a block, if it is written, and its headers and entries, depth first. -/
def Style.landmarks (s : Style) : List Landmark :=
  s.signature.landmarks ++ Rule.landmarksAll s.rules

def Member.landmarks : Member → List Landmark
  | .rule r => r.landmarks
  | .entry e => [.entry e]

theorem landmarks_map_entry (es : List Entry) :
    (es.map Member.entry).flatMap Member.landmarks = es.map .entry := by
  induction es with
  | nil => rfl
  | cons e es ih => rw [List.map_cons, List.flatMap_cons, ih]; rfl

theorem landmarks_map_rule (rs : List Rule) :
    (rs.map Member.rule).flatMap Member.landmarks = Rule.landmarksAll rs := by
  induction rs with
  | nil => rfl
  | cons r rs ih => rw [List.map_cons, List.flatMap_cons, ih]; rfl

/-- The text of the header that a token stands for. -/
def Source.Token.title (t : Token) : List Char :=
  if t.terminal = .string then Text.trim (unquote t.text) else '.' :: t.text

/-- A header has the location of its token and the text that this stands for. -/
theorem title_of_headerOf {t : Token} {h : Header} (hh : headerOf t = .ok h) :
    h.location = some t.location ∧ h.text.toList = t.title := by
  unfold headerOf at hh
  unfold Token.title
  split at hh
  next hs =>
    have htext := Selector.text_of_parse hh
    rw [String.toList_ofList] at htext
    exact ⟨(Selector.parse_eq_ok_iff.1 hh).1, by rw [if_pos hs, htext]⟩
  next hs =>
    cases hh
    exact ⟨rfl, by simp [hs, Header.text, Header.ofIdentifier, Part.text]⟩

theorem foundAt_of_headerOf {t : Token} {h : Header} (ht : t.mayMark) (hh : headerOf t = .ok h) :
    (Landmark.header h).FoundAt t := by
  obtain ⟨hlocation, htext⟩ := title_of_headerOf hh
  refine ⟨hlocation, ?_⟩
  rw [Token.title] at htext
  split at htext
  next hs => exact .inr ⟨hs, htext⟩
  next hs => exact .inl ⟨by simpa [Token.mayMark, hs] using ht, htext⟩

theorem foundAt_of_entry {t : Token} (ht : t.mayMark) (value : String) :
    (Landmark.entry ⟨propertyOf t, value, some t.location⟩).FoundAt t := by
  refine ⟨rfl, ?_⟩
  by_cases hs : t.terminal = .string
  · exact .inr ⟨hs, by simp [propertyOf, hs]⟩
  · have hname : t.terminal = .name := by simpa [Token.mayMark, hs] using ht
    exact .inl ⟨hname, by simp [propertyOf, hs]⟩

theorem foundAt_signature (s : Signature) :
    List.Forall₂ Landmark.FoundAt s.variable?.toList s.landmarks := by
  unfold Signature.landmarks Signature.variable?
  cases hl : s.location with
  | none => exact .nil
  | some l => exact .cons ⟨hl, rfl, rfl⟩ .nil

mutual

/-- What an item is made into is found at its headers and properties, in order. -/
theorem foundAt_memberOf : (i : Item) → {m : Member} → (∀ t ∈ i.heads, t.mayMark) →
    memberOf i = .ok m → List.Forall₂ Landmark.FoundAt i.heads m.landmarks
  | .entry t v, m, hi, h => by
    cases h
    exact .cons (foundAt_of_entry (hi t List.mem_cons_self) _) .nil
  | .rule t items, m, hi, h => by
    obtain ⟨ht, hitems⟩ := List.forall_mem_cons.1 hi
    rw [memberOf, bind_eq_ok] at h
    obtain ⟨header, hheader, h⟩ := h
    obtain ⟨ms, hms, h⟩ := bind_eq_ok.1 h
    have hfirst := foundAt_of_headerOf ht hheader
    have hothers := foundAt_membersOf items hitems hms
    split_ifs at h
    · obtain ⟨rs, hrs, h⟩ := bind_eq_ok.1 h
      cases h
      rw [eq_map_of_onlyRules hrs, landmarks_map_rule] at hothers
      exact .cons hfirst hothers
    · obtain ⟨es, hes, h⟩ := bind_eq_ok.1 h
      cases h
      rw [eq_map_of_onlyEntries hes, landmarks_map_entry] at hothers
      exact .cons hfirst hothers

theorem foundAt_membersOf : (items : List Item) → {ms : List Member} →
    (∀ t ∈ Item.headsOf items, t.mayMark) → membersOf items = .ok ms →
      List.Forall₂ Landmark.FoundAt (Item.headsOf items) (ms.flatMap Member.landmarks)
  | [], ms, _, h => by
    cases h
    exact .nil
  | i :: items, ms, hi, h => by
    obtain ⟨hfirst, hothers⟩ := List.forall_mem_append.1 hi
    rw [membersOf, bind_eq_ok] at h
    obtain ⟨m, hm, h⟩ := h
    obtain ⟨others, hms, h⟩ := bind_eq_ok.1 h
    cases h
    exact List.rel_append (foundAt_memberOf i hfirst hm) (foundAt_membersOf items hothers hms)

end

theorem foundAt_styleOf {b : Block} {s : Style} (hb : ∀ t ∈ b.landmarks, t.mayMark)
    (h : styleOf b = .ok s) : List.Forall₂ Landmark.FoundAt b.landmarks s.landmarks := by
  rw [styleOf, bind_eq_ok] at h
  obtain ⟨ms, hms, h⟩ := h
  obtain ⟨rs, hrs, h⟩ := bind_eq_ok.1 h
  cases h
  have hitems := foundAt_membersOf b.items (List.forall_mem_append.1 hb).2 hms
  rw [eq_map_of_onlyRules hrs, landmarks_map_rule] at hitems
  exact List.rel_append (foundAt_signature b.signature) hitems

theorem signature_styleOf {b : Block} {s : Style} (h : styleOf b = .ok s) :
    s.signature = b.signature := by
  obtain ⟨_, _, h⟩ := bind_eq_ok.1 h
  obtain ⟨_, _, h⟩ := bind_eq_ok.1 h
  cases h
  rfl

/-- The locations of pieces that are found at tokens are those of the tokens. -/
theorem location_of_foundAt {ts : List Token} {ms : List Landmark}
    (h : List.Forall₂ Landmark.FoundAt ts ms) :
    ms.filterMap Landmark.location = ts.map Token.location := by
  induction h with
  | nil => rfl
  | cons hfirst _ ih => rw [List.filterMap_cons_some hfirst.location, ih, List.map_cons]

/-! ### Signatures that are left out -/

namespace Source

def Stage.signature : Stage → Signature
  | .body s => s
  | .item s | .head _ s | .separator s | .value _ _ _ s => s.signature
  | _ => {}

/-- The signatures of the blocks that have been read and of the one that is being read. -/
def Reader.signatures (r : Reader) : List Signature :=
  r.done.map Block.signature ++ [r.stage.signature]

theorem Reader.mem_signatures_close {done : List Block} {scope : Scope} {s : Signature}
    (h : s ∈ (Reader.close done scope).signatures) :
    s ∈ done.map Block.signature ++ [scope.signature] ∨ s = {} := by
  cases scope with
  | block signature items =>
    simpa [Reader.close, Reader.signatures, Stage.signature, Scope.signature, or_assoc] using h
  | rule t items outer =>
    simp only [Reader.close, Reader.signatures, Stage.signature, Scope.signature_add] at h
    exact .inl h

/-- A signature is given with its location or left out. -/
theorem signatures_step {r r' : Reader} {gap : List Char} {t : Token}
    (h : r.step gap t = some r') {s : Signature} (hs : s ∈ r'.signatures) :
    s ∈ r.signatures ∨ s = {} ∨ s.location.isSome := by
  obtain ⟨done, stage⟩ := r
  by_cases hv : ∃ property pieces c s, stage = .value property pieces c s
  · obtain ⟨property, pieces, c, scope, rfl⟩ := hv
    rcases step_value_cases h with ⟨c', -, rfl⟩ | ⟨-, -, ⟨-, rfl⟩ | ⟨-, rfl⟩⟩
    · exact .inl hs
    · simp only [Reader.signatures, Stage.signature, Scope.signature_add] at hs
      exact .inl hs
    · have hclosed := Reader.mem_signatures_close hs
      rw [Scope.signature_add] at hclosed
      exact hclosed.imp_right .inl
  · simp only [Reader.step] at h
    split at h
    case h_18 => exact absurd ⟨_, _, _, _, rfl⟩ hv
    all_goals cases h
    case h_13 | h_17 => exact (Reader.mem_signatures_close hs).imp_right .inl
    case h_9 =>
      rcases List.mem_append.1 hs with hs | hs
      · exact .inl (List.mem_append_left _ hs)
      · rw [List.mem_singleton.1 hs]
        exact .inr (.inr rfl)
    all_goals exact .inl hs

theorem Passes.signatures {p q : Point} {ls : List Lexeme} (h : Passes p ls q) {s : Signature}
    (hs : s ∈ q.reader.signatures) : s ∈ p.reader.signatures ∨ s = {} ∨ s.location.isSome := by
  induction h with
  | refl => exact .inl hs
  | token _ _ _ hstep _ ih => exact (ih hs).elim (signatures_step hstep) .inr

/-- A block whose signature has no location was written without one. -/
theorem signature_of_outline {source : List Char} {blocks : List Block}
    (h : outline source = .ok blocks) {b : Block} (hb : b ∈ blocks)
    (hnone : b.signature.location = none) : b.signature = {} := by
  obtain ⟨ls, q, hpasses, -, rfl, -⟩ := exists_passes h
  have hmem : b.signature ∈ q.reader.signatures :=
    List.mem_append_left _ (List.mem_map_of_mem hb)
  rcases hpasses.signatures hmem with hstart | hleft | hsome
  · exact List.mem_singleton.1 hstart
  · exact hleft
  · rw [hnone] at hsome
    cases hsome

end Source

/-! ### Sources -/

/-- Locations are faithful and ordered. Every signature that is written, every header and every
entry of a source is found at a token of the source that it is made of, and its location is where
this token stands. Depth first and from block to block, these locations increase. A block whose
signature has no location was written without one. -/
theorem landmarks_faithful {source : String} {styles : List Style}
    (h : parseStyles source = .ok styles) :
    ∃ ls, Tokens source.toList ls ∧
      (∀ m ∈ styles.flatMap Style.landmarks, ∃ t ∈ Lexeme.tokens ls, m.FoundAt t ∧ t.text ≠ [] ∧
        ∃ rest, t.location.Shows source.toList (t.text ++ rest)) ∧
      ((styles.flatMap Style.landmarks).filterMap Landmark.location).Pairwise (· < ·) ∧
      ∀ s ∈ styles, s.signature.location = none → s.signature = {} := by
  obtain ⟨blocks, houtline, hstyles⟩ := bind_eq_ok.1 h
  obtain ⟨ls, htokens, hsublist⟩ := exists_tokens houtline
  obtain ⟨q, hpasses, -⟩ := id htokens
  obtain ⟨hfilled, hordered⟩ := hpasses.ordered
  have hmarks : ∀ b ∈ blocks, ∀ t ∈ b.landmarks, t.mayMark := fun b hb t ht =>
    (List.mem_filter.1 (hsublist.subset (List.mem_flatMap.2 ⟨b, hb, ht⟩))).2
  have hfound : List.Forall₂ Landmark.FoundAt (blocks.flatMap Block.landmarks)
      (styles.flatMap Style.landmarks) :=
    List.rel_flatMap ((List.forall₂_and_left _ _).2 ⟨hmarks, mapM_eq_ok.1 hstyles⟩)
      fun _ _ hstyle => foundAt_styleOf hstyle.1 hstyle.2
  have hamong := hsublist.trans List.filter_sublist
  refine ⟨ls, htokens, fun m hm => ?_, ?_, fun s hs hnone => ?_⟩
  · obtain ⟨t, ht, hmade⟩ := exists_of_mem_forall₂ hfound hm
    have htoken := hamong.subset ht
    exact ⟨t, htoken, hmade, (hfilled t htoken).2, hpasses.shows [] rfl rfl t htoken⟩
  · rw [location_of_foundAt hfound]
    exact List.pairwise_map.2 (hordered.sublist hamong)
  · obtain ⟨b, hb, hstyle⟩ := exists_of_mem_mapM hstyles hs
    have hsame := signature_styleOf hstyle
    rw [hsame] at hnone ⊢
    exact signature_of_outline houtline hb hnone

/-- A comment with a carriage return in front of a signature, a prelude with blanks and an escape,
and a second block without a signature. -/
theorem landmarks_faithful_lines :
    let source :=
      "# a\r\n(t: T) -> R \x7b \" @m\\t\"\n\x7bb\x7bc_d: 1\x7d\x7d\x7d\x7b '\\e' \x7b\x7d\x7d"
    let prelude : Header := ⟨[.raw "@m"], some ⟨2, 15⟩, true⟩
    ∃ styles, parseStyles source = .ok styles ∧
      (styles.flatMap Style.landmarks).filterMap Landmark.location =
        [⟨2, 2⟩, ⟨2, 15⟩, ⟨3, 2⟩, ⟨3, 4⟩, ⟨3, 15⟩] ∧
      [(⟨2, 2⟩ : Location), ⟨2, 15⟩, ⟨3, 2⟩, ⟨3, 4⟩, ⟨3, 15⟩].Pairwise (· < ·) ∧
      .header prelude ∈ styles.flatMap Style.landmarks ∧
      ∃ t rest, (Landmark.header prelude).FoundAt t ∧
        Location.Shows ⟨2, 15⟩ source.toList (t.text ++ rest) := by
  intro source prelude
  let styles : List Style := [
    ⟨⟨"t", "T", "R", some ⟨2, 2⟩⟩, [.nested prelude
      [.plain (.ofIdentifier "b" (some ⟨3, 2⟩)) [⟨"c-d", "1", some ⟨3, 4⟩⟩]]]⟩,
    ⟨{}, [.plain ⟨[.raw "e"], some ⟨3, 15⟩, false⟩ []]⟩]
  have hparse : parseStyles source = .ok styles := by decide +kernel
  have hlocations : (styles.flatMap Style.landmarks).filterMap Landmark.location =
      [⟨2, 2⟩, ⟨2, 15⟩, ⟨3, 2⟩, ⟨3, 4⟩, ⟨3, 15⟩] := rfl
  have hmem : .header prelude ∈ styles.flatMap Style.landmarks := .tail _ (.head _)
  obtain ⟨ls, -, hfound, hordered, -⟩ := landmarks_faithful hparse
  obtain ⟨t, -, hat, -, rest, hshows⟩ := hfound _ hmem
  have hplace : (⟨2, 15⟩ : Location) = t.location := Option.some.inj hat.location
  exact ⟨styles, hparse, hlocations, hlocations ▸ hordered, hmem, t, rest, hat, hplace ▸ hshows⟩

end ScopedCss

import ScopedCss.Proofs.Canonical
import ScopedCss.Proofs.Outcomes

/-! Moving locations. Nothing that is read depends on where it stands: if the locations of all
tokens are moved, a reader takes the same steps, and the blocks, or the error, come out with their
locations moved and nothing else changed. -/
namespace ScopedCss

variable (f : Location → Location)

/-! ### Style blocks -/

def Header.relocate (h : Header) : Header := { h with location := h.location.map f }

def Entry.relocate (e : Entry) : Entry := { e with location := e.location.map f }

mutual

def Rule.relocate : Rule → Rule
  | .plain h es => .plain (h.relocate f) (es.map (Entry.relocate f))
  | .nested h rs => .nested (h.relocate f) (Rule.relocateAll rs)

def Rule.relocateAll : List Rule → List Rule
  | [] => []
  | r :: rs => r.relocate :: Rule.relocateAll rs

end

def Signature.relocate (s : Signature) : Signature := { s with location := s.location.map f }

/-- The same block with all its locations moved. -/
def Style.relocate (s : Style) : Style := ⟨s.signature.relocate f, Rule.relocateAll f s.rules⟩

mutual

theorem Rule.unlocated_relocate : (r : Rule) → (r.relocate f).unlocated = r.unlocated
  | .plain h es => by
    simp [Rule.relocate, Rule.unlocated, Header.relocate, Header.unlocated, Entry.relocate,
      Entry.unlocated]
  | .nested h rs => by
    rw [Rule.relocate, Rule.unlocated, Rule.unlocated, Rule.unlocatedAll_relocateAll rs]
    rfl

theorem Rule.unlocatedAll_relocateAll :
    (rs : List Rule) → Rule.unlocatedAll (Rule.relocateAll f rs) = Rule.unlocatedAll rs
  | [] => rfl
  | r :: rs => by
    rw [Rule.relocateAll, Rule.unlocatedAll, Rule.unlocatedAll, Rule.unlocated_relocate r,
      Rule.unlocatedAll_relocateAll rs]

end

/-- Blocks that differ only by a move are equal but for their locations. -/
theorem Style.unlocated_relocate (s : Style) : (s.relocate f).unlocated = s.unlocated := by
  rw [Style.relocate, Style.unlocated, Rule.unlocatedAll_relocateAll]
  rfl

/-! ### Outlines -/

namespace Source

def Token.relocate (t : Token) : Token := { t with location := f t.location }

mutual

def Item.relocate : Item → Item
  | .rule t items => .rule (t.relocate f) (Item.relocateAll items)
  | .entry t v => .entry (t.relocate f) v

def Item.relocateAll : List Item → List Item
  | [] => []
  | i :: is => i.relocate :: Item.relocateAll is

end

theorem Item.relocateAll_eq_map (is : List Item) :
    Item.relocateAll f is = is.map (Item.relocate f) := by
  induction is with
  | nil => rfl
  | cons i is ih => rw [Item.relocateAll, ih, List.map_cons]

def Block.relocate (b : Block) : Block := ⟨b.signature.relocate f, b.items.map (Item.relocate f)⟩

def Scope.relocate : Scope → Scope
  | .block s items => .block (s.relocate f) (items.map (Item.relocate f))
  | .rule h items outer => .rule (h.relocate f) (items.map (Item.relocate f)) outer.relocate

def Stage.relocate : Stage → Stage
  | .outside => .outside
  | .themeVar => .themeVar
  | .themeColon v => .themeColon (v.relocate f)
  | .themeType v p => .themeType (v.relocate f) p
  | .themeDot v p => .themeDot (v.relocate f) p
  | .arrow v p => .arrow (v.relocate f) p
  | .resultType v p => .resultType (v.relocate f) p
  | .body s => .body (s.relocate f)
  | .item s => .item (s.relocate f)
  | .head t s => .head (t.relocate f) (s.relocate f)
  | .separator s => .separator (s.relocate f)
  | .value t pieces c s => .value (t.relocate f) pieces c (s.relocate f)

/-- The reader with all its locations moved, behind blocks that were read before. -/
def Reader.moved (before : List Block) (r : Reader) : Reader :=
  ⟨before ++ r.done.map (Block.relocate f), r.stage.relocate f⟩

@[simp] theorem Stage.allows_relocate (s : Stage) : (s.relocate f).allows = s.allows := by
  cases s <;> rfl

theorem Scope.relocate_add (i : Item) (s : Scope) :
    (s.add i).relocate f = (s.relocate f).add (i.relocate f) := by
  cases s <;> rfl

theorem Reader.moved_close (before done : List Block) (s : Scope) :
    (Reader.close done s).moved f before =
      Reader.close (before ++ done.map (Block.relocate f)) (s.relocate f) := by
  cases s with
  | block signature items =>
    simp [Reader.close, Reader.moved, Scope.relocate, Stage.relocate, Block.relocate]
  | rule head items outer =>
    simp [Reader.close, Reader.moved, Scope.relocate, Stage.relocate, Scope.relocate_add,
      Item.relocate, Item.relocateAll_eq_map]

/-- A reader takes the same step wherever its tokens stand. -/
theorem Reader.step_moved (before : List Block) (r : Reader) (gap : List Char) (t : Token) :
    (r.moved f before).step gap (t.relocate f) = (r.step gap t).map (Reader.moved f before) := by
  obtain ⟨done, stage⟩ := r
  obtain ⟨terminal, text, location⟩ := t
  cases stage with
  | value property pieces c s =>
    simp only [Reader.step, Reader.moved, Stage.relocate, Token.relocate]
    cases c.next? terminal with
    | some c' => rfl
    | none =>
      simp only
      split_ifs
      · simp [Reader.moved, Stage.relocate, Scope.relocate_add, Item.relocate, Token.relocate]
      · simp [Reader.moved_close, Scope.relocate_add, Item.relocate, Token.relocate]
      · rfl
  | item s | separator s =>
    cases terminal
    case closeBrace => exact congrArg some (Reader.moved_close f before done s).symm
    all_goals rfl
  | _ => cases terminal <;> rfl

theorem Reader.isFinished_moved (before : List Block) {r : Reader} (h : r.isFinished) :
    (r.moved f before).isFinished := by
  obtain ⟨done, stage⟩ := r
  obtain rfl : stage = .outside := Reader.stage_of_isFinished h
  have hne : done ≠ [] := by simpa [Reader.isFinished] using h
  simp [Reader.isFinished, Reader.moved, Stage.relocate, hne]

end Source

/-! ### From outlines to style blocks -/

open Source

def Member.relocate : Member → Member
  | .rule r => .rule (r.relocate f)
  | .entry e => .entry (e.relocate f)

def ParseError.relocate (e : ParseError) : ParseError := { e with location := e.location.map f }

/-- A result whose locations are moved, those of its error too. -/
def relocated {α β : Type} (g : α → β) : Except ParseError α → Except ParseError β
  | .ok a => .ok (g a)
  | .error e => .error (e.relocate f)

section relocated
variable {α β γ δ : Type} {g : α → β} {k : γ → δ}

theorem relocated_bind {x : Except ParseError α} {next : α → Except ParseError γ}
    {next' : β → Except ParseError δ} (h : ∀ a, next' (g a) = relocated f k (next a)) :
    (relocated f g x >>= next') = relocated f k (x >>= next) := by
  cases x with
  | error e => rfl
  | ok a => exact h a

theorem relocated_map {x : Except ParseError α} {g' : α → γ} {k' : β → δ}
    (h : ∀ a, k' (g a) = k (g' a)) :
    (relocated f g x).map k' = relocated f k (x.map g') := by
  cases x with
  | error e => rfl
  | ok a => exact congrArg Except.ok (h a)

theorem relocated_mapM {next : α → Except ParseError γ} {next' : β → Except ParseError δ}
    (h : ∀ a, next' (g a) = relocated f k (next a)) (xs : List α) :
    (xs.map g).mapM next' = relocated f (List.map k) (xs.mapM next) := by
  induction xs with
  | nil => rfl
  | cons x xs ih =>
    rw [List.map_cons, List.mapM_cons, List.mapM_cons, h, ih]
    exact relocated_bind f fun _ => relocated_bind f fun _ => rfl

end relocated

theorem Header.text_relocate (h : Header) : (h.relocate f).text = h.text := rfl

theorem parse_relocate (literal : String) (l : Option Location) :
    Selector.parse literal (l.map f) =
      relocated f (Header.relocate f) (Selector.parse literal l) := by
  unfold Selector.parse
  split
  · rfl
  · rfl
  · split <;> rfl

theorem headerOf_relocate (t : Token) :
    headerOf (t.relocate f) = relocated f (Header.relocate f) (headerOf t) := by
  have hsame : (t.relocate f).terminal = t.terminal := rfl
  by_cases hliteral : t.terminal = .string
  · rw [headerOf, headerOf, if_pos (hsame.trans hliteral), if_pos hliteral]
    exact parse_relocate f _ (some t.location)
  · rw [headerOf, headerOf, if_neg (hsame ▸ hliteral), if_neg hliteral]
    rfl

theorem onlyRules_relocate (owner : String) (ms : List Member) :
    onlyRules owner (ms.map (Member.relocate f)) =
      relocated f (Rule.relocateAll f) (onlyRules owner ms) := by
  induction ms with
  | nil => rfl
  | cons m ms ih =>
    cases m with
    | entry e => rfl
    | rule r =>
      rw [List.map_cons, Member.relocate, onlyRules, onlyRules, ih]
      exact relocated_map f fun _ => rfl

theorem onlyEntries_relocate (owner : String) (ms : List Member) :
    onlyEntries owner (ms.map (Member.relocate f)) =
      relocated f (List.map (Entry.relocate f)) (onlyEntries owner ms) := by
  induction ms with
  | nil => rfl
  | cons m ms ih =>
    cases m with
    | rule r => cases r <;> rfl
    | entry e =>
      rw [List.map_cons, Member.relocate, onlyEntries, onlyEntries, ih]
      exact relocated_map f fun _ => rfl

mutual

theorem memberOf_relocate : (i : Item) →
    memberOf (i.relocate f) = relocated f (Member.relocate f) (memberOf i)
  | .entry t v => rfl
  | .rule t items => by
    rw [Item.relocate, memberOf, memberOf, headerOf_relocate]
    refine relocated_bind f fun header => ?_
    rw [membersOf_relocate items]
    refine relocated_bind f fun members => ?_
    rw [Header.text_relocate]
    show (if header.isAtRule then _ else _) = _
    split
    · rw [onlyRules_relocate]
      exact relocated_bind f fun rules => rfl
    · rw [onlyEntries_relocate]
      exact relocated_bind f fun entries => rfl

theorem membersOf_relocate : (is : List Item) →
    membersOf (Item.relocateAll f is) = relocated f (List.map (Member.relocate f)) (membersOf is)
  | [] => rfl
  | i :: is => by
    rw [Item.relocateAll, membersOf, membersOf, memberOf_relocate i]
    refine relocated_bind f fun m => ?_
    rw [membersOf_relocate is]
    exact relocated_bind f fun ms => rfl

end

/-- A block is made of an outline wherever the outline stands. -/
theorem styleOf_relocate (b : Block) :
    styleOf (b.relocate f) = relocated f (Style.relocate f) (styleOf b) := by
  rw [styleOf, styleOf, Block.relocate, ← Item.relocateAll_eq_map, membersOf_relocate]
  refine relocated_bind f fun members => ?_
  rw [onlyRules_relocate]
  exact relocated_bind f fun rules => rfl

theorem mapM_styleOf_relocate (blocks : List Block) :
    (blocks.map (Block.relocate f)).mapM styleOf =
      relocated f (List.map (Style.relocate f)) (blocks.mapM styleOf) :=
  relocated_mapM f (styleOf_relocate f) blocks

end ScopedCss

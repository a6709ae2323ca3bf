import ScopedCss.Proofs.Lexemes
import ScopedCss.Proofs.Reading

/-! What a reader records. A declaration is recorded with the token of its property and the text of
its value, when the token behind the value is read, and what is recorded stays recorded. -/
namespace ScopedCss.Source

/-- The signature of the block that is being read. -/
def Scope.signature : Scope → Signature
  | .block s _ => s
  | .rule _ _ outer => outer.signature

theorem Scope.signature_add (i : Item) (s : Scope) : (s.add i).signature = s.signature := by
  cases s <;> rfl

/-! ### Recorded declarations -/

mutual

/-- The declarations in an item, in order. -/
def Item.declarations : Item → List (Token × List Char)
  | .rule _ items => Item.declarationsOf items
  | .entry t v => [(t, v)]

def Item.declarationsOf : List Item → List (Token × List Char)
  | [] => []
  | i :: is => i.declarations ++ Item.declarationsOf is

end

theorem Item.declarationsOf_append (is js : List Item) :
    Item.declarationsOf (is ++ js) = Item.declarationsOf is ++ Item.declarationsOf js := by
  induction is with
  | nil => rfl
  | cons i is ih =>
    rw [List.cons_append, Item.declarationsOf, Item.declarationsOf, ih, List.append_assoc]

theorem Item.declarationsOf_singleton (i : Item) : Item.declarationsOf [i] = i.declarations := by
  rw [Item.declarationsOf, Item.declarationsOf, List.append_nil]

def Scope.declarations : Scope → List (Token × List Char)
  | .block _ items => Item.declarationsOf items.reverse
  | .rule _ items outer => outer.declarations ++ Item.declarationsOf items.reverse

theorem Scope.declarations_add (i : Item) (s : Scope) :
    (s.add i).declarations = s.declarations ++ i.declarations := by
  cases s <;>
    simp [Scope.add, Scope.declarations, Item.declarationsOf_append,
      Item.declarationsOf_singleton]

def Stage.declarations : Stage → List (Token × List Char)
  | .item s | .head _ s | .separator s | .value _ _ _ s => s.declarations
  | _ => []

def Block.declarations (blocks : List Block) : List (Token × List Char) :=
  blocks.flatMap fun b => Item.declarationsOf b.items

/-- The declarations that are read so far; one that is being read is not among them. -/
def Reader.declarations (r : Reader) : List (Token × List Char) :=
  Block.declarations r.done ++ r.stage.declarations

theorem Reader.declarations_close (done : List Block) (s : Scope) :
    (Reader.close done s).declarations = Block.declarations done ++ s.declarations := by
  cases s <;>
    simp [Reader.close, Reader.declarations, Block.declarations, Stage.declarations,
      Scope.declarations, Scope.declarations_add, Item.declarations]

/-- A token goes on with a value or ends it. -/
theorem step_value_cases {done : List Block} {property : Token} {pieces : List (List Char)}
    {c : Cursor} {s : Scope} {gap : List Char} {t : Token} {r' : Reader}
    (h : Reader.step ⟨done, .value property pieces c s⟩ gap t = some r') :
    (∃ c', c.next? t.terminal = some c' ∧
      r' = ⟨done, .value property (Reader.extend pieces gap t.text) c' s⟩) ∨
    c.next? t.terminal = none ∧ c.isComplete ∧
      (t.terminal = .comma ∧ r' = ⟨done, .item (s.add (.entry property (Reader.joined pieces)))⟩ ∨
        t.terminal = .closeBrace ∧
          r' = Reader.close done (s.add (.entry property (Reader.joined pieces)))) := by
  simp only [Reader.step] at h
  cases hc : c.next? t.terminal with
  | some c' =>
    rw [hc] at h
    cases h
    exact .inl ⟨c', rfl, rfl⟩
  | none =>
    simp only [hc, Bool.and_eq_true, beq_iff_eq] at h
    split_ifs at h with hcomma hbrace
    · cases h
      exact .inr ⟨rfl, hcomma.1, .inl ⟨hcomma.2, rfl⟩⟩
    · cases h
      exact .inr ⟨rfl, hbrace.1, .inr ⟨hbrace.2, rfl⟩⟩

/-- A token records the declaration whose value it ends, and no other token records any. -/
theorem declarations_step {r r' : Reader} {gap : List Char} {t : Token}
    (h : r.step gap t = some r') :
    r'.declarations = r.declarations ∨ ∃ property pieces c s,
      r.stage = .value property pieces c s ∧ c.isComplete ∧
      (t.terminal = .comma ∨ t.terminal = .closeBrace) ∧
      r'.declarations = r.declarations ++ [(property, Reader.joined pieces)] := by
  obtain ⟨done, stage⟩ := r
  by_cases hv : ∃ property pieces c s, stage = .value property pieces c s
  · obtain ⟨property, pieces, c, s, rfl⟩ := hv
    have hadd : Block.declarations done ++
        (s.add (.entry property (Reader.joined pieces))).declarations =
          Block.declarations done ++ s.declarations ++ [(property, Reader.joined pieces)] := by
      rw [Scope.declarations_add, ← List.append_assoc, Item.declarations]
    rcases step_value_cases h with ⟨c', -, rfl⟩ | ⟨-, hc, ⟨ht, rfl⟩ | ⟨ht, rfl⟩⟩
    · exact .inl rfl
    · exact .inr ⟨property, pieces, c, s, rfl, hc, .inl ht, hadd⟩
    · refine .inr ⟨property, pieces, c, s, rfl, hc, .inr ht, ?_⟩
      rw [Reader.declarations_close]
      exact hadd
  · left
    simp only [Reader.step] at h
    split at h
    case h_18 => exact absurd ⟨_, _, _, _, rfl⟩ hv
    all_goals cases h
    all_goals try rw [Reader.declarations_close]
    all_goals simp [Reader.declarations, Stage.declarations, Scope.declarations,
      Item.declarationsOf]

theorem Reader.stage_of_isFinished {r : Reader} (h : r.isFinished) : r.stage = .outside := by
  unfold Reader.isFinished at h
  split at h
  next hs => exact hs
  next => cases h

/-! ### First characters -/

/-- The text that is cut off starts as the whole text does. -/
theorem exists_text_cons {allowed : Terminal → Bool} {c : Char} {rest : List Char} {cut : Cut}
    (h : scan? allowed (c :: rest) = some cut) :
    allowed cut.terminal ∧ ∃ r, cut.text = c :: r ∧ cut.terminal.Matches (c :: r) := by
  obtain ⟨hallowed, hmatches⟩ := matches_of_scan? h
  obtain ⟨happend, hne⟩ := scan?_of h
  obtain ⟨d, r, htext⟩ := List.exists_cons_of_ne_nil hne
  rw [htext, List.cons_append] at happend
  rw [(List.cons.inj happend).1] at htext
  exact ⟨hallowed, r, htext, htext ▸ hmatches⟩

end ScopedCss.Source

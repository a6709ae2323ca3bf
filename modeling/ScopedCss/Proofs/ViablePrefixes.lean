import ScopedCss.Proofs.Grammar
import ScopedCss.Proofs.Captures

/-! What has been read is always the front of a derivable sequence of terminals. Each place of a
value and each stage of the reader stands for a set of fronts, told by what completes them, and
every step leads from a front in the one set to a front in the next. -/
namespace ScopedCss.Source

open Phrase (token symbol optional many separated commas listed)

/-! ### Something that is open -/

/-- Terminals that end inside of something: `part` stands behind what opens it, and whatever the
whole may be, `Outer` holds with it in this place. -/
def Within (opening : Terminal) (part whole : Phrase) (Outer : List Terminal → Prop)
    (p : List Terminal) : Prop :=
  ∃ q x, p = q ++ opening :: x ∧ part.Derives x ∧ ∀ w, whole.Derives w → Outer (q ++ w)

section Within
variable {opening : Terminal} {part part' whole element : Phrase} {Outer : List Terminal → Prop}
  {p x y : List Terminal}

theorem within_of_forall (h : ∀ w, whole.Derives w → Outer (p ++ w)) (hx : part.Derives x) :
    Within opening part whole Outer (p ++ opening :: x) :=
  ⟨p, x, rfl, hx, h⟩

theorem Within.grow (h : Within opening part whole Outer p)
    (hpart : ∀ x, part.Derives x → part'.Derives (x ++ y)) :
    Within opening part' whole Outer (p ++ y) := by
  obtain ⟨q, x, rfl, hx, hall⟩ := h
  exact ⟨q, x ++ y, by simp, hpart x hx, hall⟩

theorem Within.finish (h : Within opening part whole Outer p)
    (hwhole : ∀ x, part.Derives x → whole.Derives (opening :: (x ++ y))) : Outer (p ++ y) := by
  obtain ⟨q, x, rfl, hx, hall⟩ := h
  simpa using hall _ (hwhole x hx)

/-- The elements of a list that another one or the end may follow. -/
def started (element : Phrase) : Phrase := optional (commas element ++ token .comma)

theorem commas_of_started (hx : (started element).Derives x) (hy : element.Derives y) :
    (commas element).Derives (x ++ y) := by
  cases hx with
  | none => exact hy.separated_one
  | some h =>
    cases h with
    | seq hlist hcomma =>
      rw [List.append_assoc]
      exact hlist.separated_concat hcomma hy

theorem started_of_commas (hx : (commas element).Derives x) :
    (started element).Derives (x ++ [.comma]) :=
  .some (.seq hx .token)

theorem listed_of_commas (hx : (commas element).Derives x) : (listed element).Derives x := by
  have hall := Phrase.Derives.seq hx (@Phrase.Derives.none (token .comma))
  rwa [List.append_nil] at hall

theorem listed_of_started (hx : (started element).Derives x) :
    (optional (listed element)).Derives x := by
  cases hx with
  | none => exact .none
  | some h =>
    cases h with
    | seq hlist hcomma => exact .some (.seq hlist (.some hcomma))

end Within

/-! ### Values -/

theorem notTest_name : Symbol.notTest.Derives [.name] := by
  have hatom := Symbol.derives_atom .name (by simp)
  exact Symbol.notTest_contains_factor.derives (Symbol.factor_contains_atom.derives hatom)

namespace Bracket

def opening : Bracket → Terminal
  | .group | .call => .openParen
  | .list | .index => .openBracket
  | .condition => .ifWord

def closing : Bracket → Terminal
  | .group | .call => .closeParen
  | .list | .index => .closeBracket
  | .condition => .elseWord

/-- The elements of the brackets that hold lists. -/
def element? : Bracket → Option Symbol
  | .group | .list => some .test
  | .call => some .argument
  | .index | .condition => none

/-- What stands inside of a bracket up to an operand. -/
def content : Bracket → Phrase
  | .group | .list => commas (symbol .test)
  | .call => commas (symbol .argument)
  | .index => symbol .test
  | .condition => symbol .orTest

/-- All that a bracket opens. -/
def phrase : Bracket → Phrase
  | .group => token .openParen ++ optional (symbol .exprList) ++ token .closeParen
  | .list => token .openBracket ++ optional (symbol .exprList) ++ token .closeBracket
  | .call => token .openParen ++ optional (symbol .argList) ++ token .closeParen
  | .index => token .openBracket ++ symbol .test ++ token .closeBracket
  | .condition => token .ifWord ++ symbol .orTest ++ (token .elseWord ++ symbol .test)

variable {b : Bracket} {e : Symbol} {x : List Terminal}

theorem content_eq (he : b.element? = some e) : b.content = commas (symbol e) := by
  cases b <;> cases he <;> rfl

theorem phrase_of_listed (he : b.element? = some e)
    (hx : (optional (listed (symbol e))).Derives x) :
    b.phrase.Derives (b.opening :: (x ++ [b.closing])) := by
  have hlist : ∀ s, grammar s = listed (symbol e) → (optional (symbol s)).Derives x := by
    intro s hs
    cases hx with
    | none => exact .none
    | some h => exact .some (.symbol (hs ▸ h))
  cases b <;> cases he
  case group | list => exact .seq (.seq .token (hlist .exprList rfl)) .token
  case call => exact .seq (.seq .token (hlist .argList rfl)) .token

theorem phrase_of_content (b : Bracket) :
    ∃ z, ∀ x, b.content.Derives x → b.phrase.Derives (b.opening :: (x ++ z)) := by
  cases b with
  | group | list | call =>
    exact ⟨_, fun x hx => phrase_of_listed rfl (.some (listed_of_commas hx))⟩
  | index => exact ⟨_, fun x hx => .seq (.seq .token hx) .token⟩
  | condition =>
    have hname := Symbol.test_contains_notTest.derives notTest_name
    exact ⟨_, fun x hx => .seq (.seq .token hx) (.seq .token hname)⟩

end Bracket

/-- Terminals of a value that end with an operand, inside of these brackets. -/
def Operand : List Bracket → List Terminal → Prop
  | [] => Symbol.test.Derives
  | b :: bs => Within b.opening b.content b.phrase (Operand bs)

/-- What the operand may be the end of. -/
def level : List Bracket → Symbol
  | .condition :: _ => .orTest
  | _ => .test

section Operand
variable {bs : List Bracket} {p x : List Terminal}

theorem level_contains_orTest : (level bs).Contains .orTest := by
  unfold level
  split
  · exact .refl
  · exact .step rfl .refl

theorem Operand.extend (h : Operand bs p) (hx : (level bs).Extends x) : Operand bs (p ++ x) := by
  cases bs with
  | nil => exact Symbol.Derives.extend h hx
  | cons b bs =>
    refine Within.grow h fun y hy => ?_
    cases b with
    | group | list => exact Symbol.Derives.extend_separated hy hx
    | call => exact Symbol.Derives.extend_separated hy (.operand rfl hx)
    | index | condition => exact Symbol.Derives.extend hy hx

/-- An operand goes on with any tail of a test that is no condition. -/
theorem Operand.extend_tail (h : Operand bs p) {s : Symbol} {q : Phrase}
    (hs : Symbol.orTest.Contains s) (hq : q ∈ s.tails) (hx : q.Derives x) :
    Operand bs (p ++ x) :=
  h.extend (level_contains_orTest.extends (hs.extends (.tail hq hx)))

theorem Operand.extend_binary (h : Operand bs p) {s e : Symbol} {op : Terminal}
    (hs : Symbol.orTest.Contains s) (hop : token op ++ symbol e ∈ s.tails) (hx : e.Derives x) :
    Operand bs (p ++ [op] ++ x) := by
  rw [List.append_assoc]
  exact h.extend_tail hs hop (.seq .token hx)

theorem Operand.completes (h : Operand bs p) : ∃ y, Symbol.test.Derives (p ++ y) := by
  induction bs generalizing p with
  | nil => exact ⟨[], by rwa [List.append_nil]⟩
  | cons b bs ih =>
    obtain ⟨z, hz⟩ := b.phrase_of_content
    obtain ⟨y, hy⟩ := ih (Within.finish h hz)
    exact ⟨z ++ y, by rwa [← List.append_assoc]⟩

end Operand

namespace Cursor

/-- The terminals of a value that a cursor can stand behind, told by what may follow. -/
def Reads (c : Cursor) (p : List Terminal) : Prop :=
  match c.place with
  | .first => ∃ b bs e, c.brackets = b :: bs ∧ b.element? = some e ∧
      Within b.opening (started (symbol e)) b.phrase (Operand bs) p
  | .test => ∀ x, Symbol.notTest.Derives x → Operand c.brackets (p ++ x)
  | .factor => ∀ x, Symbol.factor.Derives x → Operand c.brackets (p ++ x)
  | .attribute => Operand c.brackets (p ++ [.name])
  | .operator => Operand c.brackets p
  | .keyword => Operand c.brackets p ∧
      ∀ x, Symbol.notTest.Derives x → Operand c.brackets (p ++ .equals :: x)

variable {c c' : Cursor} {p x : List Terminal} {t : Terminal}

theorem reads_start : start.Reads [] := fun _ => Symbol.test_contains_notTest.derives

theorem element_contains_notTest {b : Bracket} {e : Symbol} (he : b.element? = some e) :
    e.Contains .notTest := by
  cases b <;> cases he
  case group | list => exact Symbol.test_contains_notTest
  case call => exact .step rfl Symbol.test_contains_notTest

theorem Reads.notTest (h : c.Reads p) (hplace : c.place = .first ∨ c.place = .test)
    (hx : Symbol.notTest.Derives x) : Operand c.brackets (p ++ x) := by
  obtain ⟨place, brackets⟩ := c
  rcases hplace with rfl | rfl
  · obtain ⟨b, bs, e, rfl, he, hwithin⟩ := h
    refine hwithin.grow fun y hy => ?_
    rw [Bracket.content_eq he]
    exact commas_of_started hy ((element_contains_notTest he).derives hx)
  · exact h x hx

theorem Reads.factor (h : c.Reads p)
    (hplace : c.place = .first ∨ c.place = .test ∨ c.place = .factor)
    (hx : Symbol.factor.Derives x) : Operand c.brackets (p ++ x) := by
  by_cases hfactor : c.place = .factor
  · obtain ⟨place, brackets⟩ := c
    cases hfactor
    exact h x hx
  · have hplace : c.place = .first ∨ c.place = .test := by simpa [hfactor] using hplace
    exact h.notTest hplace (Symbol.notTest_contains_factor.derives hx)

/-- Behind a name that starts an argument its value may follow. -/
theorem Reads.keyword (h : c.Reads p) (hplace : c.place = .first)
    (hcall : c.brackets.head? = some .call) (hx : Symbol.notTest.Derives x) :
    Operand c.brackets (p ++ [.name] ++ .equals :: x) := by
  obtain ⟨place, brackets⟩ := c
  cases hplace
  obtain ⟨b, bs, e, rfl, he, hwithin⟩ := h
  obtain rfl : b = .call := by simpa using hcall
  cases he
  have hargument : Symbol.argument.Derives (.name :: .equals :: x) :=
    .symbol (.right (.seq .token (.seq .token (Symbol.test_contains_notTest.derives hx))))
  rw [List.append_assoc]
  exact hwithin.grow fun y hy => commas_of_started hy hargument

/-- A list may end behind its opening bracket or a comma. -/
theorem Reads.close {b : Bracket} {bs : List Bracket} (h : c.Reads p) (hplace : c.place = .first)
    (hbrackets : c.brackets = b :: bs) : Operand bs (p ++ [b.closing]) := by
  obtain ⟨place, brackets⟩ := c
  cases hplace
  obtain ⟨b', bs', e, hb, he, hwithin⟩ := h
  obtain ⟨rfl, rfl⟩ := List.cons.inj (hbrackets.symm.trans hb)
  exact hwithin.finish fun y hy => Bracket.phrase_of_listed he (listed_of_started hy)

theorem Reads.operand (h : c.Reads p)
    (hplace : c.place = .first ∨ c.place = .test ∨ c.place = .factor)
    (hstep : c.operand? t = some c') : c'.Reads (p ++ [t]) := by
  have hatom : ∀ {x}, Symbol.atom.Derives x → Operand c.brackets (p ++ x) := fun hx =>
    h.factor hplace (Symbol.factor_contains_atom.derives hx)
  cases t <;> simp only [operand?, reduceCtorEq] at hstep
  case fstring | number | string =>
    cases hstep
    exact hatom (Symbol.derives_atom _ (by simp))
  case name =>
    cases hstep
    have hname := hatom (Symbol.derives_atom .name (by simp))
    split
    · next hcall => exact ⟨hname, fun x => h.keyword hcall.1 hcall.2⟩
    · exact hname
  case notWord =>
    split at hstep
    · cases hstep
    · next hfactor =>
      cases hstep
      intro x hx
      rw [List.append_assoc]
      refine h.notTest (by simpa [hfactor] using hplace) ?_
      exact .symbol (.left (.seq .token hx))
  case minus =>
    cases hstep
    intro x hx
    rw [List.append_assoc]
    exact h.factor hplace (.symbol (.left (.left (.seq .token hx))))
  case plus =>
    cases hstep
    intro x hx
    rw [List.append_assoc]
    exact h.factor hplace (.symbol (.left (.right (.seq .token hx))))
  case openParen =>
    cases hstep
    exact ⟨.group, c.brackets, .test, rfl, rfl,
      within_of_forall (fun w hw => hatom (.symbol (.left (.right hw)))) .none⟩
  case openBracket =>
    cases hstep
    exact ⟨.list, c.brackets, .test, rfl, rfl,
      within_of_forall (fun w hw => hatom (.symbol (.right hw))) .none⟩
  case closeParen =>
    split at hstep
    · next hfirst hbrackets =>
      cases hstep
      exact h.close hfirst hbrackets
    · next hfirst hbrackets =>
      cases hstep
      exact h.close hfirst hbrackets
    · cases hstep
  case closeBracket =>
    split at hstep
    · next hfirst hbrackets =>
      cases hstep
      exact h.close hfirst hbrackets
    · cases hstep

/-- The operand or the condition of a bracket ends, and so does the bracket. -/
theorem operand_of_closed {b : Bracket} {bs : List Bracket} (hb : b ≠ .condition)
    (h : Operand (b :: bs) p) : Operand bs (p ++ [b.closing]) := by
  refine Within.finish h fun x hx => ?_
  cases b with
  | group | list | call => exact Bracket.phrase_of_listed rfl (.some (listed_of_commas hx))
  | index => exact .seq (.seq .token hx) .token
  | condition => exact absurd rfl hb

theorem reads_of_comma {b : Bracket} {bs : List Bracket} {e : Symbol}
    (he : b.element? = some e) (h : Operand (b :: bs) p) :
    Reads ⟨.first, b :: bs⟩ (p ++ [.comma]) := by
  refine ⟨b, bs, e, rfl, he, Within.grow h fun x hx => started_of_commas ?_⟩
  rwa [← Bracket.content_eq he]

theorem reads_of_operator (h : Operand c.brackets p)
    (hkeyword : c.place = .keyword →
      ∀ x, Symbol.notTest.Derives x → Operand c.brackets (p ++ .equals :: x))
    (hstep : c.operator? t = some c') : c'.Reads (p ++ [t]) := by
  have harith := Symbol.orTest_contains_arith
  have hterm : Symbol.orTest.Contains .term := harith.trans (.step rfl .refl)
  have hatomExpr : Symbol.orTest.Contains .atomExpr := hterm.trans (.step rfl (.step rfl .refl))
  cases t <;> simp only [operator?, reduceCtorEq] at hstep
  case andWord =>
    cases hstep
    exact fun x hx => h.extend_binary (.step rfl .refl) (.head _) hx
  case orWord =>
    cases hstep
    intro x hx
    have hx : Symbol.andTest.Derives x := .of_operand rfl hx
    exact h.extend_binary .refl (.head _) hx
  case compare =>
    cases hstep
    intro x hx
    have hcomparison : Symbol.orTest.Contains .comparison :=
      Symbol.orTest_contains_notTest.trans (.step rfl .refl)
    exact h.extend_binary hcomparison (.head _) (Symbol.arith_contains_factor.derives hx)
  case plus | minus =>
    cases hstep
    intro x hx
    have hx : Symbol.term.Derives x := .of_operand rfl hx
    exact h.extend_binary harith (by simp [Symbol.tails]) hx
  case star | slash | floorDiv | percent =>
    cases hstep
    exact fun x hx => h.extend_binary hterm (by simp [Symbol.tails]) hx
  case dot =>
    cases hstep
    have hname := h.extend_tail hatomExpr (.head _) (.seq .token .token)
    rwa [← List.append_assoc] at hname
  case openParen =>
    cases hstep
    refine ⟨.call, c.brackets, .argument, rfl, rfl, within_of_forall (fun w hw => ?_) .none⟩
    exact h.extend_tail hatomExpr (by simp [Symbol.tails, Bracket.phrase]) hw
  case openBracket =>
    cases hstep
    intro x hx
    rw [List.append_assoc]
    refine within_of_forall (fun w hw => ?_) (Symbol.test_contains_notTest.derives hx)
    exact h.extend_tail hatomExpr (by simp [Symbol.tails, Bracket.phrase]) hw
  case equals =>
    split at hstep
    · next hplace =>
      cases hstep
      intro x hx
      rw [List.append_assoc]
      exact hkeyword hplace x hx
    · cases hstep
  case ifWord =>
    split at hstep
    · cases hstep
    · next hhead =>
      cases hstep
      intro x hx
      rw [List.append_assoc]
      refine within_of_forall (fun w hw => ?_) (Symbol.orTest_contains_notTest.derives hx)
      refine h.extend ?_
      have hlevel : level c.brackets = .test := by
        unfold level
        split
        · next hbrackets => simp [hbrackets] at hhead
        · rfl
      rw [hlevel]
      exact .tail (.head _) hw
  case elseWord =>
    split at hstep
    · next hbrackets =>
      cases hstep
      rw [hbrackets] at h
      intro x hx
      rw [List.append_assoc]
      refine Within.finish h fun y hy => ?_
      exact .seq (.seq .token hy) (.seq .token (Symbol.test_contains_notTest.derives hx))
    · cases hstep
  case comma =>
    split at hstep <;> cases hstep
    all_goals next hbrackets =>
      rw [hbrackets] at h ⊢
      exact reads_of_comma rfl h
  case closeParen | closeBracket =>
    split at hstep <;> cases hstep
    all_goals next hbrackets =>
      rw [hbrackets] at h
      exact operand_of_closed (by decide) h

theorem reads_next (h : c.Reads p) (hstep : c.next? t = some c') : c'.Reads (p ++ [t]) := by
  obtain ⟨place, brackets⟩ := c
  cases place
  case first | test | factor => exact h.operand (by simp) hstep
  case operator => exact reads_of_operator h nofun hstep
  case keyword => exact reads_of_operator h.1 (fun _ => h.2) hstep
  -- Left is the place behind a dot.
  simp only [next?] at hstep
  split at hstep
  · next ht =>
    cases hstep
    rw [ht]
    exact h
  · cases hstep

end Cursor

/-! ### Blocks -/

/-- The items of a block or a rule in their braces. -/
def body : Phrase := token .openBrace ++ symbol .items ++ token .closeBrace

/-- How many rules are open. -/
def Scope.depth : Scope → Nat
  | .block _ _ => 0
  | .rule _ _ outer => outer.depth + 1

@[simp] theorem Scope.depth_add (item : Item) (s : Scope) : (s.add item).depth = s.depth := by
  cases s <;> rfl

/-- Terminals that end with a block or, inside of some bodies, with an item. -/
def Nested : Nat → List Terminal → Prop
  | 0 => Symbol.start.Derives
  | n + 1 => Within .openBrace (commas (symbol .item)) body (Nested n)

/-- Terminals that the body of a block may follow. -/
def Headed (p : List Terminal) : Prop := ∀ w, body.Derives w → Symbol.start.Derives (p ++ w)

/-- The end of a signature, behind the type of the theme. -/
def signatureEnd : Phrase := token .closeParen ++ (token .arrow ++ token .name)

/-- Terminals that the rest of a signature may follow, and then the body of a block. -/
def HeadedWith (rest : Phrase) (p : List Terminal) : Prop :=
  ∀ w, rest.Derives w → Headed (p ++ w)

/-- The terminals that a reader can stand behind, told by what may follow. -/
def Reader.Reads (r : Reader) (p : List Terminal) : Prop :=
  match r.stage with
  | .outside => r.done = [] ∧ p = [] ∨ Nested 0 p
  | .themeVar =>
    HeadedWith (token .name ++ (token .colon ++ (symbol .dottedName ++ signatureEnd))) p
  | .themeColon _ => HeadedWith (token .colon ++ (symbol .dottedName ++ signatureEnd)) p
  | .themeType _ _ => HeadedWith (symbol .dottedName ++ signatureEnd) p
  | .themeDot _ _ => HeadedWith (many (token .dot ++ token .name) ++ signatureEnd) p
  | .arrow _ _ => HeadedWith (token .arrow ++ token .name) p
  | .resultType _ _ => HeadedWith (token .name) p
  | .body _ => Headed p
  | .item s => Within .openBrace (started (symbol .item)) body (Nested s.depth) p
  | .head _ s => ∀ w, (token .colon ++ symbol .expr ||| body).Derives w →
      Nested (s.depth + 1) (p ++ w)
  | .separator s => Nested (s.depth + 1) p
  | .value _ _ c s => ∃ q x, p = q ++ x ∧ c.Reads x ∧
      ∀ y, Symbol.test.Derives y → Nested (s.depth + 1) (q ++ y)

section Reader
variable {r r' : Reader} {p x : List Terminal} {gap : List Char} {t : Token}

theorem body_of_listed (hx : (optional (listed (symbol .item))).Derives x) :
    body.Derives (.openBrace :: (x ++ [.closeBrace])) := by
  have hitems : Symbol.items.Derives x := .symbol hx
  exact .seq (.seq .token hitems) .token

theorem Nested.close {n : Nat} (h : Nested (n + 1) p) : Nested n (p ++ [.closeBrace]) :=
  Within.finish h fun _ hx => body_of_listed (.some (listed_of_commas hx))

theorem reads_close {done : List Block} {s : Scope} (h : Nested s.depth p) :
    (Reader.close done s).Reads p := by
  cases s with
  | block signature items => exact .inr h
  | rule head items outer =>
    show Nested (_ + 1) p
    rwa [Scope.depth_add]

theorem reads_comma {done : List Block} {s : Scope} (h : Nested (s.depth + 1) p) :
    Reader.Reads ⟨done, .item s⟩ (p ++ [.comma]) :=
  Within.grow h fun _ => started_of_commas

/-- Another block may follow wherever one may start. -/
theorem start_of_outside {done : List Block} (h : Reader.Reads ⟨done, .outside⟩ p)
    (hx : Symbol.style.Derives x) : Symbol.start.Derives (p ++ x) := by
  rcases h with ⟨-, rfl⟩ | h
  · have hall := Phrase.Derives.seq hx (Phrase.derives_many_nil (p := symbol .style))
    rw [List.append_nil] at hall
    exact .symbol hall
  · cases h with
    | symbol h =>
      cases h with
      | seq hu hmore =>
        rw [List.append_assoc]
        exact .symbol (.seq hu (hmore.many_concat hx))

theorem item_of_header {a : Terminal} (ha : a = .name ∨ a = .string) {y : List Terminal}
    (hy : (token .colon ++ symbol .expr ||| body).Derives y) : Symbol.item.Derives (a :: y) := by
  have hhead : (token .name ||| token .string).Derives [a] := by
    rcases ha with rfl | rfl
    · exact .left .token
    · exact .right .token
  cases hy with
  | left h =>
    have hproperty : Symbol.property.Derives [a] := .symbol hhead
    have hentry : Symbol.entry.Derives (a :: y) := .symbol (.seq hproperty h)
    exact .symbol (.right hentry)
  | right h =>
    have hheader : Symbol.header.Derives [a] := .symbol hhead
    have hrule : Symbol.rule.Derives (a :: y) := .symbol (.seq hheader h)
    exact .symbol (.left hrule)

theorem reads_value_step {done : List Block} {property : Token} {pieces : List (List Char)}
    {c : Cursor} {s : Scope} (h : Reader.Reads ⟨done, .value property pieces c s⟩ p)
    (hstep : Reader.step ⟨done, .value property pieces c s⟩ gap t = some r') :
    r'.Reads (p ++ [t.terminal]) := by
  obtain ⟨q, x, rfl, hx, hall⟩ := h
  rcases step_value_cases hstep with ⟨c', hnext, rfl⟩ | ⟨-, hcomplete, hend⟩
  · exact ⟨q, x ++ [t.terminal], by simp, Cursor.reads_next hx hnext, hall⟩
  · have htest : Symbol.test.Derives x := by
      obtain ⟨place, brackets⟩ := c
      simp only [Cursor.isComplete, Bool.and_eq_true, beq_iff_eq, List.isEmpty_iff] at hcomplete
      obtain ⟨rfl, rfl⟩ := hcomplete
      exact hx
    have hitem := hall x htest
    rcases hend with ⟨ht, rfl⟩ | ⟨ht, rfl⟩
    · rw [ht]
      apply reads_comma
      rwa [Scope.depth_add]
    · rw [ht]
      apply reads_close
      rw [Scope.depth_add]
      exact hitem.close

theorem headed_token {a : Terminal} {rest : Phrase}
    (h : HeadedWith (token a ++ rest) p) : HeadedWith rest (p ++ [a]) := by
  intro w hw
  rw [List.append_assoc]
  exact h _ (.seq .token hw)

/-- Behind a name of the theme's type a dot and another name, or the rest of the signature. -/
theorem headed_name (h : HeadedWith (symbol .dottedName ++ signatureEnd) p) :
    HeadedWith (many (token .dot ++ token .name) ++ signatureEnd) (p ++ [.name]) := by
  intro w hw
  cases hw with
  | seq hnames hresult =>
    have hdotted : Symbol.dottedName.Derives _ :=
      .symbol (.seq (@Phrase.Derives.token .name) hnames)
    simpa using h _ (.seq hdotted hresult)

theorem headed_dot (h : HeadedWith (many (token .dot ++ token .name) ++ signatureEnd) p) :
    HeadedWith (symbol .dottedName ++ signatureEnd) (p ++ [.dot]) := by
  intro w hw
  cases hw with
  | seq hdotted hresult =>
    cases hdotted with
    | symbol hdotted =>
      cases hdotted with
      | @seq _ _ n _ hname hmore =>
        cases hmore with
        | @many _ ws hws =>
          have hall : ∀ u ∈ (.dot :: n) :: ws, (token .dot ++ token .name).Derives u :=
            List.forall_mem_cons.2 ⟨.seq .token hname, hws⟩
          simpa using h _ (.seq (.many hall) hresult)

theorem reads_step (h : r.Reads p) (hstep : r.step gap t = some r') :
    r'.Reads (p ++ [t.terminal]) := by
  obtain ⟨done, stage⟩ := r
  obtain ⟨terminal, text, location⟩ := t
  by_cases hv : ∃ property pieces c s, stage = .value property pieces c s
  · obtain ⟨property, pieces, c, s, rfl⟩ := hv
    exact reads_value_step h hstep
  -- The cases are the branches of a step, in their order.
  simp only [Reader.step] at hstep
  split at hstep
  case h_18 => exact absurd ⟨_, _, _, _, rfl⟩ hv
  all_goals cases hstep
  case h_1 =>
    have hall : Headed p := fun w hw => start_of_outside h (.symbol (.seq .none hw))
    exact within_of_forall hall .none
  case h_2 =>
    intro w hw b hb
    have hsignature : Symbol.signature.Derives (.openParen :: w) := .symbol (.seq .token hw)
    have hstyle : Symbol.style.Derives (.openParen :: w ++ b) :=
      .symbol (.seq (.some hsignature) hb)
    simpa using start_of_outside h hstyle
  case h_3 | h_4 | h_8 => exact headed_token h
  case h_5 => exact headed_name h
  case h_6 => exact headed_dot h
  case h_7 =>
    refine headed_token fun w hw => ?_
    exact h _ (.seq Phrase.derives_many_nil hw)
  case h_9 => exact h _ .token
  case h_10 => exact within_of_forall h .none
  case h_11 | h_12 =>
    intro w hw
    rw [List.append_assoc]
    exact Within.grow h fun x hx => commas_of_started hx (item_of_header (by simp) hw)
  case h_13 =>
    exact reads_close (Within.finish h fun x hx => body_of_listed (listed_of_started hx))
  case h_14 =>
    refine ⟨p ++ [.colon], [], by simp, Cursor.reads_start, fun y hy => ?_⟩
    rw [List.append_assoc]
    exact h _ (.left (.seq .token (.symbol hy)))
  case h_15 => exact within_of_forall (fun w hw => h w (.right hw)) .none
  case h_16 => exact reads_comma h
  case h_17 => exact reads_close (Nested.close h)

/-- Where the source may end all that was read is derivable. -/
theorem Reader.Reads.derives (h : r.Reads p) (hr : r.isFinished) : Symbol.start.Derives p := by
  obtain ⟨done, stage⟩ := r
  obtain rfl : stage = .outside := Reader.stage_of_isFinished hr
  rcases h with ⟨rfl, -⟩ | h
  · cases hr
  · exact h

theorem Nested.completes {n : Nat} (h : Nested n p) : ∃ y, Symbol.start.Derives (p ++ y) := by
  induction n generalizing p with
  | zero => exact ⟨[], by rwa [List.append_nil]⟩
  | succ n ih =>
    obtain ⟨y, hy⟩ := ih h.close
    exact ⟨.closeBrace :: y, by simpa using hy⟩

/-- Where the word not is looked for it may stand, with a name behind it. -/
theorem exists_notWord (h : r.Reads p) (hallows : r.stage.allows .notWord) :
    ∃ y, Symbol.start.Derives (p ++ .notWord :: y) := by
  obtain ⟨done, stage⟩ := r
  cases stage
  case value property pieces c s =>
    have hplace : c.place = .first ∨ c.place = .test := by
      cases hc : c.place <;> simp [Stage.allows, hc, Place.allows, startsOperand, followsOperand]
        at hallows ⊢
    obtain ⟨q, x, rfl, hx, hall⟩ := h
    have hnot : Symbol.notTest.Derives [.notWord, .name] :=
      .symbol (.left (.seq .token notTest_name))
    obtain ⟨y, hy⟩ := (hx.notTest hplace hnot).completes
    obtain ⟨z, hz⟩ := (hall _ hy).completes
    exact ⟨.name :: (y ++ z), by simpa using hz⟩
  all_goals cases hallows

end Reader
end ScopedCss.Source

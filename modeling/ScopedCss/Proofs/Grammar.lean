import ScopedCss.Source.Terminal

/-! The grammar of style sources, as rules over terminals, and the words that each of its symbols
derives. Every property of derived words is proved by going over the rules once: if it is closed
under all of them, it holds of every word (`Phrase.Derives.holds`). -/
namespace ScopedCss.Source

inductive Symbol where
  | start | style | signature | dottedName | items | item | rule | entry | header | property | expr
  | test | orTest | andTest | notTest | comparison | arith | term | factor | atomExpr | atom
  | exprList | argList | argument

/-- The right side of a rule. -/
inductive Phrase where
  | token (t : Terminal)
  | symbol (s : Symbol)
  | seq (p q : Phrase)
  | either (p q : Phrase)
  | optional (p : Phrase)
  | many (p : Phrase)

namespace Phrase

instance : Append Phrase := ⟨seq⟩

instance : OrOp Phrase := ⟨either⟩

/-- One or more, with a separator between them. -/
def separated (p sep : Phrase) : Phrase := p ++ many (sep ++ p)

def commas (p : Phrase) : Phrase := separated p (token .comma)

/-- One or more, with commas between them and maybe a last one behind them. -/
def listed (p : Phrase) : Phrase := commas p ++ optional (token .comma)

end Phrase

open Phrase (token symbol optional many separated listed)

def grammar : Symbol → Phrase
  | .start => symbol .style ++ many (symbol .style)
  | .style =>
    optional (symbol .signature) ++ (token .openBrace ++ symbol .items ++ token .closeBrace)
  | .signature => token .openParen ++ (token .name ++ (token .colon ++ (symbol .dottedName ++
      (token .closeParen ++ (token .arrow ++ token .name)))))
  | .dottedName => separated (token .name) (token .dot)
  | .items => optional (listed (symbol .item))
  | .item => symbol .rule ||| symbol .entry
  | .rule => symbol .header ++ (token .openBrace ++ symbol .items ++ token .closeBrace)
  | .entry => symbol .property ++ (token .colon ++ symbol .expr)
  | .header | .property => token .name ||| token .string
  | .expr => symbol .test
  | .test => symbol .orTest ++ optional (token .ifWord ++ symbol .orTest ++
      (token .elseWord ++ symbol .test))
  | .orTest => separated (symbol .andTest) (token .orWord)
  | .andTest => separated (symbol .notTest) (token .andWord)
  | .notTest => token .notWord ++ symbol .notTest ||| symbol .comparison
  | .comparison => separated (symbol .arith) (token .compare)
  | .arith => symbol .term ||| symbol .arith ++ (token .plus ++ symbol .term)
      ||| symbol .arith ++ (token .minus ++ symbol .term)
  | .term => symbol .factor ||| symbol .term ++ (token .star ++ symbol .factor)
      ||| symbol .term ++ (token .slash ++ symbol .factor)
      ||| symbol .term ++ (token .floorDiv ++ symbol .factor)
      ||| symbol .term ++ (token .percent ++ symbol .factor)
  | .factor => token .minus ++ symbol .factor ||| token .plus ++ symbol .factor
      ||| symbol .atomExpr
  | .atomExpr => symbol .atomExpr ++ (token .dot ++ token .name)
      ||| symbol .atomExpr ++ (token .openBracket ++ symbol .test ++ token .closeBracket)
      ||| symbol .atomExpr ++ (token .openParen ++ optional (symbol .argList) ++ token .closeParen)
      ||| symbol .atom
  | .atom => token .name ||| token .number ||| token .string ||| token .fstring
      ||| token .openParen ++ optional (symbol .exprList) ++ token .closeParen
      ||| token .openBracket ++ optional (symbol .exprList) ++ token .closeBracket
  | .exprList => listed (symbol .test)
  | .argList => listed (symbol .argument)
  | .argument => symbol .test ||| token .name ++ (token .equals ++ symbol .test)

namespace Phrase

/-- The words of a phrase. -/
inductive Derives : Phrase → List Terminal → Prop
  | token {t : Terminal} : Derives (.token t) [t]
  | symbol {s : Symbol} {w : List Terminal} : Derives (grammar s) w → Derives (.symbol s) w
  | seq {p q : Phrase} {u v : List Terminal} :
    Derives p u → Derives q v → Derives (p ++ q) (u ++ v)
  | left {p q : Phrase} {w : List Terminal} : Derives p w → Derives (p ||| q) w
  | right {p q : Phrase} {w : List Terminal} : Derives q w → Derives (p ||| q) w
  | none {p : Phrase} : Derives (.optional p) []
  | some {p : Phrase} {w : List Terminal} : Derives p w → Derives (.optional p) w
  | many {p : Phrase} {ws : List (List Terminal)} :
    (∀ u ∈ ws, Derives p u) → Derives (.many p) ws.flatten

/-- The words of a phrase, given those of the symbols in it. -/
def Holds (I : Symbol → List Terminal → Prop) : Phrase → List Terminal → Prop
  | .token t, w => w = [t]
  | .symbol s, w => I s w
  | .seq p q, w => ∃ u v, w = u ++ v ∧ p.Holds I u ∧ q.Holds I v
  | .either p q, w => p.Holds I w ∨ q.Holds I w
  | .optional p, w => w = [] ∨ p.Holds I w
  | .many p, w => ∃ ws : List (List Terminal), w = ws.flatten ∧ ∀ u ∈ ws, p.Holds I u

section Holds
variable {I J : Symbol → List Terminal → Prop} {p q : Phrase} {w : List Terminal}

@[simp] theorem holds_token {t : Terminal} : (token t).Holds I w ↔ w = [t] := .rfl

@[simp] theorem holds_symbol {s : Symbol} : (symbol s).Holds I w ↔ I s w := .rfl

@[simp] theorem holds_append :
    (p ++ q).Holds I w ↔ ∃ u v, w = u ++ v ∧ p.Holds I u ∧ q.Holds I v := .rfl

@[simp] theorem holds_or : (p ||| q).Holds I w ↔ p.Holds I w ∨ q.Holds I w := .rfl

@[simp] theorem holds_optional : (optional p).Holds I w ↔ w = [] ∨ p.Holds I w := .rfl

theorem Derives.holds (hclosed : ∀ s w, (grammar s).Holds I w → I s w) (h : p.Derives w) :
    p.Holds I w := by
  induction h with
  | token => exact rfl
  | symbol _ ih => exact hclosed _ _ ih
  | seq _ _ ihp ihq => exact ⟨_, _, rfl, ihp, ihq⟩
  | left _ ih => exact .inl ih
  | right _ ih => exact .inr ih
  | none => exact .inl rfl
  | some _ ih => exact .inr ih
  | many _ ih => exact ⟨_, rfl, ih⟩

theorem Holds.mono (h : ∀ s w, I s w → J s w) (hp : p.Holds I w) : p.Holds J w := by
  induction p generalizing w with
  | token t => exact hp
  | symbol s => exact h s w hp
  | seq p q ihp ihq =>
    obtain ⟨u, v, rfl, hu, hv⟩ := hp
    exact ⟨u, v, rfl, ihp hu, ihq hv⟩
  | either p q ihp ihq => exact hp.imp ihp ihq
  | optional p ih => exact hp.imp id ih
  | many p ih =>
    obtain ⟨ws, rfl, hws⟩ := hp
    exact ⟨ws, rfl, fun u hu => ih (hws u hu)⟩

theorem Holds.derives (hp : p.Holds (fun s => (symbol s).Derives) w) : p.Derives w := by
  induction p generalizing w with
  | token t =>
    cases hp
    exact .token
  | symbol s => exact hp
  | seq p q ihp ihq =>
    obtain ⟨u, v, rfl, hu, hv⟩ := hp
    exact .seq (ihp hu) (ihq hv)
  | either p q ihp ihq => exact hp.elim (fun h => .left (ihp h)) fun h => .right (ihq h)
  | optional p ih =>
    obtain rfl | h := hp
    · exact .none
    · exact .some (ih h)
  | many p ih =>
    obtain ⟨ws, rfl, hws⟩ := hp
    exact .many fun u hu => ih (hws u hu)

end Holds

/-! ### Separated lists -/

section Separated
variable {p sep : Phrase} {u v w : List Terminal}

theorem derives_many_nil : (many p).Derives [] := @Derives.many p [] (List.forall_mem_nil _)

theorem Derives.many_concat (hu : (Phrase.many p).Derives u) (hv : p.Derives v) :
    (Phrase.many p).Derives (u ++ v) := by
  cases hu with
  | @many _ ws hws =>
    have hall : ∀ g ∈ ws ++ [v], p.Derives g := by
      intro g hg
      rcases List.mem_append.1 hg with hg | hg
      · exact hws g hg
      · rwa [List.mem_singleton.1 hg]
    have hmany := Derives.many hall
    rwa [List.flatten_concat] at hmany

theorem Derives.separated_one (h : p.Derives w) : (separated p sep).Derives w := by
  have hall := Derives.seq h (derives_many_nil (p := sep ++ p))
  rwa [List.append_nil] at hall

theorem Derives.separated_concat (hu : (separated p sep).Derives u) (hv : sep.Derives v)
    (hw : p.Derives w) : (separated p sep).Derives (u ++ (v ++ w)) := by
  cases hu with
  | seq ha hmore =>
    rw [List.append_assoc]
    exact .seq ha (hmore.many_concat (.seq hv hw))

/-- The last element of a list can be exchanged for any other word of its phrase. -/
theorem Holds.separated_last {I : Symbol → List Terminal → Prop}
    (himp : ∀ s w, I s w → (symbol s).Derives w) (h : (separated p sep).Holds I w) :
    ∃ u v, w = u ++ v ∧ p.Holds I v ∧
      ∀ v', p.Derives v' → (separated p sep).Derives (u ++ v') := by
  obtain ⟨a, _, rfl, ha, ws, rfl, hws⟩ := h
  rcases List.eq_nil_or_concat ws with rfl | ⟨front, g, rfl⟩
  · exact ⟨[], a, List.append_nil a, ha, fun v' hv' => hv'.separated_one⟩
  · obtain ⟨x, v, rfl, hx, hv⟩ := hws g (by simp)
    have hfront : (separated p sep).Derives (a ++ front.flatten) :=
      .seq (ha.mono himp).derives
        (.many fun u hu => ((hws u (by simp [hu])).mono himp).derives)
    refine ⟨a ++ front.flatten ++ x, v, by simp, hv, fun v' hv' => ?_⟩
    rw [List.append_assoc]
    exact hfront.separated_concat (hx.mono himp).derives hv'

end Separated
end Phrase

/-- The words of a symbol. -/
def Symbol.Derives (s : Symbol) (w : List Terminal) : Prop := (symbol s).Derives w

theorem Symbol.derives_of_holds {s : Symbol} {w : List Terminal}
    (h : (grammar s).Holds Symbol.Derives w) : s.Derives w := .symbol h.derives

/-! ### Longer expressions -/

/-- The symbol whose words a symbol of expressions has among its own. -/
def Symbol.operand : Symbol → Option Symbol
  | .argument => some .test
  | .test => some .orTest
  | .orTest => some .andTest
  | .andTest => some .notTest
  | .notTest => some .comparison
  | .comparison => some .arith
  | .arith => some .term
  | .term => some .factor
  | .factor => some .atomExpr
  | .atomExpr => some .atom
  | _ => none

/-- What makes a word of a symbol a longer one. -/
def Symbol.tails : Symbol → List Phrase
  | .test => [token .ifWord ++ symbol .orTest ++ (token .elseWord ++ symbol .test)]
  | .orTest => [token .orWord ++ symbol .andTest]
  | .andTest => [token .andWord ++ symbol .notTest]
  | .comparison => [token .compare ++ symbol .arith]
  | .arith => [token .plus ++ symbol .term, token .minus ++ symbol .term]
  | .term => [token .star ++ symbol .factor, token .slash ++ symbol .factor,
      token .floorDiv ++ symbol .factor, token .percent ++ symbol .factor]
  | .atomExpr => [token .dot ++ token .name,
      token .openBracket ++ symbol .test ++ token .closeBracket,
      token .openParen ++ optional (symbol .argList) ++ token .closeParen]
  | _ => []

/-- A word of a symbol can go on with these terminals, in its last operand or behind it. -/
inductive Symbol.Extends : Symbol → List Terminal → Prop
  | tail {s : Symbol} {p : Phrase} {x : List Terminal} :
    p ∈ s.tails → p.Derives x → Extends s x
  | operand {s s' : Symbol} {x : List Terminal} :
    s.operand = some s' → Extends s' x → Extends s x

namespace Symbol

variable {s t : Symbol} {w x y : List Terminal}

theorem Derives.of_operand (hs : s.operand = some t) (h : t.Derives w) : s.Derives w := by
  cases s <;> cases hs
  case orTest | andTest | comparison => exact .symbol h.separated_one
  case test => exact derives_of_holds ⟨w, [], (List.append_nil w).symm, h, .inl rfl⟩
  all_goals
    apply derives_of_holds
    simp [grammar, h]

/-- A word that is still one of its symbol with any tail behind it. -/
def Extensible (s : Symbol) (w : List Terminal) : Prop :=
  s.Derives w ∧ ∀ x, s.Extends x → s.Derives (w ++ x)

theorem derives_of_holds_extensible (h : (grammar s).Holds Extensible w) : s.Derives w :=
  derives_of_holds (h.mono fun _ _ hw => hw.1)

theorem Extends.cases (hx : s.Extends x) :
    (∃ p ∈ s.tails, p.Derives x) ∨ ∃ t, s.operand = some t ∧ t.Extends x := by
  cases hx with
  | tail hp h => exact .inl ⟨_, hp, h⟩
  | operand hs h => exact .inr ⟨_, hs, h⟩

theorem Extends.of_tails_nil (hs : s.operand = some t) (htails : s.tails = [])
    (hx : s.Extends x) : t.Extends x := by
  rcases hx.cases with ⟨p, hp, -⟩ | ⟨t', ht', hx'⟩
  · rw [htails] at hp
    cases hp
  · rwa [Option.some.inj (hs.symm.trans ht')]

theorem not_extends_atom : ¬ Symbol.atom.Extends x := by
  intro hx
  rcases hx.cases with ⟨p, hp, -⟩ | ⟨t, ht, -⟩
  · cases hp
  · cases ht

/-- Behind a separated list stands another element or the tail of its last one. -/
theorem extend_separated {sep : Terminal} (hrule : grammar s = separated (symbol t) (token sep))
    (hs : s.operand = some t) (htails : s.tails = [token sep ++ symbol t])
    (h : (grammar s).Holds Extensible w) (hx : s.Extends x) : s.Derives (w ++ x) := by
  rw [hrule] at h
  refine .symbol ?_
  rw [hrule]
  rcases hx.cases with ⟨p, hp, hpx⟩ | ⟨t', ht', hx'⟩
  · rw [htails, List.mem_singleton] at hp
    subst hp
    cases hpx with
    | seq hu hv => exact (h.mono fun _ _ hw => hw.1).derives.separated_concat hu hv
  · obtain rfl : t = t' := Option.some.inj (hs.symm.trans ht')
    obtain ⟨u, v, rfl, hv, hlast⟩ := h.separated_last fun _ _ hw => hw.1
    rw [List.append_assoc]
    exact hlast _ (hv.2 x hx')

/-- The same where the rule names its own symbol on the left. -/
theorem extend_left (ops : List Terminal) (hs : s.operand = some t)
    (htails : s.tails = ops.map fun op => token op ++ symbol t)
    (hrule : ∀ I w, (grammar s).Holds I w ↔
      I t w ∨ ∃ p ∈ s.tails, (symbol s ++ p).Holds I w)
    (h : (grammar s).Holds Extensible w) (hx : s.Extends x) : s.Derives (w ++ x) := by
  have hderives := derives_of_holds_extensible h
  rcases hx.cases with ⟨p, hp, hpx⟩ | ⟨t', ht', hx'⟩
  · refine derives_of_holds ((hrule _ _).2 (.inr ⟨p, hp, w, x, rfl, hderives, ?_⟩))
    exact hpx.holds fun _ _ => derives_of_holds
  · obtain rfl : t = t' := Option.some.inj (hs.symm.trans ht')
    refine derives_of_holds ((hrule _ _).2 ?_)
    rcases (hrule _ _).1 h with ht | ⟨p, hp, u, v, rfl, hu, hv⟩
    · exact .inl (ht.2 x hx')
    · obtain ⟨op, -, rfl⟩ := List.mem_map.1 (htails ▸ hp)
      obtain ⟨o, y, rfl, ho, hy⟩ := hv
      exact .inr ⟨_, hp, u, o ++ (y ++ x), by simp, hu.1, o, y ++ x, rfl, ho, hy.2 x hx'⟩

theorem extensible_of_holds (h : (grammar s).Holds Extensible w) : Extensible s w := by
  have hderives := derives_of_holds_extensible h
  refine ⟨hderives, fun x hx => ?_⟩
  cases s
  case orTest | andTest | comparison => exact extend_separated rfl rfl rfl h hx
  case arith =>
    refine extend_left [.plus, .minus] rfl rfl (fun I w => ?_) h hx
    simp [grammar, tails, or_assoc]
  case term =>
    refine extend_left [.star, .slash, .floorDiv, .percent] rfl rfl (fun I w => ?_) h hx
    simp [grammar, tails, or_assoc]
  case atomExpr =>
    rcases hx.cases with ⟨p, hp, hpx⟩ | ⟨t, ht, hx'⟩
    · have hx : p.Holds Symbol.Derives x := hpx.holds fun _ _ => derives_of_holds
      refine derives_of_holds ?_
      rcases List.mem_cons.1 hp with rfl | hp
      · exact .inl (.inl (.inl ⟨w, x, rfl, hderives, hx⟩))
      rcases List.mem_cons.1 hp with rfl | hp
      · exact .inl (.inl (.inr ⟨w, x, rfl, hderives, hx⟩))
      rw [List.mem_singleton.1 hp] at hx
      exact .inl (.inr ⟨w, x, rfl, hderives, hx⟩)
    · cases ht
      exact absurd hx' not_extends_atom
  case factor =>
    rcases h with (⟨o, v, rfl, ho, hv⟩ | ⟨o, v, rfl, ho, hv⟩) | hatom
    · rw [List.append_assoc]
      exact derives_of_holds (.inl (.inl ⟨o, v ++ x, rfl, ho, hv.2 x hx⟩))
    · rw [List.append_assoc]
      exact derives_of_holds (.inl (.inr ⟨o, v ++ x, rfl, ho, hv.2 x hx⟩))
    · exact .of_operand rfl (hatom.2 x (hx.of_tails_nil rfl rfl))
  case notTest =>
    rcases h with ⟨o, v, rfl, ho, hv⟩ | hcomparison
    · rw [List.append_assoc]
      exact derives_of_holds (.inl ⟨o, v ++ x, rfl, ho, hv.2 x hx⟩)
    · exact .of_operand rfl (hcomparison.2 x (hx.of_tails_nil rfl rfl))
  case argument =>
    have hx' := hx.of_tails_nil rfl rfl
    rcases h with htest | ⟨n, _, rfl, hn, e, v, rfl, he, hv⟩
    · exact .of_operand rfl (htest.2 x hx')
    · rw [List.append_assoc, List.append_assoc]
      exact derives_of_holds (.inr ⟨n, _, rfl, hn, e, v ++ x, rfl, he, hv.2 x hx'⟩)
  case test =>
    obtain ⟨a, b, rfl, ha, hb⟩ := h
    rcases hb with rfl | ⟨c, _, rfl, ⟨i, v, rfl, hi, hv⟩, e, d, rfl, he, hd⟩
    · rw [List.append_nil] at hderives ⊢
      rcases hx.cases with ⟨p, hp, hpx⟩ | ⟨t, ht, hx'⟩
      · rw [List.mem_singleton.1 hp] at hpx
        exact derives_of_holds
          ⟨a, x, rfl, ha.1, .inr (hpx.holds fun _ _ => derives_of_holds)⟩
      · cases ht
        exact .of_operand rfl (ha.2 x hx')
    · -- The last operand is the one behind else, and that is a test again.
      refine derives_of_holds ⟨a, i ++ v ++ (e ++ (d ++ x)), by simp, ha.1, .inr ?_⟩
      exact ⟨i ++ v, _, rfl, ⟨i, v, rfl, hi, hv.1⟩, e, d ++ x, rfl, he, hd.2 x hx⟩
  all_goals
    rcases hx.cases with ⟨p, hp, -⟩ | ⟨t, ht, -⟩
    · cases hp
    · cases ht

/-- A word of a symbol with a tail behind it is a word of the symbol. -/
theorem Derives.extend (h : s.Derives w) (hx : s.Extends x) : s.Derives (w ++ x) := by
  have hall : (symbol s).Holds Extensible w :=
    Phrase.Derives.holds (fun _ _ => extensible_of_holds) h
  exact hall.2 x hx

theorem Derives.extend_separated {sep : Phrase} (h : (separated (symbol s) sep).Derives w)
    (hx : s.Extends x) : (separated (symbol s) sep).Derives (w ++ x) := by
  have hw : (separated (symbol s) sep).Holds Symbol.Derives w :=
    h.holds fun _ _ => derives_of_holds
  obtain ⟨u, v, rfl, hv, hlast⟩ := hw.separated_last fun _ _ h => h
  rw [List.append_assoc]
  exact hlast _ (Derives.extend hv hx)

/-- The words of the second symbol are words of the first, operand by operand. -/
inductive Contains : Symbol → Symbol → Prop
  | refl {s : Symbol} : Contains s s
  | step {s t u : Symbol} : s.operand = some t → Contains t u → Contains s u

theorem Contains.derives (hs : s.Contains t) (h : t.Derives w) : s.Derives w := by
  induction hs with
  | refl => exact h
  | step hop _ ih => exact .of_operand hop (ih h)

theorem Contains.extends (hs : s.Contains t) (hx : t.Extends x) : s.Extends x := by
  induction hs with
  | refl => exact hx
  | step hop _ ih => exact .operand hop (ih hx)

theorem factor_contains_atom : Contains .factor .atom := .step rfl (.step rfl .refl)

theorem derives_atom (t : Terminal) (ht : t ∈ [.name, .number, .string, .fstring]) :
    Symbol.atom.Derives [t] := by
  apply derives_of_holds
  simp at ht
  simp [grammar, ht, or_assoc]

theorem arith_contains_factor : Contains .arith .factor := .step rfl (.step rfl .refl)

theorem notTest_contains_arith : Contains .notTest .arith := .step rfl (.step rfl .refl)

theorem orTest_contains_notTest : Contains .orTest .notTest := .step rfl (.step rfl .refl)

theorem test_contains_orTest : Contains .test .orTest := .step rfl .refl

theorem Contains.trans {u : Symbol} (hst : s.Contains t) (htu : t.Contains u) : s.Contains u := by
  induction hst with
  | refl => exact htu
  | step hop _ ih => exact .step hop (ih htu)

theorem test_contains_notTest : Contains .test .notTest :=
  test_contains_orTest.trans orTest_contains_notTest

theorem notTest_contains_factor : Contains .notTest .factor :=
  notTest_contains_arith.trans arith_contains_factor

theorem orTest_contains_arith : Contains .orTest .arith :=
  orTest_contains_notTest.trans notTest_contains_arith

end Symbol
end ScopedCss.Source

import ScopedCss.Proofs.ViablePrefixes

/-! What the grammar derives the reader takes. For every symbol it is told between which points of
the reading its words lead, whatever the texts of the terminals are, and the rules of the grammar
are followed one by one. -/
namespace ScopedCss.Source

open Phrase (token symbol optional many separated commas listed)

/-! ### Taking terminals -/

/-- Terminals are allowed and taken one after the other, with any texts, and `Q` holds then. -/
def Takes (Q : Reader → Prop) : List Terminal → Reader → Prop
  | [], r => Q r
  | t :: w, r => r.stage.allows t ∧ ∀ gap text location,
      ∃ r', r.step gap ⟨t, text, location⟩ = some r' ∧ Takes Q w r'

/-- Terminals lead from wherever `P` holds to where `Q` does. -/
def Leads (P : Reader → Prop) (w : List Terminal) (Q : Reader → Prop) : Prop :=
  ∀ r, P r → Takes Q w r

section Leads
variable {P Q R : Reader → Prop} {u v w : List Terminal} {r : Reader}
  {I : Symbol → List Terminal → Prop} {p : Phrase}

theorem takes_append : Takes Q (u ++ v) r ↔ Takes (Takes Q v) u r := by
  induction u generalizing r with
  | nil => rfl
  | cons t u ih => simp only [List.cons_append, Takes, ih]

theorem Takes.next {t : Terminal} {gap text : List Char} {location : Location} {r' : Reader}
    (h : Takes Q (t :: w) r) (hstep : r.step gap ⟨t, text, location⟩ = some r') :
    Takes Q w r' := by
  obtain ⟨r'', hr'', hrest⟩ := h.2 gap text location
  rwa [Option.some.inj (hstep.symm.trans hr'')]

theorem Takes.mono (hQ : ∀ r, Q r → R r) (h : Takes Q w r) : Takes R w r := by
  induction w generalizing r with
  | nil => exact hQ r h
  | cons t w ih =>
    refine ⟨h.1, fun gap text location => ?_⟩
    obtain ⟨r', hstep, hrest⟩ := h.2 gap text location
    exact ⟨r', hstep, ih hrest⟩

theorem leads_nil (h : ∀ r, P r → Q r) : Leads P [] Q := h

theorem Leads.append (hu : Leads P u Q) (hv : Leads Q v R) : Leads P (u ++ v) R :=
  fun r hr => takes_append.2 ((hu r hr).mono hv)

theorem Leads.before (hw : Leads Q w R) (h : ∀ r, P r → Q r) : Leads P w R :=
  fun r hr => hw r (h r hr)

theorem Leads.behind (hw : Leads P w Q) (h : ∀ r, Q r → R r) : Leads P w R :=
  fun r hr => (hw r hr).mono h

theorem leads_optional (h : (optional p).Holds I w) (hnone : ∀ r, P r → Q r)
    (hsome : ∀ w, p.Holds I w → Leads P w Q) : Leads P w Q := by
  rcases h with rfl | h
  · exact leads_nil hnone
  · exact hsome w h

theorem leads_many (h : (many p).Holds I w) (hp : ∀ w, p.Holds I w → Leads P w P) :
    Leads P w P := by
  obtain ⟨ws, rfl, hws⟩ := h
  induction ws with
  | nil => exact leads_nil fun _ => id
  | cons w ws ih =>
    obtain ⟨hw, hws⟩ := List.forall_mem_cons.1 hws
    exact (hp w hw).append (ih hws)

theorem leads_separated {t : Terminal} (h : (separated p (token t)).Holds I w)
    (hp : ∀ w, p.Holds I w → Leads P w Q) (ht : Leads Q [t] P) : Leads P w Q := by
  obtain ⟨a, b, rfl, ha, hb⟩ := h
  refine (hp a ha).append (leads_many hb fun w hw => ?_)
  obtain ⟨_, y, rfl, rfl, hy⟩ := hw
  exact ht.append (hp y hy)

end Leads

/-! ### Points of a value -/

/-- Inside of a value, in a body of the given depth. -/
def AtValue (n : Nat) (C : Cursor → Prop) (r : Reader) : Prop :=
  ∃ property pieces c s, r.stage = .value property pieces c s ∧ s.depth = n ∧ C c

/-- An expression may start, and the word not in front of it. -/
def AtTest (bs : List Bracket) (c : Cursor) : Prop :=
  c.brackets = bs ∧ (c.place = .first ∨ c.place = .test)

def AtOperand (bs : List Bracket) (c : Cursor) : Prop :=
  c.brackets = bs ∧ (c.place = .first ∨ c.place = .test ∨ c.place = .factor)

def BehindOperand (bs : List Bracket) (c : Cursor) : Prop :=
  c.brackets = bs ∧ (c.place = .operator ∨ c.place = .keyword ∧ bs.head? = some .call)

section Cursor
variable {bs : List Bracket} {c : Cursor} {t : Terminal}

theorem AtTest.atOperand (h : AtTest bs c) : AtOperand bs c :=
  ⟨h.1, h.2.imp id .inl⟩

theorem BehindOperand.operator (h : BehindOperand bs c) (hbs : bs.head? ≠ some .call) :
    c = ⟨.operator, bs⟩ := by
  obtain ⟨place, brackets⟩ := c
  obtain ⟨rfl, rfl | ⟨-, hcall⟩⟩ := h
  · rfl
  · exact absurd hcall hbs

/-- The two places behind an operand differ only in front of an equals sign. -/
theorem BehindOperand.next (h : BehindOperand bs c) (ht : followsOperand t) :
    c.place.allows t ∧ c.next? t = Cursor.operator? ⟨.operator, bs⟩ t := by
  obtain ⟨place, brackets⟩ := c
  obtain ⟨rfl, rfl | ⟨rfl, -⟩⟩ := h <;> cases t <;> first | exact ⟨rfl, rfl⟩ | cases ht

theorem AtOperand.next (h : AtOperand bs c) (ht : startsOperand t) (hname : t ≠ .name) :
    c.place.allows t ∧ c.next? t = Cursor.operand? ⟨.factor, bs⟩ t := by
  obtain ⟨place, brackets⟩ := c
  obtain ⟨rfl, rfl | rfl | rfl⟩ := h <;> cases t <;>
    first | exact ⟨rfl, rfl⟩ | exact absurd rfl hname | cases ht

end Cursor

section Value
variable {n : Nat} {bs : List Bracket} {c' : Cursor} {t : Terminal} {C D : Cursor → Prop}

theorem AtValue.imp {r : Reader} (h : ∀ c, C c → D c) (hr : AtValue n C r) : AtValue n D r := by
  obtain ⟨property, pieces, c, s, hstage, hdepth, hc⟩ := hr
  exact ⟨property, pieces, c, s, hstage, hdepth, h c hc⟩

theorem AtValue.atTest {r : Reader} (hr : AtValue n (· = ⟨.test, bs⟩) r) :
    AtValue n (AtTest bs) r := by
  refine hr.imp ?_
  rintro _ rfl
  exact ⟨rfl, .inr rfl⟩

theorem AtValue.atTest_of_first {r : Reader} (hr : AtValue n (· = ⟨.first, bs⟩) r) :
    AtValue n (AtTest bs) r := by
  refine hr.imp ?_
  rintro _ rfl
  exact ⟨rfl, .inl rfl⟩

theorem AtValue.atOperand {r : Reader} (hr : AtValue n (· = ⟨.factor, bs⟩) r) :
    AtValue n (AtOperand bs) r := by
  refine hr.imp ?_
  rintro _ rfl
  exact ⟨rfl, .inr (.inr rfl)⟩

theorem AtValue.behindOperand {r : Reader} (hr : AtValue n (· = ⟨.operator, bs⟩) r) :
    AtValue n (BehindOperand bs) r := by
  refine hr.imp ?_
  rintro _ rfl
  exact ⟨rfl, .inl rfl⟩

theorem leads_value (h : ∀ c, C c → c.place.allows t ∧ ∃ c', c.next? t = some c' ∧ D c') :
    Leads (AtValue n C) [t] (AtValue n D) := by
  rintro ⟨done, stage⟩ ⟨property, pieces, c, s, hstage, hdepth, hc⟩
  cases hstage
  obtain ⟨hallows, c', hnext, hc'⟩ := h c hc
  refine ⟨hallows, fun gap text location => ?_⟩
  refine ⟨⟨done, .value property (Reader.extend pieces gap text) c' s⟩, ?_, ?_⟩
  · simp only [Reader.step, hnext]
  · exact ⟨property, _, c', s, rfl, hdepth, hc'⟩

/-- A terminal behind an operand, whichever of the two places that is. -/
theorem leads_operator (ht : followsOperand t)
    (hstep : Cursor.operator? ⟨.operator, bs⟩ t = some c') :
    Leads (AtValue n (BehindOperand bs)) [t] (AtValue n (· = c')) :=
  leads_value fun _ hc => ⟨(hc.next ht).1, c', (hc.next ht).2.trans hstep, rfl⟩

/-- A terminal that the brackets allow only where no argument can have started. -/
theorem leads_operator_of_ne_call (hbs : bs.head? ≠ some .call) (ht : Place.operator.allows t)
    (hstep : Cursor.operator? ⟨.operator, bs⟩ t = some c') :
    Leads (AtValue n (BehindOperand bs)) [t] (AtValue n (· = c')) :=
  leads_value fun _ hc => by
    rw [hc.operator hbs]
    exact ⟨ht, c', hstep, rfl⟩

theorem leads_operand (ht : startsOperand t) (hname : t ≠ .name)
    (hstep : Cursor.operand? ⟨.factor, bs⟩ t = some c') :
    Leads (AtValue n (AtOperand bs)) [t] (AtValue n (· = c')) :=
  leads_value fun _ hc => ⟨(hc.next ht hname).1, c', (hc.next ht hname).2.trans hstep, rfl⟩

theorem leads_name :
    Leads (AtValue n (AtOperand bs)) [.name] (AtValue n (BehindOperand bs)) := by
  refine leads_value fun c hc => ?_
  obtain ⟨place, brackets⟩ := c
  obtain ⟨rfl, hplace⟩ := hc
  by_cases hcall : place = .first ∧ brackets.head? = some .call
  · refine ⟨by rw [hcall.1]; rfl, ⟨.keyword, brackets⟩, ?_, rfl, .inr ⟨rfl, hcall.2⟩⟩
    rw [hcall.1]
    simp [Cursor.next?, Cursor.operand?, hcall.2]
  · refine ⟨by rcases hplace with rfl | rfl | rfl <;> rfl, ⟨.operator, brackets⟩, ?_, rfl, .inl rfl⟩
    rcases hplace with rfl | rfl | rfl <;> simp_all [Cursor.next?, Cursor.operand?]

theorem leads_notWord :
    Leads (AtValue n (AtTest bs)) [.notWord] (AtValue n (AtTest bs)) := by
  refine leads_value fun c hc => ?_
  obtain ⟨place, brackets⟩ := c
  obtain ⟨rfl, rfl | rfl⟩ := hc <;> exact ⟨rfl, ⟨.test, brackets⟩, rfl, rfl, .inr rfl⟩

/-- A list ends behind an element or behind a comma. -/
theorem leads_close {b : Bracket} {e : Symbol} (he : b.element? = some e) :
    Leads (AtValue n fun c => c = ⟨.first, b :: bs⟩ ∨ BehindOperand (b :: bs) c) [b.closing]
      (AtValue n (BehindOperand bs)) := by
  refine leads_value fun c hc => ?_
  rcases hc with rfl | hc
  · cases b <;> cases he <;> exact ⟨rfl, ⟨.operator, bs⟩, rfl, rfl, .inl rfl⟩
  · cases b with
    | group | call =>
      obtain ⟨hallows, hnext⟩ := hc.next (t := .closeParen) rfl
      exact ⟨hallows, _, hnext, rfl, .inl rfl⟩
    | list =>
      rw [hc.operator (by simp)]
      exact ⟨rfl, ⟨.operator, bs⟩, rfl, rfl, .inl rfl⟩
    | index | condition => cases he

end Value

/-! ### Points of a block -/

def AtOutside (r : Reader) : Prop := r.stage = .outside

/-- Behind a block. -/
def AtEnd (r : Reader) : Prop := r.stage = .outside ∧ r.done ≠ []

def AtThemeType (r : Reader) : Prop := ∃ var path, r.stage = .themeType var path

def AtThemeDot (r : Reader) : Prop := ∃ var path, r.stage = .themeDot var path

def AtBody (r : Reader) : Prop := ∃ signature, r.stage = .body signature

def AtItem (n : Nat) (r : Reader) : Prop := ∃ s, r.stage = .item s ∧ s.depth = n

def AtHead (n : Nat) (r : Reader) : Prop := ∃ head s, r.stage = .head head s ∧ s.depth = n

/-- A rule or a declaration has been read, and a comma or the end of the body comes next. -/
def BehindItem (n : Nat) (r : Reader) : Prop :=
  (∃ s, r.stage = .separator s ∧ s.depth = n) ∨ AtValue n (BehindOperand []) r

/-- Behind a body, in what is around it. -/
def BehindBody : Nat → Reader → Prop
  | 0 => AtEnd
  | n + 1 => BehindItem n

section Block
variable {n : Nat}

theorem behindBody_close (done : List Block) (s : Scope) :
    BehindBody s.depth (Reader.close done s) := by
  cases s with
  | block signature items => exact ⟨rfl, by simp [Reader.close]⟩
  | rule head items outer => exact .inl ⟨_, rfl, Scope.depth_add _ outer⟩

theorem leads_signature {w : List Terminal} (h : Leads AtThemeType w AtThemeDot) :
    Leads AtOutside (.openParen :: .name :: .colon :: (w ++ [.closeParen, .arrow, .name]))
      AtBody := by
  have hfront : Leads AtOutside [.openParen, .name, .colon] AtThemeType := by
    rintro ⟨done, stage⟩ hstage
    cases hstage
    exact ⟨rfl, fun _ _ _ => ⟨_, rfl, rfl, fun _ _ _ => ⟨_, rfl, rfl, fun _ _ _ =>
      ⟨_, rfl, _, _, rfl⟩⟩⟩⟩
  have hback : Leads AtThemeDot [.closeParen, .arrow, .name] AtBody := by
    rintro ⟨done, stage⟩ ⟨var, path, hstage⟩
    cases hstage
    exact ⟨rfl, fun _ _ _ => ⟨_, rfl, rfl, fun _ _ _ => ⟨_, rfl, rfl, fun _ _ _ =>
      ⟨_, rfl, _, rfl⟩⟩⟩⟩
  exact hfront.append (h.append hback)

theorem leads_pathName : Leads AtThemeType [.name] AtThemeDot := by
  rintro ⟨done, stage⟩ ⟨var, path, hstage⟩
  cases hstage
  exact ⟨rfl, fun _ _ _ => ⟨_, rfl, _, _, rfl⟩⟩

theorem leads_pathDot : Leads AtThemeDot [.dot] AtThemeType := by
  rintro ⟨done, stage⟩ ⟨var, path, hstage⟩
  cases hstage
  exact ⟨rfl, fun _ _ _ => ⟨_, rfl, _, _, rfl⟩⟩

theorem leads_openBlock : Leads (fun r => AtOutside r ∨ AtBody r) [.openBrace] (AtItem 0) := by
  rintro ⟨done, stage⟩ (hstage | ⟨signature, hstage⟩) <;> cases hstage <;>
    exact ⟨rfl, fun _ _ _ => ⟨_, rfl, _, rfl, rfl⟩⟩

theorem leads_openRule : Leads (AtHead n) [.openBrace] (AtItem (n + 1)) := by
  rintro ⟨done, stage⟩ ⟨head, s, hstage, rfl⟩
  cases hstage
  exact ⟨rfl, fun _ _ _ => ⟨_, rfl, _, rfl, rfl⟩⟩

theorem leads_colon : Leads (AtHead n) [.colon] (AtValue n (· = Cursor.start)) := by
  rintro ⟨done, stage⟩ ⟨head, s, hstage, rfl⟩
  cases hstage
  exact ⟨rfl, fun _ _ _ => ⟨_, rfl, _, _, _, _, rfl, rfl, rfl⟩⟩

theorem leads_head {t : Terminal} (ht : t = .name ∨ t = .string) :
    Leads (AtItem n) [t] (AtHead n) := by
  rintro ⟨done, stage⟩ ⟨s, hstage, rfl⟩
  cases hstage
  rcases ht with rfl | rfl <;> exact ⟨rfl, fun _ _ _ => ⟨_, rfl, _, _, rfl, rfl⟩⟩

theorem leads_comma : Leads (BehindItem n) [.comma] (AtItem n) := by
  rintro ⟨done, stage⟩ (⟨s, hstage, rfl⟩ | ⟨property, pieces, c, s, hstage, rfl, hc⟩)
  · cases hstage
    exact ⟨rfl, fun _ _ _ => ⟨_, rfl, _, rfl, rfl⟩⟩
  · cases hstage
    rw [hc.operator nofun]
    exact ⟨rfl, fun _ _ _ => ⟨_, rfl, _, rfl, Scope.depth_add _ s⟩⟩

theorem leads_closeBrace :
    Leads (fun r => AtItem n r ∨ BehindItem n r) [.closeBrace] (BehindBody n) := by
  rintro ⟨done, stage⟩
    (⟨s, hstage, rfl⟩ | ⟨s, hstage, rfl⟩ | ⟨property, pieces, c, s, hstage, rfl, hc⟩)
  · cases hstage
    exact ⟨rfl, fun _ _ _ => ⟨_, rfl, behindBody_close done s⟩⟩
  · cases hstage
    exact ⟨rfl, fun _ _ _ => ⟨_, rfl, behindBody_close done s⟩⟩
  · cases hstage
    rw [hc.operator nofun]
    refine ⟨rfl, fun _ _ _ => ⟨_, rfl, ?_⟩⟩
    rw [← Scope.depth_add]
    exact behindBody_close done _

end Block

/-! ### Every rule of the grammar -/

/-- Between which points the words of a symbol lead. -/
def Taken : Symbol → List Terminal → Prop
  | .start, w | .style, w => Leads AtOutside w AtEnd
  | .signature, w => Leads AtOutside w AtBody
  | .dottedName, w => Leads AtThemeType w AtThemeDot
  | .items, w => ∀ n, Leads (AtItem n) w fun r => AtItem n r ∨ BehindItem n r
  | .item, w | .rule, w | .entry, w => ∀ n, Leads (AtItem n) w (BehindItem n)
  | .header, w | .property, w => ∀ n, Leads (AtItem n) w (AtHead n)
  | .expr, w => ∀ n, Leads (AtValue n (· = Cursor.start)) w (BehindItem n)
  | .test, w => ∀ n bs, bs.head? ≠ some .condition →
      Leads (AtValue n (AtTest bs)) w (AtValue n (BehindOperand bs))
  | .orTest, w | .andTest, w | .notTest, w => ∀ n bs,
      Leads (AtValue n (AtTest bs)) w (AtValue n (BehindOperand bs))
  | .comparison, w | .arith, w | .term, w | .factor, w | .atomExpr, w | .atom, w => ∀ n bs,
      Leads (AtValue n (AtOperand bs)) w (AtValue n (BehindOperand bs))
  | .exprList, w => ∀ n b bs, b.element? = some .test →
      Leads (AtValue n (· = ⟨.first, b :: bs⟩)) w
        (AtValue n fun c => c = ⟨.first, b :: bs⟩ ∨ BehindOperand (b :: bs) c)
  | .argList, w => ∀ n b bs, b.element? = some .argument →
      Leads (AtValue n (· = ⟨.first, b :: bs⟩)) w
        (AtValue n fun c => c = ⟨.first, b :: bs⟩ ∨ BehindOperand (b :: bs) c)
  | .argument, w => ∀ n bs,
      Leads (AtValue n (· = ⟨.first, .call :: bs⟩)) w (AtValue n (BehindOperand (.call :: bs)))

section Taken
variable {n : Nat} {bs : List Bracket} {w : List Terminal}

theorem leads_elements {b : Bracket} {e : Symbol} (he : b.element? = some e)
    (helement : ∀ w, Taken e w →
      Leads (AtValue n (· = ⟨.first, b :: bs⟩)) w (AtValue n (BehindOperand (b :: bs))))
    (h : (listed (symbol e)).Holds Taken w) :
    Leads (AtValue n (· = ⟨.first, b :: bs⟩)) w
      (AtValue n fun c => c = ⟨.first, b :: bs⟩ ∨ BehindOperand (b :: bs) c) := by
  have hcomma : Leads (AtValue n (BehindOperand (b :: bs))) [.comma]
      (AtValue n (· = ⟨.first, b :: bs⟩)) := by
    refine leads_operator rfl ?_
    cases b <;> cases he <;> rfl
  obtain ⟨u, v, rfl, hu, hv⟩ := h
  have hlist := leads_separated hu helement hcomma
  refine hlist.append (leads_optional hv (fun r => .imp fun _ => .inr) fun w hw => ?_)
  rw [hw]
  exact hcomma.behind fun r => .imp fun _ => .inl

/-- The brackets of a list and what may be in them. -/
theorem leads_bracketed {P : Reader → Prop} {b : Bracket} {e l : Symbol}
    (h : (token b.opening ++ optional (symbol l) ++ token b.closing).Holds Taken w)
    (he : b.element? = some e) (hopen : Leads P [b.opening] (AtValue n (· = ⟨.first, b :: bs⟩)))
    (hl : ∀ w, Taken l w → Leads (AtValue n (· = ⟨.first, b :: bs⟩)) w
      (AtValue n fun c => c = ⟨.first, b :: bs⟩ ∨ BehindOperand (b :: bs) c)) :
    Leads P w (AtValue n (BehindOperand bs)) := by
  obtain ⟨_, _, rfl, ⟨_, x, rfl, rfl, hx⟩, rfl⟩ := h
  have hinside := leads_optional hx (fun r => .imp fun _ => .inl) hl
  exact (hopen.append hinside).append (leads_close he)

/-- An arithmetic operator and the operand behind it. -/
theorem leads_arithmetic {t : Terminal} {s : Symbol} (h : (token t ++ symbol s).Holds Taken w)
    (ht : followsOperand t) (hstep : Cursor.operator? ⟨.operator, bs⟩ t = some ⟨.factor, bs⟩)
    (hs : ∀ w, Taken s w → Leads (AtValue n (AtOperand bs)) w (AtValue n (BehindOperand bs))) :
    Leads (AtValue n (BehindOperand bs)) w (AtValue n (BehindOperand bs)) := by
  obtain ⟨_, x, rfl, rfl, hx⟩ := h
  exact (leads_operator ht hstep).append ((hs x hx).before fun _ => AtValue.atOperand)

theorem leads_body {P : Reader → Prop} (h : body.Holds Taken w)
    (hopen : Leads P [.openBrace] (AtItem n)) : Leads P w (BehindBody n) := by
  obtain ⟨_, _, rfl, ⟨_, x, rfl, rfl, hx⟩, rfl⟩ := h
  exact (hopen.append (hx n)).append leads_closeBrace

theorem taken_test (h : (grammar .test).Holds Taken w) : Taken .test w := by
  intro n bs hbs
  obtain ⟨u, v, rfl, hu, hv⟩ := h
  refine (hu n bs).append (leads_optional hv (fun r => id) ?_)
  rintro _ ⟨_, _, rfl, ⟨_, x, rfl, rfl, hx⟩, _, y, rfl, rfl, hy⟩
  have hif : Leads (AtValue n (BehindOperand bs)) [.ifWord]
      (AtValue n (· = ⟨.test, .condition :: bs⟩)) :=
    leads_operator rfl (by simp [Cursor.operator?, hbs])
  have helse : Leads (AtValue n (BehindOperand (.condition :: bs))) [.elseWord]
      (AtValue n (· = ⟨.test, bs⟩)) :=
    leads_operator_of_ne_call (by simp) rfl rfl
  have hcondition := (hx n (.condition :: bs)).before fun _ => AtValue.atTest
  have hother := (hy n bs hbs).before fun _ => AtValue.atTest
  exact (hif.append hcondition).append (helse.append hother)

theorem taken_atomExpr (h : (grammar .atomExpr).Holds Taken w) : Taken .atomExpr w := by
  intro n bs
  rcases h with ((⟨u, _, rfl, hu, _, _, rfl, rfl, rfl⟩ | ⟨u, v, rfl, hu, hv⟩) |
    ⟨u, v, rfl, hu, hv⟩) | h
  · have hname : Leads (AtValue n (· = ⟨.attribute, bs⟩)) [.name]
        (AtValue n (BehindOperand bs)) := by
      refine leads_value ?_
      rintro _ rfl
      exact ⟨rfl, ⟨.operator, bs⟩, rfl, rfl, .inl rfl⟩
    exact (hu n bs).append ((leads_operator rfl rfl).append hname)
  · obtain ⟨_, _, rfl, ⟨_, x, rfl, rfl, hx⟩, rfl⟩ := hv
    have hopen : Leads (AtValue n (BehindOperand bs)) [.openBracket]
        (AtValue n (AtTest (.index :: bs))) :=
      (leads_operator rfl rfl).behind fun _ => AtValue.atTest
    have hclose : Leads (AtValue n (BehindOperand (.index :: bs))) [.closeBracket]
        (AtValue n (BehindOperand bs)) :=
      (leads_operator_of_ne_call (by simp) rfl rfl).behind fun _ => AtValue.behindOperand
    exact (hu n bs).append ((hopen.append (hx n _ (by simp))).append hclose)
  · refine (hu n bs).append (leads_bracketed (b := .call) hv rfl (leads_operator rfl rfl) ?_)
    exact fun w hw => hw n .call bs rfl
  · exact h n bs

theorem taken_atom (h : (grammar .atom).Holds Taken w) : Taken .atom w := by
  intro n bs
  have hliteral : ∀ t, startsOperand t → t ≠ .name →
      Cursor.operand? ⟨.factor, bs⟩ t = some ⟨.operator, bs⟩ →
      Leads (AtValue n (AtOperand bs)) [t] (AtValue n (BehindOperand bs)) :=
    fun t ht hname hstep => (leads_operand ht hname hstep).behind fun _ => AtValue.behindOperand
  rcases h with ((((rfl | rfl) | rfl) | rfl) | h) | h
  · exact leads_name
  · exact hliteral .number rfl (by decide) rfl
  · exact hliteral .string rfl (by decide) rfl
  · exact hliteral .fstring rfl (by decide) rfl
  · refine leads_bracketed (b := .group) h rfl (leads_operand rfl (by decide) rfl) ?_
    exact fun w hw => hw n .group bs rfl
  · refine leads_bracketed (b := .list) h rfl (leads_operand rfl (by decide) rfl) ?_
    exact fun w hw => hw n .list bs rfl

theorem taken_argument (h : (grammar .argument).Holds Taken w) : Taken .argument w := by
  intro n bs
  rcases h with h | ⟨_, _, rfl, rfl, _, x, rfl, rfl, hx⟩
  · exact (h n (.call :: bs) (by simp)).before fun _ => AtValue.atTest_of_first
  · have hname : Leads (AtValue n (· = ⟨.first, .call :: bs⟩)) [.name]
        (AtValue n (· = ⟨.keyword, .call :: bs⟩)) := by
      refine leads_value ?_
      rintro _ rfl
      exact ⟨rfl, _, rfl, rfl⟩
    have hequals : Leads (AtValue n (· = ⟨.keyword, .call :: bs⟩)) [.equals]
        (AtValue n (AtTest (.call :: bs))) := by
      refine leads_value ?_
      rintro _ rfl
      exact ⟨rfl, _, rfl, rfl, .inr rfl⟩
    exact hname.append (hequals.append (hx n _ (by simp)))

theorem taken_of_holds {s : Symbol} (h : (grammar s).Holds Taken w) : Taken s w := by
  cases s
  case start =>
    obtain ⟨u, v, rfl, hu, hv⟩ := h
    refine Leads.append hu (leads_many hv fun w hw => ?_)
    exact Leads.before hw fun r hr => hr.1
  case style =>
    obtain ⟨u, v, rfl, hu, hv⟩ := h
    have hhead : Leads AtOutside u fun r => AtOutside r ∨ AtBody r :=
      leads_optional hu (fun r => .inl) fun w hw => Leads.behind hw fun r => .inr
    exact hhead.append (leads_body (n := 0) hv leads_openBlock)
  case signature =>
    obtain ⟨_, _, rfl, rfl, _, _, rfl, rfl, _, _, rfl, rfl, d, _, rfl, hd, _, _, rfl, rfl,
      _, _, rfl, rfl, rfl⟩ := h
    exact leads_signature hd
  case dottedName => exact leads_separated h (fun w hw => hw ▸ leads_pathName) leads_pathDot
  case items =>
    intro n
    refine leads_optional h (fun r => .inl) ?_
    rintro _ ⟨u, v, rfl, hu, hv⟩
    have hlist : Leads (AtItem n) u (BehindItem n) :=
      leads_separated hu (fun w hw => hw n) leads_comma
    refine hlist.append (leads_optional hv (fun r => .inr) fun w hw => ?_)
    rw [hw]
    exact leads_comma.behind fun r => .inl
  case item => exact h.elim id id
  case rule =>
    intro n
    obtain ⟨u, v, rfl, hu, hv⟩ := h
    exact (hu n).append (leads_body (n := n + 1) hv leads_openRule)
  case entry =>
    intro n
    obtain ⟨u, _, rfl, hu, _, v, rfl, rfl, hv⟩ := h
    exact (hu n).append (leads_colon.append (hv n))
  case header | property =>
    intro n
    rcases h with rfl | rfl
    · exact leads_head (.inl rfl)
    · exact leads_head (.inr rfl)
  case expr =>
    intro n
    have htest := (h n [] nofun).behind fun r (hr : AtValue n _ r) => (.inr hr : BehindItem n r)
    exact htest.before fun _ => AtValue.atTest
  case test => exact taken_test h
  case orTest | andTest =>
    intro n bs
    refine leads_separated h (fun w hw => hw n bs) ?_
    exact (leads_operator rfl rfl).behind fun _ => AtValue.atTest
  case notTest =>
    intro n bs
    rcases h with ⟨_, v, rfl, rfl, hv⟩ | h
    · exact leads_notWord.append (hv n bs)
    · exact (h n bs).before fun r => .imp fun _ => AtTest.atOperand
  case comparison =>
    intro n bs
    refine leads_separated h (fun w hw => hw n bs) ?_
    exact (leads_operator rfl rfl).behind fun _ => AtValue.atOperand
  case arith =>
    intro n bs
    rcases h with (h | ⟨u, v, rfl, hu, hv⟩) | ⟨u, v, rfl, hu, hv⟩
    · exact h n bs
    all_goals exact (hu n bs).append (leads_arithmetic hv rfl rfl fun w hw => hw n bs)
  case term =>
    intro n bs
    rcases h with (((h | ⟨u, v, rfl, hu, hv⟩) | ⟨u, v, rfl, hu, hv⟩) | ⟨u, v, rfl, hu, hv⟩) |
      ⟨u, v, rfl, hu, hv⟩
    · exact h n bs
    all_goals exact (hu n bs).append (leads_arithmetic hv rfl rfl fun w hw => hw n bs)
  case factor =>
    intro n bs
    have hsign : ∀ t, startsOperand t → t ≠ .name →
        Cursor.operand? ⟨.factor, bs⟩ t = some ⟨.factor, bs⟩ →
        Leads (AtValue n (AtOperand bs)) [t] (AtValue n (AtOperand bs)) :=
      fun t ht hname hstep => (leads_operand ht hname hstep).behind fun _ => AtValue.atOperand
    rcases h with (⟨_, v, rfl, rfl, hv⟩ | ⟨_, v, rfl, rfl, hv⟩) | h
    · exact (hsign .minus rfl (by decide) rfl).append (hv n bs)
    · exact (hsign .plus rfl (by decide) rfl).append (hv n bs)
    · exact h n bs
  case atomExpr => exact taken_atomExpr h
  case atom => exact taken_atom h
  case exprList =>
    intro n b bs he
    refine leads_elements he (fun w hw => ?_) h
    have hbs : (b :: bs).head? ≠ some .condition := by cases b <;> cases he <;> simp
    exact (hw n (b :: bs) hbs).before fun _ => AtValue.atTest_of_first
  case argList =>
    intro n b bs he
    refine leads_elements he (fun w hw => ?_) h
    obtain rfl : b = .call := by cases b <;> cases he; rfl
    exact hw n bs
  case argument => exact taken_argument h

/-- Whatever the grammar derives, with whatever texts, leads the reader to a point where the source
may end. -/
theorem leads_start (h : Symbol.start.Derives w) : Leads AtOutside w AtEnd :=
  Phrase.Derives.holds (fun _ _ => taken_of_holds) h

end Taken
end ScopedCss.Source

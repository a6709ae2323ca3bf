import ScopedCss.Proofs.Acceptance
import ScopedCss.Proofs.Landmarks
import ScopedCss.Proofs.SelectorDots

/-! Which outlines are refused, and for what. An outline is checked node by node in the order in
which its nodes are closed: the header of a rule, then the items of its body from left to right,
then the body as a whole. If a node fails, the error is that of the first one that does, and it is
found at the literal that is no selector or at the first item that is misplaced. -/
namespace ScopedCss

open Source
open Text (quote)

namespace Source

/-! ### Nodes -/

def Item.isRule : Item → Bool
  | .rule _ _ => true
  | .entry _ _ => false

/-- What is checked of an outline. -/
inductive OutlineNode where
  | header (head : Token)
  /-- A rule as a whole, by its header and the items of its body. -/
  | rule (head : Token) (items : List Item)
  | block (items : List Item)

mutual

/-- The nodes of an item, inner ones before those around them and from left to right; the header of
a rule comes before the body. -/
def Item.nodes : Item → List OutlineNode
  | .rule t items => .header t :: (Item.nodesOf items ++ [.rule t items])
  | .entry _ _ => []

def Item.nodesOf : List Item → List OutlineNode
  | [] => []
  | i :: is => i.nodes ++ Item.nodesOf is

end

def Block.nodes (b : Block) : List OutlineNode := Item.nodesOf b.items ++ [.block b.items]

/-- The header of an at-rule. -/
def Token.IsPrelude (t : Token) : Prop := t.title.head? = some '@'

/-- A quoted header is a selector, the bodies of at-rules and blocks hold only rules, and those of
other rules only entries. -/
def OutlineNode.Sound : OutlineNode → Prop
  | .header t => t.terminal = .string →
      ∃ h, Selector.parse (String.ofList (unquote t.text)) (some t.location) = .ok h
  | .rule t items =>
    (t.IsPrelude → ∀ i ∈ items, i.isRule) ∧ (¬ t.IsPrelude → ∀ i ∈ items, i.isRule = false)
  | .block items => ∀ i ∈ items, i.isRule

/-- What is said about an entry that stands where only rules may. -/
def strayEntry (property owner : String) : String :=
  "Declaration " ++ quote property ++ " is not allowed directly inside " ++ quote owner ++
    "; wrap it in a rule"

/-- What is said about a rule inside a rule that is no at-rule. -/
def strayRule (owner : String) : String :=
  "Nested rule inside " ++ quote owner ++ "; only at-rules may contain rules"

/-- What is wrong with a node: the token that is to blame and what is said about it. In a body it is
the first item that is misplaced. -/
inductive OutlineNode.Raises : OutlineNode → Token → String → Prop
  | literal {t : Token} {e : ParseError} (ht : t.terminal = .string)
      (he : Selector.parse (String.ofList (unquote t.text)) (some t.location) = .error e) :
      Raises (.header t) t e.fault.reason
  | entryInAtRule {t head : Token} {front back : List Item} {value : List Char}
      (ht : t.IsPrelude) (hfront : ∀ i ∈ front, i.isRule) :
      Raises (.rule t (front ++ .entry head value :: back)) head
        (strayEntry (propertyOf head) (String.ofList t.title))
  | ruleInRule {t head : Token} {front back items : List Item}
      (ht : ¬ t.IsPrelude) (hfront : ∀ i ∈ front, i.isRule = false) :
      Raises (.rule t (front ++ .rule head items :: back)) head
        (strayRule (String.ofList t.title))
  | entryInBlock {head : Token} {front back : List Item} {value : List Char}
      (hfront : ∀ i ∈ front, i.isRule) :
      Raises (.block (front ++ .entry head value :: back)) head
        (strayEntry (propertyOf head) "style")

theorem OutlineNode.Raises.not_sound {n : OutlineNode} {t : Token} {reason : String}
    (h : n.Raises t reason) : ¬ n.Sound := by
  intro hn
  cases h with
  | literal ht he =>
    obtain ⟨header, hok⟩ := hn ht
    rw [he] at hok
    cases hok
  | entryInAtRule ht => cases hn.1 ht _ (List.mem_append_right _ List.mem_cons_self)
  | ruleInRule ht => cases hn.2 ht _ (List.mem_append_right _ List.mem_cons_self)
  | entryInBlock => cases hn _ (List.mem_append_right _ List.mem_cons_self)

end Source

/-! ### Results that tell about nodes -/

section Judges
variable {α β : Type} {ns ms : List OutlineNode}

/-- A result that tells whether nodes are sound: if it is an error it is that of the first one that
is not. -/
def Judges (ns : List OutlineNode) : Except ParseError α → Prop
  | .ok _ => ∀ n ∈ ns, n.Sound
  | .error e => ∃ good n others t, ns = good ++ n :: others ∧ (∀ g ∈ good, g.Sound) ∧
      n.Raises t e.fault.reason ∧ e.location = some t.location

theorem judges_nil (a : α) : Judges [] (.ok a : Except ParseError α) := nofun

/-- What comes next tells about the nodes behind. -/
theorem Judges.bind {x : Except ParseError α} {f : α → Except ParseError β} (hx : Judges ns x)
    (hf : ∀ a, x = .ok a → Judges ms (f a)) : Judges (ns ++ ms) (x >>= f) := by
  cases x with
  | error e =>
    obtain ⟨good, n, others, t, rfl, hfirst⟩ := hx
    exact ⟨good, n, others ++ ms, t, by simp, hfirst⟩
  | ok a =>
    have hnext := hf a rfl
    show Judges (ns ++ ms) (f a)
    cases hfa : f a with
    | ok b =>
      rw [hfa] at hnext
      exact List.forall_mem_append.2 ⟨hx, hnext⟩
    | error e =>
      rw [hfa] at hnext
      obtain ⟨good, n, others, t, rfl, hgood, hraises⟩ := hnext
      exact ⟨ns ++ good, n, others, t, by simp, List.forall_mem_append.2 ⟨hx, hgood⟩, hraises⟩

theorem Judges.bind_ok {x : Except ParseError α} (hx : Judges ns x) (g : α → β) :
    Judges ns (x >>= fun a => .ok (g a)) := by
  have hnext := hx.bind fun a _ => judges_nil (g a)
  rwa [List.append_nil] at hnext

theorem judges_mapM {f : α → Except ParseError β} {nodes : α → List OutlineNode}
    (hf : ∀ a, Judges (nodes a) (f a)) (as : List α) : Judges (as.flatMap nodes) (as.mapM f) := by
  induction as with
  | nil => exact judges_nil []
  | cons a as ih =>
    rw [List.mapM_cons, List.flatMap_cons]
    exact (hf a).bind fun b _ => ih.bind_ok fun bs => b :: bs

end Judges

/-! ### Headers -/

theorem judges_headerOf (t : Token) : Judges [.header t] (headerOf t) := by
  unfold headerOf
  split
  next hs =>
    cases hparse : Selector.parse (String.ofList (unquote t.text)) (some t.location) with
    | ok h => exact List.forall_mem_singleton.2 fun _ => ⟨h, hparse⟩
    | error e =>
      refine ⟨[], _, [], t, rfl, nofun, .literal hs hparse, ?_⟩
      rcases Selector.parse_eq_error_iff.1 hparse with ⟨-, rfl⟩ | ⟨_, _, _, -, -, -, rfl⟩ <;> rfl
  next hs => exact List.forall_mem_singleton.2 fun hstring => absurd hstring hs

/-- The text of a header tells at-rules from other rules. -/
theorem isAtRule_of_headerOf {t : Token} {h : Header} (hh : headerOf t = .ok h) :
    h.isAtRule ↔ t.IsPrelude := by
  rw [Token.IsPrelude, ← (title_of_headerOf hh).2]
  unfold headerOf at hh
  split at hh
  next =>
    rw [Selector.text_of_parse hh]
    rcases (Selector.parse_eq_ok_iff.1 hh).2 with ⟨r, hr, -, hat⟩ | ⟨c, r, hr, hc, -, hat⟩ <;>
      rw [hr]
    · simp [hat]
    · simp [hat, hc]
  next =>
    cases hh
    simp [Header.text, Header.ofIdentifier, Part.text]

/-! ### Bodies -/

theorem membersOf_eq_mapM (items : List Item) : membersOf items = items.mapM memberOf := by
  induction items with
  | nil => rfl
  | cons i items ih => rw [membersOf, ih, List.mapM_cons]

/-- A rule is made of an item that is one, and has the location of its token. -/
theorem rule_of_memberOf {t : Token} {items : List Item} {m : Member}
    (h : memberOf (.rule t items) = .ok m) :
    ∃ r, m = .rule r ∧ r.header.location = some t.location := by
  rw [memberOf, bind_eq_ok] at h
  obtain ⟨header, hheader, h⟩ := h
  obtain ⟨ms, -, h⟩ := bind_eq_ok.1 h
  have hlocation := (title_of_headerOf hheader).1
  split_ifs at h
  all_goals
    obtain ⟨_, -, h⟩ := bind_eq_ok.1 h
    cases h
    exact ⟨_, rfl, hlocation⟩

/-- The rules are taken out of a body, or its first entry is what is wrong. -/
theorem onlyRules_cases {items : List Item} {ms : List Member}
    (h : List.Forall₂ (fun i m => memberOf i = .ok m) items ms) (owner : String) :
    (∀ i ∈ items, i.isRule) ∧ (∃ rs, onlyRules owner ms = .ok rs) ∨
      ∃ front head value back, items = front ++ .entry head value :: back ∧
        (∀ i ∈ front, i.isRule) ∧ onlyRules owner ms =
          .error ⟨.declarationOutsideRule (propertyOf head) owner, some head.location⟩ := by
  induction h with
  | nil => exact .inl ⟨nofun, [], rfl⟩
  | @cons i m items ms hi _ ih =>
    cases i with
    | entry head value =>
      cases hi
      exact .inr ⟨[], head, value, items, rfl, nofun, rfl⟩
    | rule head inner =>
      obtain ⟨r, rfl, -⟩ := rule_of_memberOf hi
      rw [onlyRules]
      rcases ih with ⟨hall, rs, hrs⟩ | ⟨front, entry, value, back, rfl, hfront, herror⟩
      · exact .inl ⟨List.forall_mem_cons.2 ⟨rfl, hall⟩, r :: rs, by rw [hrs]; rfl⟩
      · exact .inr ⟨.rule head inner :: front, entry, value, back, rfl,
          List.forall_mem_cons.2 ⟨rfl, hfront⟩, by rw [herror]; rfl⟩

/-- The entries are taken out of a body, or its first rule is what is wrong. -/
theorem onlyEntries_cases {items : List Item} {ms : List Member}
    (h : List.Forall₂ (fun i m => memberOf i = .ok m) items ms) (owner : String) :
    (∀ i ∈ items, i.isRule = false) ∧ (∃ es, onlyEntries owner ms = .ok es) ∨
      ∃ front head inner back, items = front ++ .rule head inner :: back ∧
        (∀ i ∈ front, i.isRule = false) ∧ onlyEntries owner ms =
          .error ⟨.ruleInsidePlainRule owner, some head.location⟩ := by
  induction h with
  | nil => exact .inl ⟨nofun, [], rfl⟩
  | @cons i m items ms hi _ ih =>
    cases i with
    | rule head inner =>
      obtain ⟨r, rfl, hlocation⟩ := rule_of_memberOf hi
      exact .inr ⟨[], head, inner, items, rfl, nofun, by rw [onlyEntries, hlocation]⟩
    | entry head value =>
      cases hi
      rw [onlyEntries]
      rcases ih with ⟨hall, es, hes⟩ | ⟨front, rule, inner, back, rfl, hfront, herror⟩
      · exact .inl ⟨List.forall_mem_cons.2 ⟨rfl, hall⟩, _, by rw [hes]; rfl⟩
      · exact .inr ⟨.entry head value :: front, rule, inner, back, rfl,
          List.forall_mem_cons.2 ⟨rfl, hfront⟩, by rw [herror]; rfl⟩

theorem judges_single {α : Type} {n : OutlineNode} {t : Token} {x : Except ParseError α}
    {e : ParseError} (hx : x = .error e) (hraises : n.Raises t e.fault.reason)
    (hlocation : e.location = some t.location) : Judges [n] x :=
  hx ▸ ⟨[], n, [], t, rfl, nofun, hraises, hlocation⟩

/-- The body of an at-rule is checked for entries, and that of any other rule for rules. -/
theorem judges_body {t : Token} {items : List Item} {ms : List Member} {h : Header}
    (hms : membersOf items = .ok ms) (hh : headerOf t = .ok h) :
    (h.isAtRule → Judges [.rule t items] (onlyRules h.text ms)) ∧
      (h.isAtRule = false → Judges [.rule t items] (onlyEntries h.text ms)) := by
  rw [membersOf_eq_mapM, mapM_eq_ok] at hms
  have hat := isAtRule_of_headerOf hh
  have htext : h.text = String.ofList t.title := by
    rw [← (title_of_headerOf hh).2, String.ofList_toList]
  rw [htext]
  constructor
  · intro hyes
    rcases onlyRules_cases hms (String.ofList t.title) with
      ⟨hall, rs, hrs⟩ | ⟨front, head, value, back, rfl, hfront, herror⟩
    · rw [hrs]
      refine List.forall_mem_singleton.2 ⟨fun _ => hall, fun hno => ?_⟩
      exact absurd (hat.1 hyes) hno
    · exact judges_single herror (.entryInAtRule (hat.1 hyes) hfront) rfl
  · intro hno
    have hprelude : ¬ t.IsPrelude := by simpa [hno] using hat
    rcases onlyEntries_cases hms (String.ofList t.title) with
      ⟨hall, es, hes⟩ | ⟨front, head, inner, back, rfl, hfront, herror⟩
    · rw [hes]
      exact List.forall_mem_singleton.2 ⟨fun hyes => absurd hyes hprelude, fun _ => hall⟩
    · exact judges_single herror (.ruleInRule hprelude hfront) rfl

/-! ### Outlines -/

mutual

/-- What an item is made into tells about its nodes. -/
theorem judges_memberOf : (i : Item) → Judges i.nodes (memberOf i)
  | .entry t v => judges_nil _
  | .rule t items => by
    rw [memberOf, Item.nodes]
    refine (judges_headerOf t).bind fun header hheader => ?_
    refine (judges_membersOf items).bind fun ms hms => ?_
    obtain ⟨hrules, hentries⟩ := judges_body hms hheader
    split
    next hat => exact (hrules hat).bind_ok _
    next hat => exact (hentries (by simpa using hat)).bind_ok _

theorem judges_membersOf : (items : List Item) → Judges (Item.nodesOf items) (membersOf items)
  | [] => judges_nil []
  | i :: items => by
    rw [membersOf, Item.nodesOf]
    exact (judges_memberOf i).bind fun m _ => (judges_membersOf items).bind_ok fun ms => m :: ms

end

theorem judges_styleOf (b : Block) : Judges b.nodes (styleOf b) := by
  refine (judges_membersOf b.items).bind fun ms hms => ?_
  rw [membersOf_eq_mapM, mapM_eq_ok] at hms
  refine Judges.bind_ok ?_ _
  rcases onlyRules_cases hms "style" with
    ⟨hall, rs, hrs⟩ | ⟨front, head, value, back, hitems, hfront, herror⟩
  · rw [hrs]
    exact List.forall_mem_singleton.2 hall
  · refine judges_single herror ?_ rfl
    rw [hitems]
    exact .entryInBlock hfront

/-- Parsing tells about the nodes of the outline. -/
theorem judges_parseStyles {source : String} {blocks : List Block}
    (h : outline source.toList = .ok blocks) :
    Judges (blocks.flatMap Block.nodes) (parseStyles source) := by
  rw [parseStyles, h]
  exact judges_mapM judges_styleOf blocks

/-- Structural errors are complete and come in a fixed order. A source without a syntax error is
accepted exactly if all nodes of its outline are sound. Otherwise the error is that of the first
node in the order of closing that is not, and it is found at the token that is to blame. -/
theorem structure_errors_ordered {source : String} (h : NoSyntaxError (parseStyles source)) :
    ∃ blocks, outline source.toList = .ok blocks ∧
      ((∃ styles, parseStyles source = .ok styles) ↔
        ∀ n ∈ blocks.flatMap Block.nodes, n.Sound) ∧
      ∀ e, parseStyles source = .error e → ∃ good n others t,
        blocks.flatMap Block.nodes = good ++ n :: others ∧ (∀ g ∈ good, g.Sound) ∧ ¬ n.Sound ∧
        n.Raises t e.fault.reason ∧ e.location = some t.location := by
  obtain ⟨blocks, houtline⟩ := noSyntaxError_parseStyles.1 h
  have hjudges := judges_parseStyles houtline
  refine ⟨blocks, houtline, ?_, fun e he => ?_⟩
  · cases hparse : parseStyles source with
    | ok styles =>
      rw [hparse] at hjudges
      exact ⟨fun _ => hjudges, fun _ => ⟨styles, rfl⟩⟩
    | error e =>
      rw [hparse] at hjudges
      obtain ⟨good, n, others, t, hnodes, -, hraises, -⟩ := hjudges
      refine ⟨fun ⟨_, hno⟩ => (nomatch hno), fun hall => absurd (hall n ?_) hraises.not_sound⟩
      rw [hnodes]
      exact List.mem_append_right _ List.mem_cons_self
  · rw [he] at hjudges
    obtain ⟨good, n, others, t, hnodes, hgood, hraises, hlocation⟩ := hjudges
    exact ⟨good, n, others, t, hnodes, hgood, hraises.not_sound, hraises, hlocation⟩

/-- An entry in a block and one in an at-rule, both written before a rule in a rule, which is closed
first, and a literal behind them that is no selector. -/
theorem structure_errors_ordered_depths :
    let source := "\x7bx:1,'@m'\x7by:2,a\x7bz:3,\nb\x7b\x7d\x7d\x7d,'.'\x7b\x7d\x7d"
    NoSyntaxError (parseStyles source) ∧ ∃ blocks good n others t,
      outline source.toList = .ok blocks ∧ blocks.flatMap Block.nodes = good ++ n :: others ∧
        (∀ g ∈ good, g.Sound) ∧ n.Raises t (strayRule ".a") ∧ t.location = ⟨2, 1⟩ := by
  intro source
  have hparse : parseStyles source = .error ⟨.ruleInsidePlainRule ".a", some ⟨2, 1⟩⟩ := by
    decide +kernel
  have hgrammar : NoSyntaxError (parseStyles source) := by
    intro e he
    rw [hparse] at he
    cases he
    rfl
  obtain ⟨blocks, houtline, -, hfirst⟩ := structure_errors_ordered hgrammar
  obtain ⟨good, n, others, t, hnodes, hgood, -, hraises, hlocation⟩ := hfirst _ hparse
  exact ⟨hgrammar, blocks, good, n, others, t, houtline, hnodes, hgood, hraises,
    (Option.some.inj hlocation).symm⟩

end ScopedCss

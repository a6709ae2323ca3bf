import ScopedCss.ClassDef
import ScopedCss.Proofs.Printing

/-!
Blocks of a source and what they are compiled to. A block that is compiled keeps its signature, has
the table of its class names and a template that prints its rules.
-/
namespace ScopedCss

/-- What a style block is compiled to. -/
structure CompiledStyle.From (config : Config) (s : Style) (c : CompiledStyle) : Prop where
  signature : c.signature = s.signature
  table : c.table = SlotTable.ofRules s.rules
  config : c.config = config
  template : Template.assemble c.table c.config s.rules = .ok c.template

namespace Compile

theorem from_of_style {config : Config} {s : Style} {c : CompiledStyle}
    (h : (style config s).result = .ok c) : c.From config s := by
  unfold style at h
  split at h
  · cases h
  · dsimp only at h
    split at h
    · cases h
    · rename_i t hassembled
      cases h
      exact ⟨rfl, rfl, rfl, hassembled⟩

theorem results_of_styles {config : Config} {ss : List Style} {cs : List CompiledStyle}
    (h : (styles config ss).result = .ok cs) :
    List.Forall₂ (fun s c => (style config s).result = .ok c) ss cs := by
  induction ss generalizing cs with
  | nil =>
    cases h
    exact .nil
  | cons s ss ih =>
    rw [styles] at h
    split at h
    · cases h
    · rename_i logs c hfirst
      obtain ⟨others, hrest, rfl⟩ := map_eq_ok.1 h
      exact .cons (by rw [hfirst]) (ih hrest)

/-- The blocks of a source are compiled one by one, if they have different result types. -/
theorem results_of_source {config : Config} {text : String} {cs : List CompiledStyle}
    (h : (source config text).result = .ok cs) :
    ∃ ss, parseStyles text = .ok ss ∧ Check.uniqueResultTypes ss = [] ∧
      List.Forall₂ (fun s c => (style config s).result = .ok c) ss cs := by
  unfold source at h
  split at h
  · cases h
  · rename_i ss hparsed
    split at h
    · rename_i hunique
      exact ⟨ss, hparsed, hunique, results_of_styles h⟩
    · cases h

theorem from_of_source {config : Config} {text : String} {cs : List CompiledStyle}
    (h : (source config text).result = .ok cs) :
    ∃ ss, parseStyles text = .ok ss ∧ List.Forall₂ (CompiledStyle.From config) ss cs := by
  obtain ⟨ss, hparsed, -, hresults⟩ := results_of_source h
  exact ⟨ss, hparsed, hresults.imp fun _ _ => from_of_style⟩

end Compile

/-- The template of a block prints its rules, whatever the texts in its places are. -/
theorem CompiledStyle.From.prints {config : Config} {s : Style} {c : CompiledStyle}
    (h : c.From config s) (start : Int) (texts : List Text) :
    c.template.Prints start texts ((entriesOf s.rules).map Entry.value) fun i =>
      (Press.mk c.config (c.classNames start) texts).rules 0 i s.rules := by
  have hcovered : c.table.Covers s.rules := by
    rw [h.table]
    exact SlotTable.covers_ofRules s.rules
  obtain ⟨t, hassembled, hprints⟩ :=
    Press.prints_rules (c.numbers_classNames start texts) 0 s.rules hcovered
  obtain rfl : t = c.template := Except.ok.inj (hassembled.symm.trans h.template)
  exact hprints

/-- What the template of a block renders is what is printed from its rules, with the class names of
an instance in their places. -/
theorem CompiledStyle.From.sheet_of_render {config : Config} {s : Style} {c : CompiledStyle}
    (h : c.From config s) {start : Int} {texts : List Text} {css : Text}
    (hrendered : c.template.render start texts = .ok css) :
    (Press.mk c.config (c.classNames start) texts).sheet s.rules = some css := by
  have hsame := (h.prints start texts).render_eq 0
  rw [List.drop_zero, hrendered] at hsame
  exact hsame.symm

theorem ClassDef.join_literalsOf (template : String) :
    String.join (literalsOf template) = template := by
  have hwhole := Text.keptLines_flatten template.toList
  have hjoined (ls : List (List Char)) (h : ls.flatten = template.toList) :
      String.join (ls.map String.ofList) = template := by
    rw [← String.toList_inj, String.toList_join, List.flatMap_map, ← h]
    simp [List.flatMap_def]
  unfold literalsOf
  split
  · rename_i hnone
    rw [hnone] at hwhole
    exact hjoined [[]] hwhole
  · exact hjoined _ hwhole

/-- What class names start with is known of a class that has any. -/
theorem ClassDef.classPrefix_ofCompiled {c : CompiledStyle} {f : String × Nat}
    (h : f ∈ (ofCompiled c).fields) : (ofCompiled c).classPrefix = c.config.classPrefix := by
  have hfilled : c.table.slots ≠ [] := List.ne_nil_of_mem h
  simp [ofCompiled, hfilled]

end ScopedCss

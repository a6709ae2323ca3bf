import ScopedCss.Proofs.Canonical
import ScopedCss.Proofs.Declarations
import ScopedCss.Proofs.Outcomes

/-! Reading canonical sources. Each piece of a source takes the reader past the item it was written
for, whatever is read around it; the items are then found to be in their places. -/
namespace ScopedCss

open Source

/-! ### Items that stand for entries and rules -/

/-- An item that is an entry, apart from locations. -/
def IsEntry (e : Entry) (i : Item) : Prop :=
  ∃ found, memberOf i = .ok (.entry found) ∧ found.unlocated = e.unlocated

/-- An item that is a rule, apart from locations. -/
def IsRule (r : Rule) (i : Item) : Prop :=
  ∃ found, memberOf i = .ok (.rule found) ∧ found.unlocated = r.unlocated

theorem onlyEntries_map (owner : String) (es : List Entry) :
    onlyEntries owner (es.map .entry) = .ok es := by
  induction es with
  | nil => rfl
  | cons e es ih => rw [List.map_cons, onlyEntries, ih]; rfl

theorem onlyRules_map (owner : String) (rs : List Rule) :
    onlyRules owner (rs.map .rule) = .ok rs := by
  induction rs with
  | nil => rfl
  | cons r rs ih => rw [List.map_cons, onlyRules, ih]; rfl

theorem membersOf_entries {es : List Entry} {items : List Item}
    (h : List.Forall₂ IsEntry es items) :
    ∃ found : List Entry, membersOf items = .ok (found.map .entry) ∧
      found.map Entry.unlocated = es.map Entry.unlocated := by
  induction h with
  | nil => exact ⟨[], rfl, rfl⟩
  | cons hfirst _ ih =>
    obtain ⟨e, he, heq⟩ := hfirst
    obtain ⟨found, hfound, hmap⟩ := ih
    exact ⟨e :: found, by rw [membersOf, he, hfound]; rfl, by rw [List.map_cons, heq, hmap]; rfl⟩

theorem membersOf_rules {rs : List Rule} {items : List Item} (h : List.Forall₂ IsRule rs items) :
    ∃ found : List Rule, membersOf items = .ok (found.map .rule) ∧
      Rule.unlocatedAll found = Rule.unlocatedAll rs := by
  induction h with
  | nil => exact ⟨[], rfl, rfl⟩
  | cons hfirst _ ih =>
    obtain ⟨r, hr, heq⟩ := hfirst
    obtain ⟨found, hfound, hmap⟩ := ih
    refine ⟨r :: found, by rw [membersOf, hr, hfound]; rfl, ?_⟩
    rw [Rule.unlocatedAll, heq, hmap, Rule.unlocatedAll]

/-- A literal that writes a header is read as the header. -/
theorem headerOf_quoted {h : Header} (hh : h.Written) (loc : Location) :
    headerOf ⟨.string, Canonical.quoted h.text, loc⟩ = .ok { h with location := some loc } := by
  rw [headerOf, if_pos rfl, Canonical.unquote_quoted, String.ofList_toList]
  exact hh.parse_text _

theorem isRule_plain {h : Header} (hh : h.Written) (hat : h.isAtRule = false) {es : List Entry}
    {items : List Item} (hitems : List.Forall₂ IsEntry es items) (loc : Location) :
    IsRule (.plain h es) (.rule ⟨.string, Canonical.quoted h.text, loc⟩ items) := by
  obtain ⟨found, hfound, hmap⟩ := membersOf_entries hitems
  refine ⟨.plain { h with location := some loc } found, ?_, ?_⟩
  · rw [memberOf, headerOf_quoted hh, hfound]
    simp only [bind, Except.bind, hat, onlyEntries_map]
    rfl
  · simp [Rule.unlocated, hmap, Header.unlocated]

theorem isRule_nested {h : Header} (hh : h.Written) (hat : h.isAtRule) {rs : List Rule}
    {items : List Item} (hitems : List.Forall₂ IsRule rs items) (loc : Location) :
    IsRule (.nested h rs) (.rule ⟨.string, Canonical.quoted h.text, loc⟩ items) := by
  obtain ⟨found, hfound, hmap⟩ := membersOf_rules hitems
  refine ⟨.nested { h with location := some loc } found, ?_, ?_⟩
  · rw [memberOf, headerOf_quoted hh, hfound]
    simp only [bind, Except.bind, hat, onlyRules_map]
    rfl
  · simp [Rule.unlocated, hmap, Header.unlocated]

theorem isEntry_quoted (e : Entry) (loc : Location) :
    IsEntry e (.entry ⟨.string, Canonical.quoted e.property, loc⟩ e.value.toList) := by
  refine ⟨_, rfl, ?_⟩
  simp [propertyOf, Canonical.unquote_quoted, Entry.unlocated]

/-! ### Names and captured values -/

theorem scan?_item_name (s : Source.Scope) {w rest : List Char} (hw : IsName w)
    (hrest : ∀ c, rest.head? = some c → Text.isWordChar c = false) :
    scan? (Stage.item s).allows (w ++ rest) = some ⟨.name, w, rest⟩ :=
  scan?_name rfl rfl (by simp [words, Stage.allows]) hw hrest

/-- A value that is captured unchanged is read in front of any space. -/
theorem Captured.reaches {v : String} (hv : Captured v) (done : List Block) (property : Token)
    (s : Source.Scope) (more : List Char) :
    Reaches ⟨done, .value property [] Cursor.start s⟩ (' ' :: (v.toList ++ ' ' :: more))
      (fun r' => ∃ pieces c, Reader.joined pieces = v.toList ∧ c.isComplete ∧
        r' = ⟨done, .value property pieces c s⟩) (' ' :: more) := by
  obtain ⟨st, hst, hvalues⟩ := hv
  rw [parseStyle, bind_eq_ok] at hst
  obtain ⟨styles, hstyles, hst⟩ := hst
  have hmem : st ∈ styles := by
    split at hst
    · cases hst
      exact List.mem_cons_self
    · cases hst
  obtain ⟨e, he, rfl⟩ : ∃ e ∈ entriesOf st.rules, e.value = v :=
    List.mem_map.1 (hvalues ▸ List.mem_cons_self)
  obtain ⟨d, t, v, -, hdeclares, rfl⟩ := exists_slice_of_entry hstyles hmem he
  obtain ⟨tail, c, hfollows, hc⟩ := hdeclares.follows
  have hspace : Skipped [' '] := fun _ => rfl
  have hends : Cursor.Ends (' ' :: more) := Cursor.ends_gap (by decide) more
  have htext := hdeclares.toList_value
  intro last here
  obtain ⟨pieces, here', hjoined, hpasses⟩ := ((hfollows.regap hspace).transport hends).passes_start
    (List.cons_ne_nil _ _) done property s here
  obtain ⟨last', hread⟩ := hpasses.readFrom_eq last
  refine ⟨_, last', here', ⟨pieces, c, by rw [hjoined, htext]; rfl, hc, rfl⟩, ?_⟩
  rw [← hread, htext]
  simp [Slice.value, Lexeme.textOf, Lexeme.chars]

/-! ### Items of a body -/

/-- The reader behind an item and the terminal that ends it. -/
def behindItem (done : List Block) (s : Source.Scope) (t : Terminal) : Reader :=
  if t = .comma then ⟨done, .item s⟩ else Reader.close done s

/-- The characters that end an item, with their terminals. -/
def endings : List (Char × Terminal) := [(',', .comma), ('}', .closeBrace)]

/-- A text that is read as an item with a property, wherever an item may stand. -/
def ReadsItem (text : List Char) (P : Item → Prop) : Prop :=
  ∀ (done : List Block) (s : Source.Scope) (gap rest : List Char), gap ∈ [[], [' ']] →
    ∀ e ∈ endings, Reaches ⟨done, .item s⟩ (' ' :: (text ++ (gap ++ e.1 :: rest)))
      (fun r' => ∃ i, P i ∧ r' = behindItem done (s.add i) e.2) rest

theorem reaches_value_ending {c : Cursor} (hc : c.isComplete) (done : List Block)
    (property : Token) (pieces : List (List Char)) (s : Source.Scope) {gap : List Char}
    (hgap : gap ∈ [[], [' ']]) (rest : List Char) {e : Char × Terminal} (he : e ∈ endings) :
    Reaches ⟨done, .value property pieces c s⟩ (' ' :: (gap ++ e.1 :: rest))
      (· = behindItem done (s.add (.entry property (Reader.joined pieces))) e.2) rest := by
  obtain ⟨place, brackets⟩ := c
  simp only [Cursor.isComplete, Bool.and_eq_true, beq_iff_eq, List.isEmpty_iff] at hc
  obtain ⟨rfl, rfl⟩ := hc
  simp only [endings, List.mem_cons, List.not_mem_nil, or_false] at hgap he
  rcases hgap with rfl | rfl <;> rcases he with rfl | rfl <;>
    exact reaches_token_eq _ ⟨_, _, rest⟩ rfl rfl fun _ => rfl

theorem reaches_separator_ending (done : List Block) (s : Source.Scope) {gap : List Char}
    (hgap : gap ∈ [[], [' ']]) (rest : List Char) {e : Char × Terminal} (he : e ∈ endings) :
    Reaches ⟨done, .separator s⟩ (gap ++ e.1 :: rest) (· = behindItem done s e.2) rest := by
  simp only [endings, List.mem_cons, List.not_mem_nil, or_false] at hgap he
  rcases hgap with rfl | rfl <;> rcases he with rfl | rfl <;>
    exact reaches_token_eq _ ⟨_, _, rest⟩ rfl rfl fun _ => rfl

/-- A literal at the start of an item is its header or property. -/
theorem reaches_quoted (done : List Block) (s : Source.Scope) (text : String) (rest : List Char) :
    Reaches ⟨done, .item s⟩ (' ' :: (Canonical.quoted text ++ rest))
      (fun r' => ∃ loc, r' = ⟨done, .head ⟨.string, Canonical.quoted text, loc⟩ s⟩) rest :=
  reaches_token ⟨done, .item s⟩ ⟨.string, Canonical.quoted text, rest⟩ rfl
    (Canonical.scan?_quoted s text rest) fun _ => rfl

theorem reads_entry {e : Entry} (he : Captured e.value) :
    ReadsItem (Canonical.entry e) (IsEntry e) := by
  intro done s gap rest hgap ending hending
  rw [Canonical.entry]
  simp only [List.append_assoc, List.cons_append, List.nil_append]
  refine (reaches_quoted done s e.property _).trans ?_
  rintro _ ⟨loc, rfl⟩
  refine (reaches_token _ ⟨.colon, [':'], _⟩ rfl rfl fun _ => rfl).trans ?_
  rintro _ ⟨-, rfl⟩
  refine (he.reaches done _ s _).trans ?_
  rintro _ ⟨pieces, c, hjoined, hc, rfl⟩
  refine (reaches_value_ending hc done _ pieces s hgap rest hending).mono ?_
  rintro _ rfl
  exact ⟨_, isEntry_quoted e loc, by rw [hjoined]⟩

/-- A scope with more items. -/
def addAll (s : Source.Scope) (items : List Item) : Source.Scope :=
  items.foldl (fun s i => s.add i) s

theorem addAll_rule (head : Token) (outer : Source.Scope) (items earlier : List Item) :
    addAll (.rule head earlier outer) items = .rule head (items.reverse ++ earlier) outer := by
  induction items generalizing earlier with
  | nil => rfl
  | cons i items ih =>
    change addAll (.rule head (i :: earlier) outer) items = _
    rw [ih, List.reverse_cons, List.append_assoc, List.singleton_append]

theorem addAll_block (sig : Signature) (items earlier : List Item) :
    addAll (.block sig earlier) items = .block sig (items.reverse ++ earlier) := by
  induction items generalizing earlier with
  | nil => rfl
  | cons i items ih =>
    change addAll (.block sig (i :: earlier)) items = _
    rw [ih, List.reverse_cons, List.append_assoc, List.singleton_append]

/-- The items of a body are read one by one, up to the closing brace. -/
theorem reaches_items {α : Type} {write : α → List Char} {P : α → Item → Prop} {xs : List α}
    (hxs : ∀ x ∈ xs, ReadsItem (write x) (P x)) (done : List Block) (s : Source.Scope)
    (rest : List Char) :
    Reaches ⟨done, .item s⟩
      (' ' :: ([',', ' '].intercalate (xs.map write) ++ ' ' :: '}' :: rest))
      (fun r' => ∃ items, List.Forall₂ P xs items ∧
        r' = Reader.close done (addAll s items)) rest := by
  induction xs generalizing s with
  | nil =>
    refine (reaches_token _ ⟨.closeBrace, ['}'], rest⟩ rfl rfl fun _ => rfl).mono ?_
    rintro _ ⟨-, rfl⟩
    exact ⟨[], .nil, rfl⟩
  | cons x xs ih =>
    obtain ⟨hx, hothers⟩ := List.forall_mem_cons.1 hxs
    cases xs with
    | nil =>
      have hread := hx done s [' '] rest (by simp) ('}', .closeBrace) (by simp [endings])
      simp only [List.map_cons, List.map_nil, List.intercalate_singleton]
      refine hread.mono ?_
      rintro _ ⟨i, hi, rfl⟩
      exact ⟨[i], .cons hi .nil, rfl⟩
    | cons y ys =>
      have hread := fun rest => hx done s [] rest (by simp) (',', .comma) (by simp [endings])
      simp only [List.map_cons, List.intercalate_cons_cons, List.append_assoc, List.cons_append,
        List.nil_append]
      refine (hread _).trans ?_
      rintro _ ⟨i, hi, rfl⟩
      refine (ih hothers (s.add i)).mono ?_
      rintro _ ⟨items, hitems, rfl⟩
      exact ⟨i :: items, .cons hi hitems, rfl⟩

/-- A header and a body whose items are read make a rule. -/
theorem reads_rule {α : Type} {write : α → List Char} {P : α → Item → Prop} {xs : List α}
    (hxs : ∀ x ∈ xs, ReadsItem (write x) (P x)) (text : String) {Q : Item → Prop}
    (hQ : ∀ loc items, List.Forall₂ P xs items →
      Q (.rule ⟨.string, Canonical.quoted text, loc⟩ items)) :
    ReadsItem (Canonical.quoted text ++ ' ' :: Canonical.body (xs.map write)) Q := by
  intro done s gap rest hgap ending hending
  rw [Canonical.body]
  simp only [List.append_assoc, List.cons_append, List.nil_append]
  refine (reaches_quoted done s text _).trans ?_
  rintro _ ⟨loc, rfl⟩
  refine (reaches_token _ ⟨.openBrace, ['{'], _⟩ rfl rfl fun _ => rfl).trans ?_
  rintro _ ⟨-, rfl⟩
  refine (reaches_items hxs done _ _).trans ?_
  rintro _ ⟨items, hitems, rfl⟩
  rw [addAll_rule, List.append_nil, Reader.close, List.reverse_reverse]
  refine (reaches_separator_ending done _ hgap rest hending).mono ?_
  rintro _ rfl
  exact ⟨_, hQ loc items hitems, rfl⟩

theorem Canonical.rules_eq_map (rs : List Rule) : Canonical.rules rs = rs.map Canonical.rule := by
  induction rs with
  | nil => rfl
  | cons r rs ih => rw [Canonical.rules, ih, List.map_cons]

mutual

theorem reads_writable : (r : Rule) → r.Writable → ReadsItem (Canonical.rule r) (IsRule r)
  | .plain h es, hr => by
    obtain ⟨hh, hat, hes⟩ := hr
    rw [Canonical.rule]
    exact reads_rule (fun e he => reads_entry (hes e he)) h.text
      fun loc items hitems => isRule_plain hh hat hitems loc
  | .nested h rs, hr => by
    obtain ⟨hh, hat, hrs⟩ := hr
    rw [Canonical.rule, Canonical.rules_eq_map]
    exact reads_rule (reads_writableAll rs hrs) h.text
      fun loc items hitems => isRule_nested hh hat hitems loc

theorem reads_writableAll : (rs : List Rule) → Rule.WritableAll rs →
    ∀ r ∈ rs, ReadsItem (Canonical.rule r) (IsRule r)
  | [], _ => nofun
  | r :: rs, ⟨hfirst, hothers⟩ =>
    List.forall_mem_cons.2 ⟨reads_writable r hfirst, reads_writableAll rs hothers⟩

end

/-! ### Blocks -/

/-- A name is read where nothing else may stand. -/
theorem reaches_name (r : Reader) (hr : r.stage.allows = fun t => t == .name) (gap : List Char)
    (hgap : gap ∈ [[], [' ']]) {w rest : List Char} (hw : IsName w)
    (hrest : ∀ c, rest.head? = some c → Text.isWordChar c = false) {next : Location → Reader}
    (hstep : ∀ loc, r.step gap ⟨.name, w, loc⟩ = some (next loc)) :
    Reaches r (gap ++ (w ++ rest)) (fun r' => ∃ loc, r' = next loc) rest := by
  have hscan : scan? r.stage.allows (w ++ rest) = some ⟨.name, w, rest⟩ := by
    rw [hr]
    exact scan?_name rfl rfl (by decide) hw hrest
  obtain ⟨c, cs, rfl, hc, -⟩ := hw
  have hsplit := splitGap_token hgap (gapNext_of_isWordStart hc) (cs ++ rest)
  exact reaches_token r ⟨.name, _, rest⟩ hsplit hscan hstep

/-- The names of a dotted path, up to the closing parenthesis. -/
theorem reaches_path (done : List Block) (var : Token) {path : List (List Char)}
    (hne : path ≠ []) (hpath : ∀ n ∈ path, IsName n) (earlier : List (List Char))
    (gap : List Char) (hgap : gap ∈ [[], [' ']]) (rest : List Char) :
    Reaches ⟨done, .themeType var earlier⟩ (gap ++ (['.'].intercalate path ++ ')' :: rest))
      (· = ⟨done, .themeDot var (earlier ++ path)⟩) (')' :: rest) := by
  induction path generalizing earlier gap with
  | nil => exact absurd rfl hne
  | cons n path ih =>
    obtain ⟨hn, hothers⟩ := List.forall_mem_cons.1 hpath
    cases path with
    | nil =>
      rw [List.intercalate_singleton]
      refine (reaches_name _ rfl gap hgap hn (by simp; rfl) fun _ => rfl).mono ?_
      rintro _ ⟨-, rfl⟩
      rfl
    | cons m path =>
      rw [List.intercalate_cons_cons, List.append_assoc, List.append_assoc]
      refine (reaches_name _ rfl gap hgap hn (by simp; rfl) fun _ => rfl).trans ?_
      rintro _ ⟨-, rfl⟩
      refine (reaches_token _ ⟨.dot, ['.'], _⟩ rfl rfl fun _ => rfl).trans ?_
      rintro _ ⟨-, rfl⟩
      have hread := ih (List.cons_ne_nil m path) hothers (earlier ++ [n]) [] List.mem_cons_self
      rwa [List.append_assoc] at hread

theorem reaches_open (done : List Block) {gap : List Char} (hgap : gap ∈ [[], ['\n']])
    (rest : List Char) :
    Reaches ⟨done, .outside⟩ (gap ++ '(' :: rest) (· = ⟨done, .themeVar⟩) rest := by
  simp only [List.mem_cons, List.not_mem_nil, or_false] at hgap
  rcases hgap with rfl | rfl <;>
    exact reaches_token_eq _ ⟨_, _, rest⟩ rfl rfl fun _ => rfl

theorem reaches_signature {sig : Signature} (hsig : sig.Writable) (done : List Block)
    {gap : List Char} (hgap : gap ∈ [[], ['\n']]) (rest : List Char) :
    Reaches ⟨done, .outside⟩ (gap ++ (Canonical.signature sig ++ ' ' :: rest))
      (fun r' => ∃ found : Signature, found.unlocated = sig.unlocated ∧
        r' = ⟨done, .body found⟩) (' ' :: rest) := by
  obtain ⟨path, hne, hpath, htype⟩ := hsig.themeType
  have hlist : sig.themeType.toList = ['.'].intercalate path := by
    rw [htype, Reader.dotted, String.toList_ofList]
  rw [Canonical.signature, hlist]
  simp only [List.append_assoc, List.cons_append]
  refine (reaches_open done hgap _).trans ?_
  rintro _ rfl
  refine (reaches_name _ rfl [] (by simp) hsig.themeVar (by simp; rfl)
    fun _ => rfl).trans ?_
  rintro _ ⟨loc, rfl⟩
  refine (reaches_token _ ⟨.colon, [':'], _⟩ rfl rfl fun _ => rfl).trans ?_
  rintro _ ⟨-, rfl⟩
  refine (reaches_path done _ hne hpath [] [' '] (by simp) _).trans ?_
  rintro _ rfl
  refine (reaches_token _ ⟨.closeParen, [')'], _⟩ rfl rfl fun _ => rfl).trans ?_
  rintro _ ⟨-, rfl⟩
  refine (reaches_token _ ⟨.arrow, ['-', '>'], _⟩ rfl rfl fun _ => rfl).trans ?_
  rintro _ ⟨-, rfl⟩
  refine (reaches_name _ rfl [' '] (by simp) hsig.resultType (by simp; rfl)
    fun _ => rfl).mono ?_
  rintro _ ⟨-, rfl⟩
  exact ⟨_, by simp [Signature.unlocated, htype], rfl⟩

/-- A block that is a style, apart from locations. -/
def IsStyle (s : Style) (b : Block) : Prop :=
  ∃ found, styleOf b = .ok found ∧ found.unlocated = s.unlocated

theorem isStyle_mk {s : Style} {sig : Signature} (hsig : sig.unlocated = s.signature.unlocated)
    {items : List Item} (hitems : List.Forall₂ IsRule s.rules items) : IsStyle s ⟨sig, items⟩ := by
  obtain ⟨found, hfound, hmap⟩ := membersOf_rules hitems
  refine ⟨⟨sig, found⟩, ?_, by rw [Style.unlocated, Style.unlocated, hsig, hmap]⟩
  rw [styleOf, hfound]
  simp only [bind, Except.bind, onlyRules_map]
  rfl

theorem reaches_style {s : Style} (hs : s.Writable) (done : List Block) {gap : List Char}
    (hgap : gap ∈ [[], ['\n']]) (rest : List Char) :
    Reaches ⟨done, .outside⟩ (gap ++ (Canonical.style s ++ rest))
      (fun r' => ∃ b, IsStyle s b ∧ r' = ⟨done ++ [b], .outside⟩) rest := by
  rw [Canonical.style, Canonical.rules_eq_map, Canonical.body]
  simp only [List.append_assoc, List.cons_append, List.nil_append]
  refine (reaches_signature hs.signature done hgap _).trans ?_
  rintro _ ⟨sig, hsig, rfl⟩
  refine (reaches_token _ ⟨.openBrace, ['{'], _⟩ rfl rfl fun _ => rfl).trans ?_
  rintro _ ⟨-, rfl⟩
  refine (reaches_items (reads_writableAll s.rules hs.rules) done _ rest).mono ?_
  rintro _ ⟨items, hitems, rfl⟩
  rw [addAll_block, List.append_nil, Reader.close, List.reverse_reverse]
  exact ⟨_, isStyle_mk hsig hitems, rfl⟩

/-- The blocks of a canonical source are read one by one, up to its end. -/
theorem readFrom_source {styles : List Style} (hstyles : ∀ s ∈ styles, s.Writable)
    (done : List Block) (hne : done ≠ [] ∨ styles ≠ []) {gap : List Char}
    (hgap : gap ∈ [[], ['\n']]) (last here : Location) :
    ∃ blocks, List.Forall₂ IsStyle styles blocks ∧
      readFrom ⟨done, .outside⟩ last here
        (gap ++ styles.flatMap fun s => Canonical.style s ++ ['\n']) = .ok (done ++ blocks) := by
  induction styles generalizing done gap last here with
  | nil =>
    have hend : splitGap false (gap ++ []) = (gap, []) := by
      simp only [List.mem_cons, List.not_mem_nil, or_false] at hgap
      rcases hgap with rfl | rfl <;> rfl
    have hfinished : Reader.isFinished ⟨done, .outside⟩ := by
      simpa [Reader.isFinished] using hne
    exact ⟨[], .nil, by rw [List.append_nil]; exact readFrom_end last here hend hfinished⟩
  | cons s styles ih =>
    obtain ⟨hs, hothers⟩ := List.forall_mem_cons.1 hstyles
    rw [List.flatMap_cons, List.append_assoc]
    obtain ⟨r', last', here', ⟨b, hb, rfl⟩, hread⟩ := reaches_style hs done hgap _ last here
    obtain ⟨blocks, hblocks, hrest⟩ := ih hothers (done ++ [b]) (.inl (by simp))
      (List.mem_cons_of_mem [] List.mem_cons_self) last' here'
    refine ⟨b :: blocks, .cons hb hblocks, ?_⟩
    rw [hread, hrest, List.append_assoc, List.singleton_append]

theorem styleOf_of_isStyle {styles : List Style} {blocks : List Block}
    (h : List.Forall₂ IsStyle styles blocks) :
    ∃ found, blocks.mapM styleOf = .ok found ∧
      found.map Style.unlocated = styles.map Style.unlocated := by
  simp only [mapM_eq_ok]
  induction h with
  | nil => exact ⟨[], .nil, rfl⟩
  | cons hfirst _ ih =>
    obtain ⟨s, hs, heq⟩ := hfirst
    obtain ⟨found, hfound, hmap⟩ := ih
    exact ⟨s :: found, .cons hs hfound, by rw [List.map_cons, heq, hmap, List.map_cons]⟩

/-- Reading the canonical source of style blocks gives the blocks back, all but their locations. -/
theorem parse_canonical {styles : List Style} (hne : styles ≠ [])
    (hstyles : ∀ s ∈ styles, s.Writable) :
    (parseStyles (Canonical.source styles)).map (List.map Style.unlocated) =
      .ok (styles.map Style.unlocated) := by
  obtain ⟨blocks, hblocks, hread⟩ := readFrom_source hstyles [] (.inr hne) List.mem_cons_self
    Location.start Location.start
  have houtline : outline (Canonical.source styles).toList = .ok blocks := by
    rw [Canonical.source, String.toList_ofList]
    exact hread
  obtain ⟨found, hfound, hmap⟩ := styleOf_of_isStyle hblocks
  rw [map_eq_ok]
  exact ⟨found, by rw [parseStyles, houtline]; exact hfound, hmap⟩

/-- An entry whose texts are full of quotes, braces and line ends. -/
def sharpEntry : Entry where
  property := "say \"\\\n\""
  value := "f(\"\x7d, \x7b\", x=1) if not t.on else [1, # one\n -2.5e3]"

theorem captured_sharpEntry : Captured sharpEntry.value :=
  ⟨⟨{}, [.plain (.ofIdentifier "a" (some ⟨1, 3⟩)) [⟨"p", sharpEntry.value, some ⟨1, 7⟩⟩]]⟩,
    by decide +kernel, by decide +kernel⟩

/-- Two blocks, one with rules in rules and one with none. -/
def thorny : List Style := [
  ⟨{ themeVar := "t", themeType := "ui.Theme", resultType := "Card" }, [
    .plain { parts := [.raw "div", .classname "box", .raw "[x=\"\x7b\"]"] } [
      sharpEntry, { sharpEntry with property := "" }],
    .nested { parts := [.raw "@media (a)"], isAtRule := true } [
      .plain (.ofIdentifier "leaf" none) [],
      .nested { parts := [.raw "@b"], isAtRule := true } []]]⟩,
  ⟨{}, []⟩]

theorem thorny_writable : ∀ s ∈ thorny, s.Writable := by
  have hbox : Header.Written { parts := [.raw "div", .classname "box", .raw "[x=\"\x7b\"]"] } :=
    .inr ⟨"div.box[x=\"\x7b\"]", none, by decide +kernel⟩
  have hmedia : Header.Written { parts := [.raw "@media (a)"], isAtRule := true } :=
    .inr ⟨" @media (a)\n", none, by decide +kernel⟩
  have hleaf : Header.Written (.ofIdentifier "leaf" none) :=
    .inl ⟨"leaf", by decide, List.all_eq_true.1 (by decide), none, rfl⟩
  have hb : Header.Written { parts := [.raw "@b"], isAtRule := true } :=
    .inr ⟨"@b", none, by decide +kernel⟩
  have hpath : ∃ path, path ≠ [] ∧ (∀ n ∈ path, IsName n) ∧ "ui.Theme" = Reader.dotted path :=
    ⟨["ui".toList, "Theme".toList], by decide, by decide, by decide⟩
  have hdefault : Signature.Writable {} :=
    ⟨by decide, ⟨["EmptyTheme".toList], by decide, by decide, by decide⟩, by decide⟩
  have hentries : ∀ e ∈ [sharpEntry, { sharpEntry with property := "" }], Captured e.value := by
    simp [captured_sharpEntry]
  have hrules : Rule.WritableAll [
      .plain (.ofIdentifier "leaf" none) [],
      .nested { parts := [.raw "@b"], isAtRule := true } []] :=
    ⟨⟨hleaf, rfl, List.forall_mem_nil _⟩, ⟨hb, rfl, trivial⟩, trivial⟩
  simp only [thorny, List.forall_mem_cons]
  exact ⟨⟨⟨by decide, hpath, by decide⟩, ⟨hbox, rfl, hentries⟩, ⟨hmedia, rfl, hrules⟩, trivial⟩,
    ⟨hdefault, trivial⟩, List.forall_mem_nil _⟩

theorem parse_canonical_thorny :
    thorny ≠ [] ∧ (∀ s ∈ thorny, s.Writable) ∧
      (parseStyles (Canonical.source thorny)).map (List.map Style.unlocated) =
        .ok (thorny.map Style.unlocated) :=
  have hne : thorny ≠ [] := List.cons_ne_nil _ _
  ⟨hne, thorny_writable, parse_canonical hne thorny_writable⟩

end ScopedCss

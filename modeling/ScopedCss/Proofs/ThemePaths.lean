import ScopedCss.Proofs.ReorderedAccess

/-!
Paths into the data of a mapping theme. Objects are wrapped one step at a time, when they are read
from an object that is wrapped itself; lists come out as they are, with plain objects in them. Main
statement: a path leads to the value that stands at its end in the data, and as long as it has met
no list the members of an object at its end can be read in both ways.
-/
namespace ScopedCss

/-- A step of a path. -/
inductive Access where
  /-- An attribute. -/
  | field (name : String)
  | item (key : Text)
  | index (i : Int)
deriving DecidableEq, Repr

namespace Access

/-! ### Paths -/

def isIndex : Access → Bool
  | .index _ => true
  | _ => false

/-- Where a step leads in data. Indices are machine words, and negative ones count from the end. -/
def follow? : Access → Json → Option Json
  | .field name, .object ms => ms.lookup (name : Text)
  | .item key, .object ms => ms.lookup key
  | .index i, .list items =>
    if i < -2 ^ 63 ∨ 2 ^ 63 ≤ i then none
    else if i < 0 then items.reverse[(-i - 1).toNat]?
    else items[i.toNat]?
  | _, _ => none

/-- Where a path leads in data. -/
def followAll? : List Access → Json → Option Json
  | [], j => some j
  | a :: path, j => (a.follow? j).bind (followAll? path)

/-- What a step reads from a value. -/
def read (v : Value) : Access → Except EvalError Value
  | .field name => v.attributeOf name
  | .item key => v.subscript (.text key)
  | .index i => v.subscript (.int i)

/-- What a path reads from a value. -/
def readAll : List Access → Value → Except EvalError Value
  | [], v => .ok v
  | a :: path, v => a.read v >>= readAll path

/-- Names under which a mapping theme shows its members as attributes: its one public method has
another name, and so has all that is private. -/
def Shown (name : String) : Prop := name ≠ "fast_cmp" ∧ name.toList.head? ≠ some '_'

instance (name : String) : Decidable (Shown name) := inferInstanceAs (Decidable (_ ∧ _))

/-- Paths whose attributes are those of mapping themes. Behind an index there are none, as the
objects in a list are not wrapped. -/
def Passable (wrapped : Bool) : List Access → Prop
  | [] => True
  | .field name :: path => wrapped = true ∧ Shown name ∧ Passable wrapped path
  | .item _ :: path => Passable wrapped path
  | .index _ :: path => Passable false path

/-! ### One step -/

/-- A value shows data: as it is, or as it comes out of a mapping theme, or as the theme itself. -/
inductive Shows : Bool → Json → Value → Prop where
  | theme (ms : Members) : Shows true (.object ms) (.theme (.mapping ms))
  | wrapped (j : Json) : Shows true j (.wrap j)
  | plain (j : Json) : Shows false j (.ofJson j)

/-- Data as it comes out of an object that is wrapped or not. -/
def shown (wrapped : Bool) (j : Json) : Value := if wrapped then .wrap j else .ofJson j

theorem shows_shown (wrapped : Bool) (j : Json) : Shows wrapped j (shown wrapped j) := by
  cases wrapped with
  | true => exact .wrapped j
  | false => exact .plain j

theorem member_text (ms : Members) {key : Text} {j : Json} (h : ms.lookup key = some j) :
    Value.member ms (.text key) = .ok j := by
  simp only [Value.member, Value.unhashable?, h]

/-- Members are items of their object, wrapped or not. -/
theorem Shows.subscript_text {wrapped : Bool} {ms : Members} {v : Value} {key : Text} {j : Json}
    (h : Shows wrapped (.object ms) v) (hfound : ms.lookup key = some j) :
    v.subscript (.text key) = .ok (shown wrapped j) := by
  cases h <;> exact congrArg (Except.map _) (member_text ms hfound)

theorem mappingAttribute_of_shown {name : String} (h : Shown name) (v : Value) {ms : Members}
    {j : Json} (hfound : ms.lookup (name : Text) = some j) :
    v.mappingAttribute ms name = .ok (.wrap j) := by
  obtain ⟨hother, hfirst⟩ := h
  have hunhidden {hidden : String} (hunderscored : hidden.toList.head? = some '_') :
      name ≠ hidden := by
    rintro rfl
    exact hfirst hunderscored
  have hnamed : ¬ ["fast_cmp", "_wrap", "__init__", "__getattr__", "__getitem__",
      "__repr__"].contains name = true := by
    simp only [List.contains_iff_mem, List.mem_cons, List.not_mem_nil, or_false, not_or]
    exact ⟨hother, hunhidden rfl, hunhidden rfl, hunhidden rfl, hunhidden rfl, hunhidden rfl⟩
  have hcommon : ¬ Value.isSpecial name = true := by
    intro hspecial
    obtain ⟨behind, hwritten⟩ := List.isPrefixOf_iff_prefix.1 (Bool.and_eq_true_iff.1 hspecial).1
    exact hfirst (by rw [← hwritten]; rfl)
  rw [Value.mappingAttribute, if_neg hnamed, if_neg (hunhidden rfl), if_neg (hunhidden rfl),
    if_neg (hunhidden rfl), if_neg hcommon, if_neg hfirst, hfound]

/-- Members of a wrapped object are its attributes too. -/
theorem Shows.attributeOf {ms : Members} {v : Value} {name : String} {j : Json}
    (h : Shows true (.object ms) v) (hfree : Shown name)
    (hfound : ms.lookup (name : Text) = some j) :
    v.attributeOf name = .ok (.wrap j) := by
  cases h <;> exact mappingAttribute_of_shown hfree _ hfound

/-- An index that leads to an item of a list means the place of the item. -/
theorem position_of_follow? {items : List Json} {i : Int} {j : Json}
    (hfound : follow? (.index i) (.list items) = some j) :
    ∃ k, Value.position .list items.length (.int i) = .ok k ∧ items[k]? = some j := by
  simp only [follow?] at hfound
  split at hfound
  · cases hfound
  · rename_i hbounded
    have hsmall : ¬ (i ≥ Int.pow 2 63 ∨ i < -Int.pow 2 63) := by
      rw [or_comm]
      exact hbounded
    simp only [Value.position, Value.integer?, if_neg hsmall]
    split at hfound
    · rename_i hnegative
      have hinside : (-i - 1).toNat < items.length := by
        simpa using (List.getElem?_eq_some_iff.1 hfound).1
      rw [List.getElem?_reverse hinside] at hfound
      refine ⟨items.length - 1 - (-i - 1).toNat, ?_, hfound⟩
      rw [if_pos hnegative, if_pos (by omega)]
      exact congrArg Except.ok (by omega)
    · rename_i hpositive
      have hinside := (List.getElem?_eq_some_iff.1 hfound).1
      refine ⟨i.toNat, ?_, hfound⟩
      rw [if_neg hpositive, if_pos (by omega)]

/-- The items of a list come out as plain data. -/
theorem Shows.subscript_int {wrapped : Bool} {items : List Json} {v : Value} {i : Int} {j : Json}
    (h : Shows wrapped (.list items) v) (hfound : follow? (.index i) (.list items) = some j) :
    v.subscript (.int i) = .ok (.ofJson j) := by
  obtain ⟨k, hposition, hhere⟩ := position_of_follow? hfound
  have hitem : Value.nth .list (Value.ofItems items) (.int i) = .ok (.ofJson j) := by
    rw [Value.nth, Value.Reordered.ofItems_eq_map, List.length_map, hposition]
    refine congrArg Except.ok ?_
    rw [List.getD_eq_getElem?_getD, List.getElem?_map, hhere]
    rfl
  cases h <;> exact hitem

/-- A step reads what stands in the data where it leads. What is read behind an index is plain. -/
theorem Shows.read {wrapped : Bool} {j j' : Json} {v : Value} {a : Access} {path : List Access}
    (h : Shows wrapped j v) (hpassable : Passable wrapped (a :: path))
    (hleads : a.follow? j = some j') :
    ∃ v', a.read v = .ok v' ∧ Shows (wrapped && !a.isIndex) j' v' ∧
      Passable (wrapped && !a.isIndex) path := by
  cases a with
  | field name =>
    obtain ⟨rfl, hfree, hothers⟩ := hpassable
    cases j with
    | object ms => exact ⟨_, h.attributeOf hfree hleads, .wrapped j', hothers⟩
    | _ => cases hleads
  | item key =>
    cases j with
    | object ms =>
      simp only [isIndex, Bool.not_false, Bool.and_true]
      exact ⟨_, h.subscript_text hleads, shows_shown wrapped j', hpassable⟩
    | _ => cases hleads
  | index i =>
    cases j with
    | list items =>
      simp only [isIndex, Bool.not_true, Bool.and_false]
      exact ⟨_, h.subscript_int hleads, .plain j', hpassable⟩
    | _ => cases hleads

/-! ### Whole paths -/

/-- A path reads what stands in the data where it leads. -/
theorem Shows.readAll {wrapped : Bool} {j j' : Json} {v : Value} {path : List Access}
    (h : Shows wrapped j v) (hpassable : Passable wrapped path)
    (hleads : followAll? path j = some j') :
    ∃ v', Access.readAll path v = .ok v' ∧ Shows (wrapped && path.all (!·.isIndex)) j' v' := by
  induction path generalizing wrapped j v with
  | nil =>
    cases hleads
    rw [List.all_nil, Bool.and_true]
    exact ⟨v, rfl, h⟩
  | cons a path ih =>
    obtain ⟨next, hfirst, hrest⟩ := Option.bind_eq_some_iff.1 hleads
    obtain ⟨u, hread, hshows', hothers⟩ := h.read hpassable hfirst
    obtain ⟨v', hdone, hends⟩ := ih hshows' hothers hrest
    refine ⟨v', ?_, ?_⟩
    · rw [Access.readAll, hread]
      exact hdone
    · rwa [List.all_cons, ← Bool.and_assoc]

end Access

/-- Paths from a mapping theme to objects in its data, at any depth. A path that meets no list ends
at an object whose members can be read as items and, if their names are shown, as attributes, and
both ways give the member, wrapped again if it is an object. A path through a list ends at a plain
object, whose members are its items as they are. Keys are any texts; the names of attributes are
written in sources, so they have no halves of surrogate pairs. -/
theorem nested_data_readable {data members : Members} {path : List Access}
    (hpassable : Access.Passable true path)
    (hleads : Access.followAll? path (.object data) = some (.object members)) :
    ∃ v, Access.readAll path (.theme (.mapping data)) = .ok v ∧
      ((∀ a ∈ path, a.isIndex = false) → ∀ (key : Text) (j : Json),
        members.lookup key = some j → v.subscript (.text key) = .ok (.wrap j) ∧
          ∀ name : String, key = name → Access.Shown name → v.attributeOf name = .ok (.wrap j)) ∧
      ((∃ a ∈ path, a.isIndex = true) → ∀ (key : Text) (j : Json),
        members.lookup key = some j → v.subscript (.text key) = .ok (.ofJson j)) := by
  obtain ⟨v, hread, hends⟩ := (Access.Shows.theme data).readAll hpassable hleads
  refine ⟨v, hread, fun hunlisted key j hfound => ?_, fun hlisted key j hfound => ?_⟩
  · have hwrapped : path.all (!·.isIndex) = true := by
      simpa [List.all_eq_true] using hunlisted
    rw [hwrapped] at hends
    refine ⟨hends.subscript_text hfound, ?_⟩
    rintro name rfl hfree
    exact hends.attributeOf hfree hfound
  · have hplain : path.all (!·.isIndex) = false := by
      simpa [List.all_eq_false] using hlisted
    rw [hplain] at hends
    exact hends.subscript_text hfound

/-- Data with objects below objects and, inside lists of lists, below lists. -/
def deepData : Members := [
  ("palette", .object [("_own", .object [("ink", .object [("main", .text "red")])])]),
  ("rows", .list [.list [], .list [.null, .object [("keys", .object [("n", .int 1)])]]])]

/-- A path that uses both ways, across a member that no attribute shows, and one through two lists,
counted from the end. -/
theorem nested_data_readable_deep :
    let across : List Access := [.field "palette", .item "_own"]
    let listed : List Access := [.field "rows", .index (-1), .index 1, .item "keys"]
    (Access.Passable true across ∧ ∃ v,
      Access.readAll across (.theme (.mapping deepData)) = .ok v ∧
        v.attributeOf "ink" = .ok (.view [("main", .text "red")]) ∧
        v.subscript (.text "ink") = .ok (.view [("main", .text "red")])) ∧
    Access.Passable true listed ∧ ∃ v,
      Access.readAll listed (.theme (.mapping deepData)) = .ok v ∧
        v.subscript (.text "n") = .ok (.int 1) := by
  intro across listed
  have hfirst : Access.Passable true across := ⟨rfl, by decide, trivial⟩
  have hsecond : Access.Passable true listed := ⟨rfl, by decide, trivial⟩
  obtain ⟨v, hread, hboth, -⟩ := @nested_data_readable deepData
    [("ink", .object [("main", .text "red")])] across hfirst rfl
  obtain ⟨w, hreads, -, hitems⟩ := @nested_data_readable deepData [("n", .int 1)] listed hsecond rfl
  obtain ⟨hitem, hfield⟩ := hboth (by decide) "ink" _ rfl
  refine ⟨⟨hfirst, v, hread, hfield "ink" rfl (by decide), hitem⟩, hsecond, w, hreads, ?_⟩
  exact hitems ⟨.index 1, by decide, rfl⟩ "n" _ rfl

/-- Not every member can be read in both ways. An object in a list is a plain one and has no
attribute for its member, and a member that is called as the method of the theme is hidden by it; as
items both can be read. -/
theorem members_not_shown :
    (let data : Members := [("a", .list [.object [("b", .int 1)]])]
      let path : List Access := [.item "a", .index 0]
      Access.followAll? path (.object data) = some (.object [("b", .int 1)]) ∧
        ∃ v, Access.readAll path (.theme (.mapping data)) = .ok v ∧
          v.subscript (.text "b") = .ok (.int 1) ∧
          v.attributeOf "b" = .error (.noAttribute "dict" "b")) ∧
    let theme : Value := .theme (.mapping [("fast_cmp", .int 1)])
    theme.subscript (.text "fast_cmp") = .ok (.int 1) ∧
      theme.attributeOf "fast_cmp" = .ok (.method theme "fast_cmp") :=
  ⟨⟨rfl, _, rfl, rfl, rfl⟩, rfl, rfl⟩

end ScopedCss

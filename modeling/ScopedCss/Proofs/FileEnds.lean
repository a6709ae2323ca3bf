import ScopedCss.Files
import ScopedCss.Proofs.Outcomes

/-!
Text behind the end of a file, and new files in the place of old ones. Only files change by it and
no folders, so every name leads where it led before. Main statements: a file that can be read can be
opened, and whatever is added to it is read behind what was read before; a file that was replaced
once can be replaced for good, and the new text is read.
-/
namespace ScopedCss

/-- A node with more text, if it is the file of a number. -/
def Node.more (number : Nat) (text : String) : Node → Node
  | .file n (some old) => .file n (some (if n = number then old ++ text else old))
  | node => node

namespace Files

variable (fs : Files) (number : Nat) (text : String)

theorem nodes_append : (fs.append number text).nodes =
    fs.nodes.map fun entry => (entry.1, entry.2.more number text) := by
  refine List.map_congr_left fun entry _ => ?_
  obtain ⟨path, node⟩ := entry
  cases node with
  | folder => rfl
  | file n old => cases old <;> rfl

theorem nodeAt_append (here : Option Path) :
    (fs.append number text).nodeAt here = (fs.nodeAt here).map (Node.more number text) := by
  cases here with
  | none => rfl
  | some path =>
    rw [nodeAt, nodeAt, node?, node?, nodes_append]
    split
    · rfl
    · induction fs.nodes with
      | nil => rfl
      | cons entry nodes ih =>
        rw [List.map_cons, List.lookup_cons, List.lookup_cons, ih]
        split <;> rfl

theorem follow_append (here : Option Path) (ps : List String) :
    (fs.append number text).follow here ps = fs.follow here ps := by
  induction ps generalizing here with
  | nil => rfl
  | cons p ps ih =>
    simp only [follow, nodeAt_append, ih]
    refine bind_congr fun next => ?_
    cases fs.nodeAt next with
    | none => rfl
    | some node =>
      cases node with
      | folder => rfl
      | file n old => cases old <;> rfl

theorem resolve_append (name : String) :
    (fs.append number text).resolve name = fs.resolve name := by
  simp only [resolve, follow_append]

variable {fs} {name old : String}

theorem find_of_read (h : fs.read name = .ok old) :
    ∃ number, fs.find name = .ok (.file number (some old)) := by
  obtain ⟨node, hfound, h⟩ := bind_eq_ok.1 h
  cases node with
  | folder => cases h
  | file number text =>
    cases text with
    | none => cases h
    | some text =>
      cases h
      exact ⟨number, hfound⟩

theorem find_append (name : String) :
    (fs.append number text).find name = (fs.find name).map (Node.more number text) := by
  rw [find, find, resolve_append]
  cases fs.resolve name with
  | error e => rfl
  | ok here =>
    simp only [bind, Except.bind, nodeAt_append]
    cases fs.nodeAt here <;> rfl

theorem filePath_append (name : String) :
    (fs.append number text).filePath name = fs.filePath name := by
  rw [filePath, filePath, resolve_append]
  refine bind_congr fun here => ?_
  cases here with
  | none => rfl
  | some path =>
    have hsame := fs.nodeAt_append number text (some path)
    dsimp only [nodeAt] at hsame ⊢
    rw [hsame]
    cases fs.node? path with
    | none => rfl
    | some node =>
      cases node with
      | folder => rfl
      | file n kept => cases kept <;> rfl

/-- A file that can be read can be opened as it is. -/
theorem openEnd_of_find {kept : Option String} (h : fs.find name = .ok (.file number kept)) :
    fs.openEnd name = .ok (fs, number) := by
  obtain ⟨here, hresolved, h⟩ := bind_eq_ok.1 h
  cases here with
  | none => cases h
  | some path =>
    have hfound : fs.node? path = some (.file number kept) := by
      rw [nodeAt] at h
      cases hnode : fs.node? path with
      | none =>
        rw [hnode] at h
        cases h
      | some other =>
        rw [hnode] at h
        cases h
        rfl
    simp only [openEnd, filePath, hresolved, hfound, bind, Except.bind, pure, Except.pure]

/-- What is added to an open file is read behind what was read before. -/
theorem openEnd_of_read (h : fs.read name = .ok old) :
    ∃ number, fs.openEnd name = .ok (fs, number) ∧
      ∀ text, (fs.append number text).read name = .ok (old ++ text) := by
  obtain ⟨number, hfound⟩ := find_of_read h
  refine ⟨number, openEnd_of_find number hfound, fun text => ?_⟩
  rw [read, find_append, hfound]
  simp only [Except.map, Node.more, if_true]
  rfl

/-! ### Replacing -/

/-- A file is made where no folder is, so every folder is still there. -/
theorem nodeAt_make_of_folder {path : Path} {here : Option Path}
    (hfree : fs.node? path ≠ some .folder) (hfolder : fs.nodeAt here = some .folder) :
    (fs.make path text).nodeAt here = some .folder := by
  cases here with
  | none => rfl
  | some other =>
    have hdiffer : other ≠ path := fun hsame => hfree (hsame ▸ hfolder)
    rw [nodeAt, node?] at hfolder ⊢
    split
    · rfl
    · rename_i hnonempty
      rw [if_neg hnonempty] at hfolder
      rw [make, put, List.lookup_cons, beq_eq_false_iff_ne.2 hdiffer, lookup_filter_ne hdiffer]
      exact hfolder

theorem follow_make {path : Path} (hfree : fs.node? path ≠ some .folder)
    {here next : Option Path} {ps : List String} (h : fs.follow here ps = .ok next) :
    (fs.make path text).follow here ps = .ok next := by
  induction ps generalizing here with
  | nil => exact h
  | cons p ps ih =>
    rw [follow] at h ⊢
    obtain ⟨down, hdescended, h⟩ := bind_eq_ok.1 h
    rw [hdescended]
    show (if ps.isEmpty then pure down else _) = _
    split at h
    · rename_i hlast
      rw [if_pos hlast]
      exact h
    · rename_i hmore
      rw [if_neg hmore]
      cases hfound : fs.nodeAt down with
      | none =>
        rw [hfound] at h
        cases h
      | some other =>
        rw [hfound] at h
        cases other with
        | folder =>
          rw [nodeAt_make_of_folder text hfree hfound]
          exact ih h
        | file number kept => cases h

theorem resolve_make {path : Path} (hfree : fs.node? path ≠ some .folder)
    {here : Option Path} (h : fs.resolve name = .ok here) :
    (fs.make path text).resolve name = .ok here := by
  rw [resolve] at h ⊢
  split at h
  · cases h
  · rename_i hvalid
    rw [if_neg hvalid]
    split at h
    · cases h
    · rename_i hshort
      rw [if_neg hshort]
      exact follow_make text hfree h

/-- What a name leads to that a file can be made under. -/
theorem filePath_eq_ok {path : Path} {there : Option Nat}
    (h : fs.filePath name = .ok (path, there)) :
    fs.resolve name = .ok (some path) ∧ fs.node? path ≠ some .folder := by
  obtain ⟨here, hresolved, h⟩ := bind_eq_ok.1 h
  cases here with
  | none => cases h
  | some own =>
    dsimp only at h
    cases hfound : fs.node? own with
    | none =>
      rw [hfound] at h
      cases h
      exact ⟨hresolved, by rw [hfound]; exact nofun⟩
    | some node =>
      rw [hfound] at h
      cases node with
      | folder => cases h
      | file number kept =>
        cases h
        exact ⟨hresolved, by rw [hfound]; exact nofun⟩

/-- A file with a text that can be replaced. -/
def Holds (fs : Files) (name text : String) : Prop :=
  fs.read name = .ok text ∧ ∃ next, fs.replace name "" = .ok next

/-- Whether a file can be replaced does not depend on the new text. -/
theorem replace_eq_ok {text : String} {next : Files} (h : fs.replace name text = .ok next) :
    ∃ path there, fs.filePath name = .ok (path, there) ∧ next = fs.make path text ∧
      ¬ ((path.getLast?).getD "").utf8ByteSize + draftMarks > maxPart := by
  obtain ⟨⟨path, there⟩, hplace, h⟩ := bind_eq_ok.1 h
  dsimp only at h
  by_cases hlong : ((path.getLast?).getD "").utf8ByteSize + draftMarks > maxPart
  · rw [if_pos hlong] at h
    cases h
  · rw [if_neg hlong] at h
    cases h
    exact ⟨path, there, hplace, rfl, hlong⟩

theorem replace_of_short {path : Path} {there : Option Nat}
    (hplace : fs.filePath name = .ok (path, there))
    (hshort : ¬ ((path.getLast?).getD "").utf8ByteSize + draftMarks > maxPart) (text : String) :
    fs.replace name text = .ok (fs.make path text) := by
  rw [replace, hplace]
  show (if _ then _ else _) = _
  rw [if_neg hshort]
  rfl

/-- A new file is read under its name, and it can be replaced in turn. -/
theorem holds_of_replace {text : String} {next : Files} (h : fs.replace name text = .ok next) :
    next.Holds name text := by
  obtain ⟨path, there, hplace, rfl, hshort⟩ := replace_eq_ok h
  obtain ⟨hresolved, hfree⟩ := filePath_eq_ok hplace
  have hnonempty : path.isEmpty = false := by
    cases path with
    | nil => exact absurd rfl hfree
    | cons p ps => rfl
  have hnow : (fs.make path text).resolve name = .ok (some path) := resolve_make _ hfree hresolved
  have hthere : (fs.make path text).node? path = some (.file fs.made (some text)) := by
    rw [node?, hnonempty, make, put, List.lookup_cons, beq_self_eq_true]
    rfl
  constructor
  · simp only [read, find, hnow, nodeAt, hthere, bind, Except.bind, pure, Except.pure]
  · have hagain : (fs.make path text).filePath name = .ok (path, some fs.made) := by
      simp only [filePath, hnow, hthere, bind, Except.bind, pure, Except.pure]
    exact ⟨_, replace_of_short hagain hshort ""⟩

theorem Holds.replace {fs : Files} (h : fs.Holds name old) (text : String) :
    ∃ next, fs.replace name text = .ok next ∧ next.Holds name text := by
  obtain ⟨-, next, h⟩ := h
  obtain ⟨path, there, hplace, -, hshort⟩ := replace_eq_ok h
  have hreplaced := replace_of_short hplace hshort text
  exact ⟨_, hreplaced, holds_of_replace hreplaced⟩

/-- More text in a file leaves it in its place. -/
theorem Holds.append {fs : Files} (h : fs.Holds name old) :
    ∃ number, fs.openEnd name = .ok (fs, number) ∧
      ∀ text, (fs.append number text).Holds name (old ++ text) := by
  obtain ⟨hread, next, hreplaced⟩ := h
  obtain ⟨number, hopened, hmore⟩ := openEnd_of_read hread
  refine ⟨number, hopened, fun text => ⟨hmore text, ?_⟩⟩
  obtain ⟨path, there, hplace, -, hshort⟩ := replace_eq_ok hreplaced
  rw [← filePath_append number text] at hplace
  exact ⟨_, replace_of_short hplace hshort ""⟩

end Files
end ScopedCss

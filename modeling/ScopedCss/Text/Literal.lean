import ScopedCss.Text.Basic
import ScopedCss.Text.Digits

/-!
Reading quoted text. Between quotes a backslash starts an escape: a letter for a control character,
up to three octal digits, or `x`, `u` and `U` with two, four and eight hexadecimal digits. At the
end of a line it joins the line to the next one. Before any other character, and at the end of the
text, it stands for itself.
-/
namespace ScopedCss.Text

/-- The control characters that have a letter. -/
def control? : Char → Option Char
  | 'a' => some '\x07'
  | 'b' => some '\x08'
  | 'f' => some '\x0c'
  | 'n' => some '\n'
  | 'r' => some '\r'
  | 't' => some '\t'
  | 'v' => some '\x0b'
  | _ => none

/-- How many hexadecimal digits follow a letter. -/
def hexWidth? : Char → Option Nat
  | 'x' => some 2
  | 'u' => some 4
  | 'U' => some 8
  | _ => none

/-- One escape behind its backslash: the letters it stands for and the rest. Escapes by name are not
known. -/
def escape? : List Char → Option (List Letter × List Char)
  | [] => none
  | c :: r =>
    if c = '\x5c' ∨ c = '\x27' ∨ c = '\x22' then some ([.char c], r)
    else if c = '\n' ∨ c = '\r' then some ([], r)
    else if isOctal c then
      let more := (r.take 2).takeWhile isOctal
      some ([.char (Char.ofNat (octalNumber (c :: more)))], r.drop more.length)
    else match control? c, hexWidth? c with
      | some d, _ => some ([.char d], r)
      | none, some width =>
        if r.length < width then none
        else ((hexNumber? (r.take width)).bind Letter.ofCode?).map fun d => ([d], r.drop width)
      | none, none => if c = 'N' then none else some ([.char '\x5c', .char c], r)

theorem escape?_length {cs : List Char} {p : List Letter × List Char} (h : escape? cs = some p) :
    p.2.length < cs.length := by
  unfold escape? at h
  split at h
  · simp at h
  · split at h
    · simp at h; simp [← h]
    · split at h
      · simp at h; simp [← h]
      · split at h
        · simp only [Option.some.injEq] at h
          simp only [← h, List.length_drop, List.length_cons]
          omega
        · split at h
          · simp at h; simp [← h]
          · split at h
            · simp at h
            · obtain ⟨d, _, rfl⟩ := Option.map_eq_some_iff.1 h
              simp only [List.length_drop, List.length_cons]
              omega
          · split at h
            · simp at h
            · simp at h; simp [← h]

/-- The letters that stand between quotes. -/
def unescape (cs : List Char) : Option (List Letter) :=
  match cs with
  | [] => some []
  | ['\x5c'] => some [.char '\x5c']
  | '\x5c' :: r =>
    match _h : escape? r with
    | none => none
    | some p => (unescape p.2).map (p.1 ++ ·)
  | c :: r => (unescape r).map (.char c :: ·)
termination_by cs.length
decreasing_by
  · have := escape?_length _h
    simp only [List.length_cons]
    omega
  · simp

end ScopedCss.Text

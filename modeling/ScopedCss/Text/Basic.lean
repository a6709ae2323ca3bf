/-!
Texts as expressions make them. An escape can ask for half of a surrogate pair alone, which is no
character, so a text is a row of letters: characters and such halves. It is kept as runs of
characters with the halves between them, and a text without halves is a plain string.
-/
namespace ScopedCss

/-- The halves of surrogate pairs, in order. -/
abbrev Half := Fin 0x800

namespace Half

/-- The code point of the first half. -/
def first : Nat := 0xD800

def code (h : Half) : Nat := first + h.val

def ofCode? (n : Nat) : Option Half :=
  if h : first ≤ n ∧ n < first + 0x800 then some ⟨n - first, by omega⟩ else none

@[simp] theorem ofCode?_code (h : Half) : ofCode? (code h) = some h := by
  simp [ofCode?, code]

end Half

/-- What a text is made of. -/
inductive Letter where
  | char (c : Char)
  | half (h : Half)
deriving DecidableEq, Repr

namespace Letter

def code : Letter → Nat
  | .char c => c.toNat
  | .half h => Half.code h

/-- The letter of a code point; what is no code point is refused. -/
def ofCode? (n : Nat) : Option Letter :=
  match Half.ofCode? n with
  | some h => some (.half h)
  | none => if n < 0x110000 then some (.char (Char.ofNat n)) else none

end Letter

structure Text where
  /-- The characters before the first half. -/
  front : String
  /-- The halves, each with the characters behind it. -/
  rest : List (Half × String) := []
deriving DecidableEq, Repr, Inhabited

namespace Text

def ofString (s : String) : Text := ⟨s, []⟩

instance : Coe String Text := ⟨ofString⟩

/-- The string that a text without halves is. Only such a text can be written to a file. -/
def toString? (t : Text) : Option String := if t.rest.isEmpty then some t.front else none

@[simp] theorem toString?_ofString (s : String) : (ofString s).toString? = some s := rfl

/-! ### Letters -/

def runLetters (s : String) : List Letter := s.toList.map .char

def letters (t : Text) : List Letter :=
  runLetters t.front ++ t.rest.flatMap fun p => .half p.1 :: runLetters p.2

/-- One more letter before a first run and those behind it. -/
def consLetter (l : Letter) (runs : List Char × List (Half × List Char)) :
    List Char × List (Half × List Char) :=
  match l with
  | .char c => (c :: runs.1, runs.2)
  | .half h => ([], (h, runs.1) :: runs.2)

def ofLetters (ls : List Letter) : Text :=
  let (front, rest) := ls.foldr consLetter ([], [])
  ⟨String.ofList front, rest.map fun p => (p.1, String.ofList p.2)⟩

theorem letters_ofLetters (ls : List Letter) : (ofLetters ls).letters = ls := by
  induction ls with
  | nil => rfl
  | cons l ls ih =>
    cases l <;>
      simpa [ofLetters, letters, runLetters, consLetter, List.flatMap_map] using ih

@[simp] theorem letters_ofString (s : String) : (ofString s).letters = s.toList.map .char := by
  simp [ofString, letters, runLetters]

def length (t : Text) : Nat := t.rest.foldl (fun n p => n + 1 + p.2.length) t.front.length

def isEmpty (t : Text) : Bool := t.rest.isEmpty && t.front.isEmpty

def contains (t : Text) (c : Char) : Bool :=
  t.front.toList.contains c || t.rest.any fun p => p.2.toList.contains c

/-- The order of texts by the code points of their letters. -/
def compare (a b : Text) : Ordering :=
  compareOfLessAndEq (a.letters.map Letter.code) (b.letters.map Letter.code)

/-! ### Joining -/

/-- Runs with a text behind the last one. -/
def glue : List (Half × String) → Text → List (Half × String)
  | [], t => t.rest
  | [(h, s)], t => (h, s ++ t.front) :: t.rest
  | p :: q :: r, t => p :: glue (q :: r) t

def append (a b : Text) : Text :=
  match a with
  | ⟨front, []⟩ => ⟨front ++ b.front, b.rest⟩
  | ⟨front, rest⟩ => ⟨front, glue rest b⟩

instance : Append Text := ⟨append⟩

@[simp] theorem ofString_append (a b : String) :
    ofString a ++ ofString b = ofString (a ++ b) := rfl

theorem glue_letters (p : Half × String) (r : List (Half × String)) (t : Text) :
    (glue (p :: r) t).flatMap (fun q => .half q.1 :: runLetters q.2) =
      (p :: r).flatMap (fun q => .half q.1 :: runLetters q.2) ++ t.letters := by
  induction r generalizing p with
  | nil => simp [glue, letters, runLetters]
  | cons q r ih => simpa [glue] using ih q

theorem letters_append (a b : Text) : (a ++ b).letters = a.letters ++ b.letters := by
  obtain ⟨front, rest⟩ := a
  cases rest with
  | nil =>
    show letters ⟨front ++ b.front, b.rest⟩ = _
    simp [letters, runLetters]
  | cons p r =>
    show letters ⟨front, glue (p :: r) b⟩ = _
    rw [letters, glue_letters, ← List.append_assoc]
    rfl

def join (ts : List Text) : Text := ofLetters (ts.flatMap letters)

theorem letters_join (ts : List Text) : (join ts).letters = ts.flatMap letters :=
  letters_ofLetters _

/-- Changes the runs of characters; the halves stay where they are. -/
def mapRuns (f : List Char → List Char) (t : Text) : Text :=
  let run (s : String) : String := String.ofList (f s.toList)
  ⟨run t.front, t.rest.map fun p => (p.1, run p.2)⟩

end Text
end ScopedCss

/-!
Lines of a text. A display line ends at any of the vertical characters, and a carriage return
with the line feed after it is one end. Reading a file turns every carriage return, alone or
before a line feed, into a line feed.
-/
namespace ScopedCss.Text

def isLineEnd (c : Char) : Bool :=
  let code := c.toNat
  (0x0A ≤ code && code ≤ 0x0D) || (0x1C ≤ code && code ≤ 0x1E) || code == 0x85 || code == 0x2028 ||
    code == 0x2029

/-- The lines of a text, each with the characters that end it. -/
def keptLines : List Char → List (List Char)
  | [] => []
  | '\r' :: '\n' :: r => ['\r', '\n'] :: keptLines r
  | c :: r =>
    if isLineEnd c then [c] :: keptLines r
    else match keptLines r with
      | [] => [[c]]
      | l :: ls => (c :: l) :: ls

/-- The lines of a text without the characters that end them. -/
def lines (cs : List Char) : List (List Char) :=
  (keptLines cs).map fun l => l.takeWhile fun c => !isLineEnd c

/-- Every line end that has a carriage return becomes one line feed. -/
def unifyNewlines : List Char → List Char
  | [] => []
  | '\r' :: '\n' :: r => '\n' :: unifyNewlines r
  | c :: r => (if c = '\r' then '\n' else c) :: unifyNewlines r

/-- No character is lost or moved between the lines. -/
theorem keptLines_flatten (cs : List Char) : (keptLines cs).flatten = cs := by
  fun_induction keptLines cs with
  | case1 => rfl
  | case2 r ih => simp [ih]
  | case3 c r _ _ ih => simp [ih]
  | case4 c r _ _ h ih => rw [h] at ih; simp [← ih]
  | case5 c r _ _ l ls h ih => rw [h] at ih; simp [← ih]

end ScopedCss.Text

/-!
Blank space around a text. The blanks are the Unicode white-space characters together with the
four information separators; the zero-width space and the byte-order mark are not blank.
-/
namespace ScopedCss.Text

def isBlank (c : Char) : Bool :=
  let code := c.toNat
  (0x09 ≤ code && code ≤ 0x0D) || (0x1C ≤ code && code ≤ 0x20) || code == 0x85 || code == 0xA0 ||
    code == 0x1680 || (0x2000 ≤ code && code ≤ 0x200A) || code == 0x2028 || code == 0x2029 ||
    code == 0x202F || code == 0x205F || code == 0x3000

/-- Drops the blanks at the end. -/
def trimEnd (cs : List Char) : List Char := (cs.reverse.dropWhile isBlank).reverse

/-- Drops the blanks at both ends and keeps those inside. -/
def trim (cs : List Char) : List Char := trimEnd (cs.dropWhile isBlank)

end ScopedCss.Text

/-! Rows of digits as numbers. -/
namespace ScopedCss.Text

/-- How many digits a whole number may have to be read or written. -/
def maxDigits : Nat := 4300

/-- The number that a row of decimal digits writes. -/
def decimalNumber (ds : List Char) : Nat := ds.foldl (fun n d => n * 10 + (d.toNat - 0x30)) 0

/-- The value of a hexadecimal digit of either case. -/
def hexValue? (c : Char) : Option Nat :=
  if c.isDigit then some (c.toNat - 0x30)
  else if 'a' ≤ c ∧ c ≤ 'f' then some (c.toNat - 0x57)
  else if 'A' ≤ c ∧ c ≤ 'F' then some (c.toNat - 0x37)
  else none

/-- The value of a row of hexadecimal digits. -/
def hexNumber? (ds : List Char) : Option Nat :=
  ds.foldlM (fun n d => (hexValue? d).map (n * 16 + ·)) 0

def isOctal (c : Char) : Bool := '0' ≤ c && c ≤ '7'

def octalNumber (ds : List Char) : Nat := ds.foldl (fun n d => n * 8 + (d.toNat - 0x30)) 0

end ScopedCss.Text

/-
# ASCII letters and digits

Names of canvas kinds, themes and formats are compared up to the case of the
twenty-six ASCII letters.  Letters outside ASCII keep their case.  Hexadecimal
digits have letters of either case.
-/

namespace CanvasPress.Text

/-- Lower the case of the ASCII letters of a string. -/
def lowerAscii (s : String) : String :=
  String.ofList (s.toList.map Char.toLower)

/-- Equality up to the case of ASCII letters. -/
def sameAscii (s t : String) : Bool :=
  lowerAscii s == lowerAscii t

/-- An ASCII letter or digit. -/
def isAsciiAlphanumeric (c : Char) : Bool :=
  c.isAlpha || c.isDigit

/-- The value of a hexadecimal digit of either case. -/
def hexValue? (c : Char) : Option Nat :=
  if c.isDigit then some (c.toNat - 48)
  else if 'a' ≤ c ∧ c ≤ 'f' then some (c.toNat - 87)
  else if 'A' ≤ c ∧ c ≤ 'F' then some (c.toNat - 55)
  else none

end CanvasPress.Text

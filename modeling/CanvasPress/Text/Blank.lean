/-
# Blank characters, trimming and words

A character is blank when it has the Unicode property `White_Space`.  The same
class governs trimming, placeholder padding and the collapsing of whitespace,
so it is defined once here.  `words` cuts a text at its runs of blanks and is
the view in which whitespace-insensitive statements are made.
-/

namespace CanvasPress.Text

/-- The Unicode property `White_Space`. -/
def isBlank (c : Char) : Bool :=
  let n := c.toNat
  (9 ≤ n && n ≤ 13) || n = 0x20 || n = 0x85 || n = 0xA0 || n = 0x1680 ||
    (0x2000 ≤ n && n ≤ 0x200A) || n = 0x2028 || n = 0x2029 || n = 0x202F ||
    n = 0x205F || n = 0x3000

/-- Drop the blanks in front of a text. -/
def trimLeft (s : List Char) : List Char :=
  s.dropWhile isBlank

/-- Drop the blanks behind a text. -/
def trimRight (s : List Char) : List Char :=
  (trimLeft s.reverse).reverse

/-- Drop the blanks on both sides of a text. -/
def trimList (s : List Char) : List Char :=
  trimRight (trimLeft s)

/-- Drop the blanks on both sides of a string. -/
def trim (s : String) : String :=
  String.ofList (trimList s.toList)

/-- A string of blanks only, the empty one included. -/
def isBlankText (s : String) : Bool :=
  s.toList.all isBlank

/-- The maximal runs of non-blank characters, in order. -/
def words : List Char → List (List Char)
  | [] => []
  | c :: rest =>
    if isBlank c then words rest
    else
      match rest, words rest with
      | [], _ => [[c]]
      | d :: _, ws =>
        if isBlank d then [c] :: ws
        else
          match ws with
          | [] => [[c]]
          | w :: more => (c :: w) :: more

end CanvasPress.Text

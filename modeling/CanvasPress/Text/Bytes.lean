/-
# Texts measured in bytes

Some lengths are counted in the bytes of the UTF-8 form.  A text can be cut
after a number of bytes only where a character ends.
-/

import CanvasPress.Text.Number
import CanvasPress.Text.Quoted

namespace CanvasPress.Text

/-- The number of bytes of a text. -/
def byteLength : List Char → Nat
  | [] => 0
  | c :: rest => c.utf8Size + byteLength rest

/-- The first `n` bytes of a text, if a character ends there. -/
def takeBytes? : Nat → List Char → Option (List Char)
  | 0, _ => some []
  | _ + 1, [] => none
  | n + 1, c :: rest =>
    if c.utf8Size ≤ n + 1 then (takeBytes? (n + 1 - c.utf8Size) rest).map (c :: ·) else none

/-- The character that the byte at an offset belongs to, with the offsets where
it begins and ends. -/
def charAtByte? (offset : Nat) : Nat → List Char → Option (Char × Nat × Nat)
  | _, [] => none
  | start, c :: rest =>
    if offset < start + c.utf8Size then some (c, start, start + c.utf8Size)
    else charAtByte? offset (start + c.utf8Size) rest

/-- A character between single quotes, as messages show it. -/
def quotedChar (c : Char) : String :=
  if c = '\'' then "'\\''"
  else if c = '"' then "'\"'"
  else "'" ++ String.ofList (quoteChar c) ++ "'"

/-- The report of a cut behind the given number of bytes that would split a
character. -/
def splitReport (offset : Nat) (s : String) : String :=
  match charAtByte? offset 0 s.toList with
  | some (c, start, stop) =>
    "end byte index " ++ decimal offset ++ " is not a char boundary; it is inside " ++
      quotedChar c ++ " (bytes " ++ decimal start ++ ".." ++ decimal stop ++ " of string)"
  | none => "end byte index " ++ decimal offset ++ " is out of bounds for string of length " ++
      decimal (byteLength s.toList)

end CanvasPress.Text

/-
# Squeezing whitespace out of markup

`squeeze` is the only pass over markup before it is delivered: each run of
blanks becomes one space, a space between two tags disappears, and the ends are
trimmed.  It does not parse the markup.  `joinWords` states the result word by
word: two neighbouring words stand together when the first ends a tag and the
second begins one, and otherwise have one space between them.
-/

import CanvasPress.Text.Blank

namespace CanvasPress.Text

/-- Replace each run of blanks by one space. -/
def collapse : List Char → List Char
  | [] => []
  | c :: rest =>
    if isBlank c then
      if (rest.head?.map isBlank).getD false then collapse rest
      else ' ' :: collapse rest
    else c :: collapse rest

/-- Drop a single space between the end of a tag and the beginning of one. -/
def joinTags : List Char → List Char
  | '>' :: ' ' :: '<' :: rest => '>' :: joinTags ('<' :: rest)
  | c :: rest => c :: joinTags rest
  | [] => []

/-- Collapse blanks, join neighbouring tags and trim. -/
def squeezeList (s : List Char) : List Char :=
  trimList (joinTags (collapse s))

/-- Collapse blanks, join neighbouring tags and trim. -/
def squeeze (s : String) : String :=
  String.ofList (squeezeList s.toList)

/-- What stands between two neighbouring words of squeezed markup. -/
def wordGap (left right : List Char) : List Char :=
  if left.getLast? = some '>' ∧ right.head? = some '<' then [] else [' ']

/-- Write words one after the other with their gaps. -/
def joinWords : List (List Char) → List Char
  | [] => []
  | [w] => w
  | w :: v :: rest => w ++ wordGap w v ++ joinWords (v :: rest)

end CanvasPress.Text

/-
# Links inside drawings

An element is pointed to by its identity behind a hash, alone or as the argument
of a function.
-/

import CanvasPress.Markup.Scan

namespace CanvasPress.Drawing.Link

open Markup (afterWord? isSpace skipSpace)

/-- The identity that a text points to. -/
def ofText? (s : String) : Option String :=
  match skipSpace s.toList with
  | '#' :: rest =>
    let identity := rest.takeWhile fun c => c ≠ ' '
    if (skipSpace (rest.dropWhile fun c => c ≠ ' ')).isEmpty && !identity.isEmpty then
      some (String.ofList identity)
    else none
  | _ => none

/-- The identity that a function in front of a text points to, and what stands
behind the function. -/
def readFunction? (s : List Char) : Option (String × List Char) := do
  let s ← afterWord? "url(" (skipSpace s)
  let s := skipSpace s
  let (quote, s) : Option Char × List Char :=
    match s with
    | '"' :: rest => (some '"', rest)
    | '\'' :: rest => (some '\'', rest)
    | s => (none, s)
  let s ← afterWord? "#" (skipSpace s)
  let isEnd (c : Char) : Bool :=
    match quote with
    | some q => c = q
    | none => c = ' ' || c = ')'
  let identity := s.takeWhile fun c => !isEnd c
  let s := s.dropWhile fun c => !isEnd c
  let s := if quote.isSome then s.drop 1 else s
  match skipSpace s with
  | ')' :: rest => if identity.isEmpty then none else some (String.ofList identity, rest)
  | _ => none

/-- The identity that a function points to. -/
def ofFunction? (s : String) : Option String := do
  let (identity, rest) ← readFunction? s.toList
  if (skipSpace rest).isEmpty then some identity else none

end CanvasPress.Drawing.Link

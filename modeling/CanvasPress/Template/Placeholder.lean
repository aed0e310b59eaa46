/-
# Placeholders in template text

A placeholder is a name between double braces, with blanks allowed around the
name.  `scan` cuts a text into characters and placeholders; `fill` replaces the
placeholders whose names are known, in one pass, so that inserted text is never
scanned again.  `leftovers` looks more broadly for anything between double
braces that still stands in a finished text.
-/

import CanvasPress.Text.Ascii
import CanvasPress.Text.Blank

namespace CanvasPress.Template

open Text

/-- The characters of names. -/
def isNameChar (c : Char) : Bool :=
  isAsciiAlphanumeric c || c = '_' || c = '.' || c = '-'

/-- The name of a placeholder at the front of a text, and the text behind it. -/
def placeholder? (s : List Char) : Option (List Char × List Char) :=
  match s with
  | '\x7b' :: '\x7b' :: inside =>
    let padded := inside.dropWhile isBlank
    let name := padded.takeWhile isNameChar
    match (padded.dropWhile isNameChar).dropWhile isBlank with
    | '\x7d' :: '\x7d' :: rest => if name.isEmpty then none else some (name, rest)
    | _ => none
  | _ => none

theorem length_dropWhile_le {α : Type} (p : α → Bool) (s : List α) :
    (s.dropWhile p).length ≤ s.length :=
  (List.dropWhile_sublist p).length_le

/-- What stands behind a placeholder is shorter than the text it begins. -/
theorem length_lt_of_placeholder? {s name rest : List Char}
    (found : placeholder? s = some (name, rest)) : rest.length < s.length := by
  unfold placeholder? at found
  split at found
  · rename_i inside
    simp only at found
    split at found
    · rename_i tail heq
      split at found
      · cases found
      · simp only [Option.some.injEq, Prod.mk.injEq] at found
        obtain ⟨-, rfl⟩ := found
        have behind := length_dropWhile_le isBlank
          ((inside.dropWhile isBlank).dropWhile isNameChar)
        have middle := length_dropWhile_le isNameChar (inside.dropWhile isBlank)
        have front := length_dropWhile_le isBlank inside
        rw [heq] at behind
        simp only [List.length_cons] at behind ⊢
        omega
    · cases found
  · cases found

/-- An element of scanned text. -/
inductive Token where
  | char (c : Char)
  /-- A placeholder: its name, and the text it was written as. -/
  | placeholder (name source : List Char)
deriving DecidableEq

/-- Cut a text into characters and placeholders, from left to right. -/
def scan (s : List Char) : List Token :=
  match s with
  | [] => []
  | c :: more =>
    match _found : placeholder? (c :: more) with
    | some (name, rest) =>
      .placeholder name ((c :: more).take ((c :: more).length - rest.length)) :: scan rest
    | none => .char c :: scan more
termination_by s.length
decreasing_by
  · exact length_lt_of_placeholder? (by assumption)
  · simp

/-- A token with known placeholders replaced by their values. -/
def Token.fill (value? : String → Option String) : Token → List Char
  | .char c => [c]
  | .placeholder name source =>
    match value? (String.ofList name) with
    | some value => value.toList
    | none => source

/-- Replace every known placeholder of a text; all else stays. -/
def fill (value? : String → Option String) (s : List Char) : List Char :=
  (scan s).flatMap (Token.fill value?)

/-- Text between double braces at the front of a text, without braces inside:
the text in full, and what stands behind it. -/
def leftover? (s : List Char) : Option (List Char × List Char) :=
  match s with
  | '\x7b' :: '\x7b' :: inside =>
    let isOther (c : Char) : Bool := c != '\x7b' && c != '\x7d'
    match inside.dropWhile isOther with
    | '\x7d' :: '\x7d' :: rest =>
      some ('\x7b' :: '\x7b' :: inside.takeWhile isOther ++ ['\x7d', '\x7d'], rest)
    | _ => none
  | _ => none

/-- What stands behind a leftover is shorter than the text it begins. -/
theorem length_lt_of_leftover? {s source rest : List Char}
    (found : leftover? s = some (source, rest)) : rest.length < s.length := by
  unfold leftover? at found
  split at found
  · rename_i inside
    simp only at found
    split at found
    · rename_i tail heq
      simp only [Option.some.injEq, Prod.mk.injEq] at found
      obtain ⟨-, rfl⟩ := found
      have front := length_dropWhile_le (fun c => c != '\x7b' && c != '\x7d') inside
      rw [heq] at front
      simp only [List.length_cons] at front ⊢
      omega
    · cases found
  · cases found

/-- Everything between double braces that stands in a text, in order. -/
def leftovers (s : List Char) : List (List Char) :=
  match s with
  | [] => []
  | c :: more =>
    match _found : leftover? (c :: more) with
    | some (source, rest) => source :: leftovers rest
    | none => leftovers more
termination_by s.length
decreasing_by
  · exact length_lt_of_leftover? (by assumption)
  · simp

/-- The placeholders that a finished text still holds. -/
def unresolved (text : String) : List String :=
  (leftovers text.toList).map String.ofList

end CanvasPress.Template

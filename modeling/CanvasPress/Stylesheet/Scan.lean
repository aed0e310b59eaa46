/-
# Scanning stylesheets

The parts that selectors and declarations share: blanks, comments, identifiers
and strings.  A step that fails tells where it stopped, since reading goes on
from there.
-/

import CanvasPress.Markup.Scan

namespace CanvasPress.Stylesheet

open Markup (afterWord?)

/-- The white space of stylesheets. -/
def isBlank (c : Char) : Bool :=
  c = ' ' || c = '\t' || c = '\n' || c = '\r' || c = '\x0c'

/-- Skip white space. -/
def skipBlank (s : List Char) : List Char :=
  s.dropWhile isBlank

/-- Skip the rest of a comment. -/
def skipComment? : List Char → Option (List Char)
  | '*' :: '/' :: rest => some rest
  | _ :: rest => skipComment? rest
  | [] => none

/-- Skip white space and comments; there are no more comments than characters. -/
def skipPause? : (fuel : Nat) → List Char → Option (List Char)
  | 0, s => some s
  | fuel + 1, s =>
    match afterWord? "/*" (skipBlank s) with
    | some rest => (skipComment? rest).bind (skipPause? fuel)
    | none => some (skipBlank s)

/-- Skip white space and comments. -/
def skipGap? (s : List Char) : Option (List Char) :=
  skipPause? s.length s

/-- A character that may begin an identifier. -/
def isIdentStart (c : Char) : Bool :=
  c = '_' || c.isAlpha || 237 < c.toNat

/-- A character that an identifier may hold. -/
def isIdentChar (c : Char) : Bool :=
  isIdentStart c || c.isDigit || c = '-'

/-- A part that was read, or not, and the text behind it. -/
structure Found (α : Type) where
  part : Option α
  rest : List Char

/-- Split off an identifier, which may have a hyphen in front. -/
def splitIdent (s : List Char) : Found String :=
  let (front, body) : List Char × List Char :=
    match s with
    | '-' :: body => (['-'], body)
    | body => ([], body)
  match body with
  | [] => ⟨if front.isEmpty then none else some "-", []⟩
  | c :: _ =>
    if isIdentStart c then
      ⟨some (String.ofList (front ++ body.takeWhile isIdentChar)), body.dropWhile isIdentChar⟩
    else ⟨none, body⟩

/-- The text up to a closing quote, which a backslash in front makes part of the
text, and the text behind; the text so far is in reverse. -/
def splitToQuote (quote : Char) : (before : Char) → List Char → List Char → Found String
  | _, _, [] => ⟨none, []⟩
  | before, seen, c :: rest =>
    if c = quote ∧ before ≠ '\\' then ⟨some (String.ofList seen.reverse), rest⟩
    else splitToQuote quote c (c :: seen) rest

/-- Split off a text in quotes, or an identifier. -/
def splitString (s : List Char) : Found String :=
  match s with
  | quote :: rest =>
    if quote = '"' ∨ quote = '\'' then splitToQuote quote quote [] rest else splitIdent s
  | [] => ⟨none, []⟩

end CanvasPress.Stylesheet

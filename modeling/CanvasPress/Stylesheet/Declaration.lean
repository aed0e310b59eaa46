/-
# Declarations

A declaration gives a property a value, which is the text of some terms, and may
say that it is important.  Declarations are read until one cannot be.
-/

import CanvasPress.Stylesheet.Scan
import CanvasPress.Text.Blank

namespace CanvasPress.Stylesheet

open Markup (afterWord?)

/-- A property with its value. -/
structure Declaration where
  name : String
  value : String
  isImportant : Bool
deriving DecidableEq, Inhabited

/-- Skip a unit or a percent sign behind a number. -/
def skipUnit (s : List Char) : List Char :=
  match s with
  | '%' :: rest => rest
  | s => (splitIdent s).rest

/-- Skip the digits, the fraction and the unit of a number. -/
def skipNumber (s : List Char) : List Char :=
  match s.dropWhile Char.isDigit with
  | '.' :: rest => skipUnit (rest.dropWhile Char.isDigit)
  | rest => skipUnit rest

/-- Whether a number begins. -/
def beginsNumber (s : List Char) : Bool :=
  s.head?.any fun c => c.isDigit || c = '.'

/-- Skip a word, with its arguments if it is a function. -/
def skipWord (s : List Char) : Found Unit :=
  let word := splitIdent s
  match word.part, word.rest with
  | none, rest => ⟨none, rest⟩
  | some _, '(' :: rest =>
    match rest.dropWhile (· ≠ ')') with
    | _ :: behind => ⟨some (), behind⟩
    | [] => ⟨none, []⟩
  | some _, rest => ⟨some (), rest⟩

/-- Skip a term of a value. -/
def skipTerm (s : List Char) : Found Unit :=
  match s with
  | [] => ⟨none, []⟩
  | '#' :: rest =>
    let word := splitIdent rest
    match word.part with
    | some _ => ⟨some (), word.rest⟩
    | none =>
      let isHex (c : Char) : Bool := c.isDigit || ('a' ≤ c && c ≤ 'f') || ('A' ≤ c && c ≤ 'F')
      ⟨some (), rest.dropWhile isHex⟩
  | '+' :: rest => ⟨some (), skipNumber rest⟩
  | '-' :: rest => if beginsNumber rest then ⟨some (), skipNumber rest⟩ else skipWord s
  | ',' :: rest => ⟨some (), rest⟩
  | c :: _ =>
    if beginsNumber s then ⟨some (), skipNumber s⟩
    else if c = '"' ∨ c = '\'' then
      let text := splitString s
      ⟨text.part.map fun _ => (), text.rest⟩
    else skipWord s

/-- The number of characters of the terms in front of a text, the last term
included, and where reading stopped.  Each term takes a character at least. -/
def skipTerms : (fuel : Nat) → (start : Nat) → (stop : Nat) → List Char → Nat × List Char
  | 0, _, stop, s => (stop, s)
  | fuel + 1, start, stop, s =>
    let term := skipTerm s
    match term.part with
    | none => (stop, term.rest)
    | some _ =>
      let stop := start - term.rest.length
      match skipGap? term.rest with
      | some rest => skipTerms fuel start stop rest
      | none => (stop, term.rest)

/-- Skip the mark of an important declaration. -/
def splitImportant? (s : List Char) : Option (Bool × List Char) :=
  match s with
  | '!' :: rest =>
    (skipGap? rest).map fun rest =>
      match afterWord? "important" rest with
      | some rest => (true, rest)
      | none => (false, rest)
  | s => some (false, s)

/-- Skip semicolons with white space behind them. -/
def skipSemicolons? : (fuel : Nat) → List Char → Option (List Char)
  | 0, s => some s
  | fuel + 1, s =>
    match s with
    | ';' :: rest => (skipGap? rest).bind (skipSemicolons? fuel)
    | s => some s

/-- The declaration in front of a text.  What is left behind one that cannot be
read is not looked at. -/
def splitDeclaration? (s : List Char) : Option (Declaration × List Char) := do
  let s ← skipGap? s
  let s := match s with
    | '*' :: rest => rest
    | s => s
  let word := splitIdent s
  let name ← word.part
  let s ← skipGap? word.rest
  let s ← afterWord? ":" s
  let s ← skipGap? s
  let (length, rest) := skipTerms s.length s.length 0 s
  let value := Text.trim (String.ofList (s.take length))
  let s ← skipGap? rest
  let (isImportant, s) ← splitImportant? s
  let s ← skipGap? s
  let s ← skipSemicolons? s.length s
  if value.isEmpty then none else some (⟨name, value, isImportant⟩, s)

/-- The declarations in front of a text, up to a closing brace, and whether all
could be read.  Each takes a character at least. -/
def splitDeclarations : (fuel : Nat) → List Char → List Declaration × Bool × List Char
  | 0, s => ([], true, s)
  | fuel + 1, s =>
    match s with
    | [] => ([], true, [])
    | '}' :: rest => ([], true, '}' :: rest)
    | s =>
      match splitDeclaration? s with
      | some (d, rest) =>
        let (more, whole, rest) := splitDeclarations fuel rest
        (d :: more, whole, rest)
      | none => ([], false, s)

/-- The declarations that a text writes, up to the first that cannot be read. -/
def declarations (s : String) : List Declaration :=
  (splitDeclarations s.length s.toList).1

end CanvasPress.Stylesheet

/-
# Numbers in the text of drawings

A number is decimal, with an optional sign, fraction and exponent, and in range.
Numbers in a list are separated by white space, and each may have one comma
behind it.
-/

import CanvasPress.Drawing.Scalar
import CanvasPress.Markup.Scan

namespace CanvasPress.Drawing

open Markup (isSpace skipSpace)

/-- The value of decimal digits. -/
def digitsValue (digits : List Char) : Nat :=
  digits.foldl (fun n c => 10 * n + (c.toNat - 48)) 0

/-- A number times a power of ten. -/
def timesTen (x : Rat) (e : Int) : Rat :=
  if 0 ≤ e then x * tenTo e.toNat else x / tenTo (-e).toNat

/-- Split off leading digits. -/
def splitDigits (s : List Char) : List Char × List Char :=
  (s.takeWhile Char.isDigit, s.dropWhile Char.isDigit)

/-- Split off a sign; it tells whether the number is negative. -/
def splitSign : List Char → Bool × List Char
  | '-' :: rest => (true, rest)
  | '+' :: rest => (false, rest)
  | s => (false, s)

/-- The greatest size of an exponent that is taken at its word. -/
def maxExponent : Nat := 2000

/-- Split off an exponent; the `e` of a unit does not begin one. -/
def splitExponent? : List Char → Option (Int × List Char)
  | [] => some (0, [])
  | e :: rest =>
    if e ≠ 'e' ∧ e ≠ 'E' then some (0, e :: rest)
    else
      match rest with
      | [] => none
      | c :: _ =>
        if c = 'm' ∨ c = 'x' then some (0, e :: rest)
        else
          let (negative, behind) := splitSign rest
          let (digits, behind) := splitDigits behind
          if digits.isEmpty then none
          else
            let n : Int := (min maxExponent (digitsValue digits) : Nat)
            some (if negative then -n else n, behind)

/-- A number in front of a text, white space in front of it skipped. -/
def readNumber? (s : List Char) : Option (Rat × List Char) := do
  let (negative, rest) := splitSign (skipSpace s)
  let (whole, rest) := splitDigits rest
  let (places, rest) :=
    match rest with
    | '.' :: behind => splitDigits behind
    | behind => ([], behind)
  if whole.isEmpty && places.isEmpty then none
  else
    let (e, behind) ← splitExponent? rest
    let x := Precision.double.nearest
      (timesTen (digitsValue (whole ++ places) : Nat) (e - places.length))
    if Precision.double.isFinite x then some (if negative then -x else x, behind) else none

/-- Skip white space and a comma behind it. -/
def skipComma (s : List Char) : List Char :=
  match skipSpace s with
  | ',' :: rest => rest
  | rest => rest

/-- A number of a list and what separates it from the next. -/
def readListed? (s : List Char) : Option (Rat × List Char) :=
  (readNumber? s).map fun (x, rest) => (x, skipComma rest)

/-- So many numbers of a list in front of a text. -/
def readNumbers? : Nat → List Char → Option (List Rat × List Char)
  | 0, s => some ([], s)
  | n + 1, s => do
    let (x, rest) ← readListed? s
    let (xs, rest) ← readNumbers? n rest
    return (x :: xs, rest)

/-- The numbers of a list up to the first fault; `fuel` bounds them. -/
def readAll : (fuel : Nat) → List Char → List Rat
  | 0, _ => []
  | fuel + 1, s =>
    match readListed? s with
    | some (x, rest) => x :: readAll fuel rest
    | none => []

end CanvasPress.Drawing

/-
# Transforms in the text of drawings

A transform is written as a list of moves, of which the last is applied first.
The moves are composed in double precision before the result is rounded to the
precision of coordinates.
-/

import CanvasPress.Drawing.Number
import CanvasPress.Drawing.Transform

namespace CanvasPress.Drawing

open Markup (afterWord? skipSpace)

/-- The number nearest to an exact one in double precision. -/
def rounded (x : Rat) : Rat :=
  Precision.double.nearest x

/-- A map of the plane in double precision, its coefficients column by column. -/
structure Move where
  a : Rat
  b : Rat
  c : Rat
  d : Rat
  e : Rat
  f : Rat
deriving DecidableEq, Inhabited

namespace Move

/-- The map that leaves every point where it is. -/
def identity : Move :=
  ⟨1, 0, 0, 1, 0, 0⟩

/-- A shift. -/
def shift (x y : Rat) : Move :=
  ⟨1, 0, 0, 1, x, y⟩

/-- The map that applies `inner` and then `outer`. -/
def after (outer inner : Move) : Move :=
  let sum (a b c d : Rat) : Rat := rounded (rounded (a * b) + rounded (c * d))
  ⟨sum outer.a inner.a outer.c inner.b, sum outer.b inner.a outer.d inner.b,
    sum outer.a inner.c outer.c inner.d, sum outer.b inner.c outer.d inner.d,
    rounded (sum outer.a inner.e outer.c inner.f + outer.e),
    rounded (sum outer.b inner.e outer.d inner.f + outer.f)⟩

/-- The number of radians in a degree. -/
def degree : Rat :=
  rounded (17453292519943295 / tenTo 18)

/-- The direction of an angle in degrees. -/
def direction (degrees : Rat) : Direction :=
  .ofAngle (rounded (degrees * degree))

/-- A rotation about the origin. -/
def rotation (degrees : Rat) : Move :=
  let t := direction degrees
  let sine := rounded t.sine
  let cosine := rounded t.cosine
  ⟨cosine, sine, -sine, cosine, 0, 0⟩

/-- The slope of an angle. -/
def slope (degrees : Rat) : Rat :=
  let t := direction degrees
  rounded (t.sine / t.cosine)

/-- The transform nearest to a map. -/
def toTransform (m : Move) : Transform :=
  ⟨.ofRat m.a, .ofRat m.b, .ofRat m.c, .ofRat m.d, .ofRat m.e, .ofRat m.f⟩

/-- A number that may be missing in front of the closing bracket. -/
def readOptional? (missing : Rat) (s : List Char) : Option (Rat × List Char) :=
  match skipSpace s with
  | ')' :: rest => some (missing, ')' :: rest)
  | s => readListed? s

/-- The arguments of a rotation: an angle, and the point that stays if it is not
the origin. -/
def readRotation? (s : List Char) : Option (Move × List Char) := do
  let (angle, s) ← readListed? s
  match skipSpace s with
  | ')' :: rest => return (rotation angle, ')' :: rest)
  | s => do
    let (x, s) ← readListed? s
    let (y, s) ← readListed? s
    return (((shift x y).after (rotation angle)).after (shift (-x) (-y)), s)

/-- The arguments of a move with a name. -/
def readArguments? (name : String) (s : List Char) : Option (Move × List Char) :=
  match name with
  | "matrix" =>
    match readNumbers? 6 s with
    | some ([a, b, c, d, e, f], s) => some (⟨a, b, c, d, e, f⟩, s)
    | _ => none
  | "translate" => do
    let (x, s) ← readListed? s
    let (y, s) ← readOptional? 0 s
    return (shift x y, s)
  | "scale" => do
    let (x, s) ← readListed? s
    let (y, s) ← readOptional? x s
    return (⟨x, 0, 0, y, 0, 0⟩, s)
  | "rotate" => readRotation? s
  | "skewX" => (readListed? s).map fun (angle, s) => (⟨1, 0, slope angle, 1, 0, 0⟩, s)
  | "skewY" => (readListed? s).map fun (angle, s) => (⟨1, slope angle, 0, 1, 0, 0⟩, s)
  | _ => none

/-- A move in front of a text, and a comma behind it. -/
def read? (s : List Char) : Option (Move × List Char) := do
  let isName (c : Char) : Bool := c.isAlphanum || c = '-' || c = '_'
  let name := String.ofList (s.takeWhile isName)
  let s ← afterWord? "(" (skipSpace (s.dropWhile isName))
  let (move, s) ← readArguments? name s
  let s ← afterWord? ")" (skipSpace s)
  return (move, skipComma s)

/-- The moves of a list in one, behind those before.  There are no more moves than
characters. -/
def readAll? : (fuel : Nat) → Move → List Char → Option Move
  | 0, before, _ => some before
  | fuel + 1, before, s =>
    match skipSpace s with
    | [] => some before
    | s => do
      let (move, rest) ← read? s
      readAll? fuel (before.after move) rest

end Move

/-- The transform that a text writes. -/
def Transform.ofText? (s : String) : Option Transform :=
  (Move.readAll? s.length .identity s.toList).map Move.toTransform

end CanvasPress.Drawing

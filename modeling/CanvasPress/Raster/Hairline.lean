/-
# Hairlines

A hairline is drawn pixel by pixel along the axis that it follows more closely.
At each pixel of that axis it lies between the middles of two pixels across,
and covers each of the two in the measure in which it is near.  Where a line
begins and ends, both parts are scaled by how much of the pixel it reaches.
-/

import CanvasPress.Raster.Coverage

namespace CanvasPress.Raster

open Drawing

/-- A line that is drawn as a hairline: along its main axis from one point to
another, and its position across. -/
structure Hairline where
  /-- Whether the main axis is the horizontal one. -/
  isLevel : Bool
  /-- Both ends along the main axis, in 64ths of a pixel. -/
  source : Int
  target : Int
  /-- The position across at the first pixel, in 65536ths. -/
  across : Int
  /-- How far the position moves from pixel to pixel. -/
  slope : Int
  /-- Whether the line follows its axis exactly. -/
  isParallel : Bool
deriving DecidableEq, Inhabited

namespace Hairline

/-- The line that advances along its main axis between the given ends, while its
position across goes from `low` to `high`. -/
def advancing (isLevel : Bool) (source target low high : Int) : Hairline :=
  let start := low * (crossingParts / pointParts)
  if low = high then ⟨isLevel, source, target, start, 0, true⟩
  else
    let slope := Int.tdiv ((high - low) * crossingParts) (target - source)
    let toMiddle := pointParts / 2 - source % pointParts
    let shift := (slope * toMiddle + pointParts / 2) / pointParts
    ⟨isLevel, source, target, start + shift, slope, false⟩

/-- The line between two points; a line without length is none. -/
def between? (p q : FixedPoint) : Option Hairline :=
  if (p.y - q.y).natAbs < (p.x - q.x).natAbs then
    if p.x ≤ q.x then some (advancing true p.x q.x p.y q.y)
    else some (advancing true q.x p.x q.y p.y)
  else if p.y = q.y then none
  else if p.y ≤ q.y then some (advancing false p.y q.y p.x q.x)
  else some (advancing false q.y p.y q.x p.x)

/-- The first pixel along the main axis. -/
def first (h : Hairline) : Int :=
  h.source / pointParts

/-- The first pixel along the main axis that is not reached. -/
def stop (h : Hairline) : Int :=
  (h.target + pointParts - 1) / pointParts

/-- How many 64ths of a pixel the line reaches. -/
def reach (h : Hairline) (pixel : Int) : Int :=
  if h.stop - h.first = 1 then h.target - h.source
  else if pixel = h.first then pointParts - h.source % pointParts
  else if pixel = h.stop - 1 then (h.target - 1) % pointParts + 1
  else pointParts

/-- The pixels across that are covered at a pixel along, with their coverage, in
the order in which they are painted. -/
def crossSection (h : Hairline) (pixel : Int) : List (Int × Int) :=
  let position := max 0 (h.across + h.slope * (pixel - h.first) + crossingParts / 2)
  let row := position / crossingParts
  let nearness := position / 256 % 256
  let scaled (a : Int) : Int := a * h.reach pixel / pointParts
  let before := max row 1 - 1
  if !h.isParallel then [(before, scaled (255 - nearness)), (before + 1, scaled nearness)]
  else if h.isLevel then [(row, scaled nearness), (row - 1, scaled (255 - nearness))]
  else [(row, scaled nearness), (before, scaled (255 - nearness))]

/-- The coverages of a pixel, in the order in which they are painted. -/
def shares (h : Hairline) (column row : Nat) : List Nat :=
  let along : Int := if h.isLevel then column else row
  let across : Int := if h.isLevel then row else column
  if h.first ≤ along ∧ along < h.stop then
    ((h.crossSection along).filter fun part => part.1 = across).map fun part => part.2.toNat
  else []

end Hairline

/-- The number of chords that stand for a curve: one, or four times as many for
each time its handles stand off four times as far. -/
def chordCount (p q r s : Point) : Nat :=
  let third : Scalar := .ofRat (1 / 3)
  let twoThirds : Scalar := .ofRat (2 / 3)
  let off (a b c d : Scalar) : Scalar :=
    (b - (third * d + twoThirds * a)).size.greatest (c - (third * a + twoThirds * d)).size
  let distance := (off p.x q.x r.x s.x).greatest (off p.y q.y r.y s.y)
  let isFlat (i : Nat) : Bool := distance < .ofRat (twoTo (2 * i) / 8)
  twoTo (((List.range 9).find? isFlat).getD 9)

/-- The hairlines of a segment. -/
def hairlinesOf : Segment → List Hairline
  | .line p q => (Hairline.between? (.ofPoint 1 p) (.ofPoint 1 q)).toList
  | .curve p q r s =>
    let points := curvePoints (chordCount p q r s)
      (.ofPoint 1 p) (.ofPoint 1 q) (.ofPoint 1 r) (.ofPoint 1 s)
    (List.zipWith Hairline.between? points (points.drop 1)).filterMap id

/-- The hairlines of an outline. -/
def hairlines (o : Outline) : List Hairline :=
  o.segments.flatMap hairlinesOf

end CanvasPress.Raster

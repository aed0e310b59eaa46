/-
# Coverage of pixels by an area

Each pixel is divided into rows and columns of sub-pixels; a crisp area has one
sub-pixel for each pixel.  Along the middle of a row of sub-pixels the outline of
an area has crossings; between them lie the spans that the outline winds around.
A pixel is covered in the measure in which spans contain its sub-pixels.
Crossings are followed in fixed-point arithmetic: points in 64ths of a sub-pixel,
crossings in 65536ths.
-/

import CanvasPress.Drawing.Figure

namespace CanvasPress.Raster

open Drawing

/-- The number of sub-pixels along each side of a pixel. -/
def fineness : Nat := 4

/-- Parts of a unit in which points are given. -/
def pointParts : Int := 64

/-- Parts of a unit in which crossings are given. -/
def crossingParts : Int := 65536

/-- The nearest whole number to a number of 64ths, a half going up. -/
def roundPoint (x : Int) : Int :=
  (x + pointParts / 2) / pointParts

/-- The nearest whole number to a number of 65536ths, a half going up. -/
def roundCrossing (x : Int) : Int :=
  (x + crossingParts / 2) / crossingParts

/-- A point in 64ths. -/
structure FixedPoint where
  x : Int
  y : Int
deriving DecidableEq, Inhabited

/-- A point in 64ths of a part of the pixel, toward the origin. -/
def FixedPoint.ofPoint (parts : Nat) (p : Point) : FixedPoint :=
  ⟨p.x.scaled (pointParts * parts), p.y.scaled (pointParts * parts)⟩

/-- A line of an outline, by the rows of sub-pixels whose middles it crosses. -/
structure Edge where
  first : Int
  last : Int
  /-- The crossing of the first row. -/
  crossing : Int
  /-- How far crossings are apart from row to row. -/
  slope : Int
  /-- The direction: down counts one, up minus one. -/
  winding : Int
deriving DecidableEq, Inhabited

namespace Edge

/-- The line from an upper point to a lower one. -/
def downward? (winding : Int) (p q : FixedPoint) : Option Edge :=
  let first := roundPoint p.y
  let last := roundPoint q.y - 1
  if last < first then none
  else
    let slope := Int.tdiv ((q.x - p.x) * crossingParts) (q.y - p.y)
    let ahead := first * pointParts + pointParts / 2 - p.y
    let atFirst := p.x + slope * ahead / crossingParts
    some ⟨first, last, atFirst * (crossingParts / pointParts), slope, winding⟩

/-- The line between two points, if it crosses any row. -/
def between? (p q : FixedPoint) : Option Edge :=
  if p.y ≤ q.y then downward? 1 p q else downward? (-1) q p

/-- Where a line crosses a row. -/
def crossing? (e : Edge) (row : Int) : Option (Int × Int) :=
  if e.first ≤ row ∧ row ≤ e.last then
    some (roundCrossing (e.crossing + e.slope * (row - e.first)), e.winding)
  else none

end Edge

/-! ## Curves as chords -/

/-- How far the handles of a curve stand off the chord, along one axis. -/
def standOff (a b c d : Int) : Int :=
  let atThird := (a * 8 - b * 15 + 6 * c + d) * 19 / 512
  let atTwoThirds := (a + 6 * b - c * 15 + d * 8) * 19 / 512
  max atThird.natAbs atTwoThirds.natAbs

/-- How often a curve is halved before its parts pass for chords. -/
def halvings (p q r s : FixedPoint) : Nat :=
  let dx := (standOff p.x q.x r.x s.x).natAbs
  let dy := (standOff p.y q.y r.y s.y).natAbs
  let distance := max dx dy + min dx dy / 2
  let units := (distance + 16) / 32
  let bits := if units = 0 then 0 else units.log2 + 1
  min 6 (bits / 2 + 1)

/-- The coordinate of a curve after `i` of `n` equal steps. -/
def alongCurve (n i : Nat) (a b c d : Int) : Int :=
  let j : Int := (n : Int) - i
  let i : Int := i
  (a * (j * j * j) + 3 * b * (j * j * i) + 3 * c * (j * i * i) + d * (i * i * i)) /
    ((n * n * n : Nat) : Int)

/-- The points after each of `n` equal steps along a curve. -/
def curvePoints (n : Nat) (p q r s : FixedPoint) : List FixedPoint :=
  (List.range (n + 1)).map fun i =>
    ⟨alongCurve n i p.x q.x r.x s.x, alongCurve n i p.y q.y r.y s.y⟩

/-- The lines through consecutive points that cross any row. -/
def edgesThrough (points : List FixedPoint) : List Edge :=
  (List.zipWith Edge.between? points (points.drop 1)).filterMap id

/-- The lines of a segment that cross any row, where a pixel has so many. -/
def edgesOf (parts : Nat) : Segment → List Edge
  | .line p q => edgesThrough [.ofPoint parts p, .ofPoint parts q]
  | .curve p q r s =>
    let p := FixedPoint.ofPoint parts p
    let q := FixedPoint.ofPoint parts q
    let r := FixedPoint.ofPoint parts r
    let s := FixedPoint.ofPoint parts s
    edgesThrough (curvePoints (twoTo (halvings p q r s)) p q r s)

/-- The side of a box below which it holds no area. -/
def leastSide : Scalar :=
  .ofRat (1 / 4096)

/-- A number as a word of 32 bits with a sign. -/
def wrapped (n : Int) : Int :=
  n.bmod (twoTo 32)

/-- The greatest number of rows that is told apart. -/
def maxRows : Int := twoTo 31 - 128

/-- Whether the rows of a box, counted in words, can be filled on a picture of the
given height.  The count goes wrong for boxes that reach too far. -/
def isFillable (b : Box) (height : Nat) : Bool :=
  let bounded (n : Int) : Int := max (-maxRows) (min maxRows n)
  let top := wrapped (fineness * bounded b.y.value.floor)
  let bottom := wrapped (fineness * bounded (b.y + b.height).value.ceil)
  0 ≤ bottom && max 0 top < min bottom (fineness * height : Nat)

/-- The edges of an outline on a picture of the given height. -/
def edges (parts height : Nat) (o : Outline) : List Edge :=
  match o.box? with
  | none => []
  | some b =>
    if b.width ≤ leastSide || b.height ≤ leastSide || !isFillable b height then []
    else o.around.flatMap (edgesOf parts)

/-! ## Spans -/

/-- Columns of sub-pixels, from the first one to the last but one. -/
structure Span where
  first : Int
  stop : Int
deriving DecidableEq, Inhabited

/-- Whether points that an outline runs around so often are outside. -/
def isOutside (rule : FillRule) (turns : Int) : Bool :=
  match rule with
  | .nonzero => turns = 0
  | .evenodd => turns % 2 = 0

/-- The spans between sorted crossings that are inside.  `turns` counts the
directions of the crossings before, and `start` is where the open span began. -/
def spansFrom (rule : FillRule) : Int → Int → List (Int × Int) → List Span
  | _, _, [] => []
  | turns, start, (x, winding) :: rest =>
    let start := if isOutside rule turns then x else start
    let turns := turns + winding
    if isOutside rule turns ∧ start < x then ⟨start, x⟩ :: spansFrom rule turns start rest
    else spansFrom rule turns start rest

/-- The spans of a row of sub-pixels. -/
def spans (rule : FillRule) (edges : List Edge) (row : Int) : List Span :=
  spansFrom rule 0 0 ((edges.filterMap fun e => e.crossing? row).mergeSort fun a b => a.1 ≤ b.1)

/-- The number of sub-pixels of a pixel that lie in a span. -/
def Span.countIn (s : Span) (column : Nat) : Nat :=
  let low : Int := fineness * column
  (min s.stop (low + fineness) - max s.first low).toNat

/-- What a span adds to the coverage of a pixel by its row of sub-pixels: 16 for
each sub-pixel, and one less where the last row is full, so that full pixels
have 255. -/
def spanShare (row count : Nat) : Nat :=
  if count = fineness ∧ row + 1 = fineness then 63 else 16 * count

/-- The coverage of a pixel by the spans of the rows of its sub-pixels. -/
def coverage (rows : List (List Span)) (column : Nat) : Nat :=
  let shares := rows.mapIdx fun row spans =>
    spans.map fun s => spanShare row (s.countIn column)
  shares.flatten.foldl (fun sum share => (sum + share) - (sum + share) / 256) 0

/-! ## Covered areas -/

/-- An area that covers pixels. -/
structure Cover where
  edges : List Edge
  rule : FillRule
  isCrisp : Bool
deriving Inhabited

/-- What an area covers of a row of pixels. -/
inductive RowCover where
  /-- The spans of the rows of sub-pixels. -/
  | fine (rows : List (List Span))
  /-- The spans of whole pixels. -/
  | crisp (spans : List Span)
deriving Inhabited

namespace RowCover

/-- The coverage of a pixel of the row, 255 for all of it. -/
def share (r : RowCover) (column : Nat) : Nat :=
  match r with
  | fine rows => coverage rows column
  | crisp spans => if spans.any fun s => s.first ≤ column && column < s.stop then 255 else 0

end RowCover

namespace Cover

/-- The pixels that an area covers on a picture of the given height. -/
def ofArea (height : Nat) (a : Area) : Cover :=
  ⟨Raster.edges (if a.isCrisp then 1 else fineness) height a.outline, a.rule, a.isCrisp⟩

/-- What an area covers of a row of pixels, if anything. -/
def onRow? (c : Cover) (row : Nat) : Option RowCover :=
  if c.edges.isEmpty then none
  else if c.isCrisp then
    let spans := spans c.rule c.edges row
    if spans.isEmpty then none else some (.crisp spans)
  else
    let rows := (List.range fineness).map fun k =>
      spans c.rule c.edges ((fineness * row + k : Nat) : Int)
    if rows.all List.isEmpty then none else some (.fine rows)

end Cover

end CanvasPress.Raster

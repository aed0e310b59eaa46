/-
# Outlines

An outline consists of contours, each a chain of lines and cubic curves.  A closed
contour ends where it begins; an open one is closed by a line when its inside is
meant.
-/

import CanvasPress.Drawing.Transform

namespace CanvasPress.Drawing

/-- A piece of a contour. -/
inductive Segment where
  | line (p q : Point)
  /-- A cubic curve from the first point to the last; the two points between
  pull it. -/
  | curve (p q r s : Point)
deriving DecidableEq, Inhabited

namespace Segment

/-- Where a segment begins. -/
def source : Segment → Point
  | line p _ => p
  | curve p _ _ _ => p

/-- Where a segment ends. -/
def target : Segment → Point
  | line _ q => q
  | curve _ _ _ s => s

/-- The points of a segment. -/
def points : Segment → List Point
  | line p q => [p, q]
  | curve p q r s => [p, q, r, s]

/-- The image of a segment. -/
def map (f : Point → Point) : Segment → Segment
  | line p q => line (f p) (f q)
  | curve p q r s => curve (f p) (f q) (f r) (f s)

/-- The same segment, drawn from its end. -/
def reverse : Segment → Segment
  | line p q => line q p
  | curve p q r s => curve s r q p

end Segment

/-- A chain of segments. -/
structure Contour where
  segments : List Segment
  isClosed : Bool
deriving DecidableEq, Inhabited

namespace Contour

/-- The line from the end back to the beginning, if they differ. -/
def gap (c : Contour) : List Segment :=
  match c.segments.head?, c.segments.getLast? with
  | some first, some last =>
    if last.target = first.source then [] else [.line last.target first.source]
  | _, _ => []

/-- The contour that is closed by a line where there is a gap. -/
def closed (segments : List Segment) : Contour :=
  ⟨segments ++ (Contour.mk segments true).gap, true⟩

/-- The segments around the inside. -/
def around (c : Contour) : List Segment :=
  c.segments ++ c.gap

/-- The same contour, drawn from its end. -/
def backwards (c : Contour) : Contour :=
  { c with segments := c.segments.reverse.map Segment.reverse }

/-- The closed contour through some corners. -/
def polygon (corners : List Point) : Contour :=
  ⟨List.zipWith Segment.line corners (corners.drop 1 ++ corners.take 1), true⟩

/-- The open contour through some points. -/
def polyline (points : List Point) : Contour :=
  ⟨List.zipWith Segment.line points (points.drop 1), false⟩

end Contour

/-- The contours of a shape. -/
abbrev Outline := List Contour

namespace Outline

/-- The segments of all contours, as they are drawn. -/
def segments (o : Outline) : List Segment :=
  o.flatMap Contour.segments

/-- The segments around the inside. -/
def around (o : Outline) : List Segment :=
  o.flatMap Contour.around

/-- The image of an outline. -/
def transform (t : Transform) (o : Outline) : Outline :=
  o.map fun c => { c with segments := c.segments.map (Segment.map t.apply) }

/-- The points of an outline. -/
def points (o : Outline) : List Point :=
  o.segments.flatMap Segment.points

/-- The smallest box around the points of an outline. -/
def box? (o : Outline) : Option Box :=
  Box.around o.points

/-! ## Round shapes -/

/-- The length of the handles of a quarter of a circle of radius one, from its
ends. -/
def handle : Rat :=
  5522847498307936 / 10000000000000000

/-- The quarter of an ellipse from `p` to `q` inside the corner that their
tangents meet in. -/
def quarter (p corner q : Point) : Segment :=
  let toward (a b : Scalar) : Scalar := .ofRat (a.value + (b.value - a.value) * handle)
  let pull (source : Point) : Point := ⟨toward source.x corner.x, toward source.y corner.y⟩
  .curve p (pull p) (pull q) q

/-- An ellipse about a point, clockwise from its right end. -/
def ellipse (c : Point) (rx ry : Scalar) : Contour :=
  let left := c.x - rx
  let right := c.x + rx
  let top := c.y - ry
  let bottom := c.y + ry
  .closed [quarter ⟨right, c.y⟩ ⟨right, bottom⟩ ⟨c.x, bottom⟩,
    quarter ⟨c.x, bottom⟩ ⟨left, bottom⟩ ⟨left, c.y⟩,
    quarter ⟨left, c.y⟩ ⟨left, top⟩ ⟨c.x, top⟩,
    quarter ⟨c.x, top⟩ ⟨right, top⟩ ⟨right, c.y⟩]

/-- A rectangle, clockwise, its corners rounded by the given radii unless these
are zero. -/
def rectangle (b : Box) (rx ry : Scalar) : Contour :=
  let right := b.x + b.width
  let bottom := b.y + b.height
  if rx = 0 && ry = 0 then .polygon [⟨b.x, b.y⟩, ⟨right, b.y⟩, ⟨right, bottom⟩, ⟨b.x, bottom⟩]
  else
    let top₁ : Point := ⟨b.x + rx, b.y⟩
    let top₂ : Point := ⟨right - rx, b.y⟩
    let right₁ : Point := ⟨right, b.y + ry⟩
    let right₂ : Point := ⟨right, bottom - ry⟩
    let bottom₁ : Point := ⟨right - rx, bottom⟩
    let bottom₂ : Point := ⟨b.x + rx, bottom⟩
    let left₁ : Point := ⟨b.x, bottom - ry⟩
    let left₂ : Point := ⟨b.x, b.y + ry⟩
    .closed [.line top₁ top₂, quarter top₂ ⟨right, b.y⟩ right₁,
      .line right₁ right₂, quarter right₂ ⟨right, bottom⟩ bottom₁,
      .line bottom₁ bottom₂, quarter bottom₂ ⟨b.x, bottom⟩ left₁,
      .line left₁ left₂, quarter left₂ ⟨b.x, b.y⟩ top₁]

end Outline

end CanvasPress.Drawing

/-
# Figures

A figure is a shape with its paints and its place.  Painting it leaves marks: one
for the inside, then one for the border.  A border that is at most one pixel
wide is marked as a hairline, which counts as fully wide but is fainter; a wider
one is marked by the area that it covers.
-/

import CanvasPress.Drawing.Paint
import CanvasPress.Drawing.Shape

namespace CanvasPress.Drawing

/-- Which points an outline holds that runs around some points more than once. -/
inductive FillRule where
  /-- The points that it runs around. -/
  | nonzero
  /-- The points that it runs around an odd number of times. -/
  | evenodd
deriving DecidableEq, Inhabited

/-- An area of the picture. -/
structure Area where
  outline : Outline
  rule : FillRule
  /-- Whether pixels are covered either fully or not at all. -/
  isCrisp : Bool
deriving DecidableEq, Inhabited

/-- How a mark is made. -/
inductive Pen where
  /-- An area is covered. -/
  | area (area : Area)
  /-- An outline is followed, covering this share of a pixel's width. -/
  | hairline (outline : Outline) (share : Scalar)
deriving DecidableEq, Inhabited

/-- A painted area or line, in the coordinates of the picture. -/
structure Mark where
  pen : Pen
  tint : Tint
deriving Inhabited

/-- A shape with its paints and its place. -/
structure Figure where
  shape : Shape
  fill : Option Tint
  rule : FillRule
  stroke : Option (Tint × Stroke)
  /-- Whether the border is painted before the inside. -/
  strokeFirst : Bool
  isCrisp : Bool
  place : Transform
deriving Inhabited

namespace Figure

/-- The share of a pixel's width that a border covers, if it is at most one pixel
wide along both axes. -/
def hairlineShare? (f : Figure) (width : Scalar) : Option Scalar :=
  let wide := (f.place.applyLinear ⟨width, 0⟩).reach
  let high := (f.place.applyLinear ⟨0, width⟩).reach
  if wide ≤ 1 ∧ high ≤ 1 then some ((wide + high) / 2) else none

/-- The outline of a figure where it is placed. -/
def outline (f : Figure) : Outline :=
  f.shape.outline.transform f.place

/-- Whether a figure has an inside: it is neither a level nor an upright line. -/
def hasInside (f : Figure) : Bool :=
  f.shape.outline.box?.any fun b => b.width != 0 && b.height != 0

/-- The area of the inside. -/
def area (f : Figure) : Area :=
  ⟨f.outline, f.rule, f.isCrisp⟩

/-- The mark of the inside. -/
def fillMarks (f : Figure) : List Mark :=
  match f.fill with
  | some tint => if f.hasInside then [⟨.area f.area, tint⟩] else []
  | none => []

/-- The mark of the border. -/
def strokeMarks (f : Figure) : List Mark :=
  match f.stroke with
  | none => []
  | some (tint, stroke) =>
    let hairline :=
      if f.isCrisp || !stroke.dashes.isEmpty then none else f.hairlineShare? stroke.width
    match hairline with
    | some share => [⟨.hairline f.outline share, tint⟩]
    | none =>
      [⟨.area ⟨(f.shape.border stroke).transform f.place, .nonzero, f.isCrisp⟩, tint⟩]

/-- The marks of a figure, in the order of painting. -/
def marks (f : Figure) : List Mark :=
  if f.strokeFirst then f.strokeMarks ++ f.fillMarks else f.fillMarks ++ f.strokeMarks

end Figure

end CanvasPress.Drawing

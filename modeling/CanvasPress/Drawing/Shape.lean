/-
# Shapes

The shapes that elements describe.  Rectangles and circles keep what they are,
since their borders are known exactly; other shapes are outlines.
-/

import CanvasPress.Drawing.Length
import CanvasPress.Drawing.PathData
import CanvasPress.Drawing.Stroke

namespace CanvasPress.Drawing

/-- A shape. -/
inductive Shape where
  | rectangle (box : Box) (rx ry : Scalar)
  | ellipse (centre : Point) (rx ry : Scalar)
  | drawn (outline : Outline)
deriving DecidableEq, Inhabited

namespace Shape

/-- The outline of a shape. -/
def outline : Shape → Outline
  | rectangle box rx ry => [Outline.rectangle box rx ry]
  | ellipse c rx ry => [Outline.ellipse c rx ry]
  | drawn o => o

/-- The outline of the border of a rectangle. -/
def rectangleBorder (width : Scalar) (b : Box) (rx ry : Scalar) : Outline :=
  let half := width / 2
  let outer : Box := ⟨b.x - half, b.y - half, b.width + width, b.height + width⟩
  let inner : Box := ⟨b.x + half, b.y + half, b.width - width, b.height - width⟩
  let round (r : Scalar) (growth : Scalar) : Scalar := if r = 0 then 0 else (r + growth).greatest 0
  let outside := Outline.rectangle outer (round rx half) (round ry half)
  if 0 < inner.width ∧ 0 < inner.height then
    [outside, (Outline.rectangle inner (round rx (-half)) (round ry (-half))).backwards]
  else [outside]

/-- The outline of the border of a circle. -/
def circleBorder (width : Scalar) (c : Point) (r : Scalar) : Outline :=
  let half := width / 2
  let outside := Outline.ellipse c (r + half) (r + half)
  if half < r then [outside, (Outline.ellipse c (r - half) (r - half)).backwards] else [outside]

/-- The outline of the area that a border covers. -/
def border (s : Stroke) (shape : Shape) : Outline :=
  let isPlain := s.dashes.isEmpty
  match shape with
  | rectangle b rx ry =>
    let isRound := !(rx = 0 && ry = 0)
    if isPlain && (isRound || s.join = .miter) then rectangleBorder s.width b rx ry
    else s.area shape.outline
  | ellipse c rx ry =>
    if isPlain && rx = ry then circleBorder s.width c rx else s.area shape.outline
  | drawn o => s.area o

/-! ## Shapes of elements -/

/-- The two radii of an element: one stands for both where only one is given.  A
negative one counts as missing. -/
def radiiOf (b : Branch) (view : Box) : Scalar × Scalar :=
  let proper (name : String) : Option Scalar :=
    (((b.attribute? name).bind Length.ofText?).filter fun l => 0 ≤ l.number).map
      (b.convert view name)
  let rx := proper "rx"
  let ry := proper "ry"
  ((rx <|> ry).getD 0, (ry <|> rx).getD 0)

/-- Whether a length is positive and in range. -/
def isExtent (x : Scalar) : Bool :=
  0 < x && x.isFinite

/-- The rectangle of an element.  Its corners take up at most all of a side. -/
def rectOf? (b : Branch) (view : Box) : Option Shape :=
  let width := b.lengthOf view "width"
  let height := b.lengthOf view "height"
  if isExtent width && isExtent height then
    let (rx, ry) := radiiOf b view
    some (.rectangle ⟨b.lengthOf view "x", b.lengthOf view "y", width, height⟩
      (rx.least (width / 2)) (ry.least (height / 2)))
  else none

/-- The ellipse of an element, whose radii are given under the names. -/
def ellipseOf? (b : Branch) (view : Box) (rx ry : Scalar) : Option Shape :=
  if isExtent rx && isExtent ry then
    some (.ellipse ⟨b.lengthOf view "cx", b.lengthOf view "cy"⟩ rx ry)
  else none

/-- Numbers in pairs; one that is left over is dropped. -/
def pairs : List Rat → List Point
  | x :: y :: rest => ⟨.ofRat x, .ofRat y⟩ :: pairs rest
  | _ => []

/-- The points of an element, if there are two at least. -/
def pointsOf? (b : Branch) : Option (List Point) := do
  let text ← b.attribute? "points"
  let points := pairs (readAll text.length text.toList)
  if 2 ≤ points.length then some points else none

/-- The shape that an element describes. -/
def of? (b : Branch) (view : Box) : Option Shape :=
  match b.tag with
  | .rect => rectOf? b view
  | .circle =>
    let r := b.lengthOf view "r"
    ellipseOf? b view r r
  | .ellipse =>
    let (rx, ry) := radiiOf b view
    ellipseOf? b view rx ry
  | .line =>
    some (.drawn [.polyline [⟨b.lengthOf view "x1", b.lengthOf view "y1"⟩,
      ⟨b.lengthOf view "x2", b.lengthOf view "y2"⟩]])
  | .polyline => (pointsOf? b).map fun points => .drawn [.polyline points]
  | .polygon => (pointsOf? b).map fun points => .drawn [.polygon points]
  | .path => (b.attribute? "d").bind fun text =>
    let outline := PathData.outline text
    if outline.isEmpty then none else some (.drawn outline)
  | _ => none

end Shape

end CanvasPress.Drawing

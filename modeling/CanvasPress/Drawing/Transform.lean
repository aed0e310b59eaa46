/-
# Transforms

A transform maps the plane by a matrix and a shift.  Transforms without skew
compose by their scales and shifts alone, so fewer roundings happen on the way.
-/

import CanvasPress.Drawing.Scalar

namespace CanvasPress.Drawing

/-- A point of the plane. -/
structure Point where
  x : Scalar
  y : Scalar
deriving DecidableEq, Inhabited

/-- A rectangle with sides along the axes. -/
structure Box where
  x : Scalar
  y : Scalar
  width : Scalar
  height : Scalar
deriving DecidableEq, Inhabited

namespace Box

/-- The smallest box around some points. -/
def around : List Point → Option Box
  | [] => none
  | p :: rest =>
    let left := rest.foldl (fun x q => x.least q.x) p.x
    let top := rest.foldl (fun y q => y.least q.y) p.y
    let right := rest.foldl (fun x q => x.greatest q.x) p.x
    let bottom := rest.foldl (fun y q => y.greatest q.y) p.y
    some ⟨left, top, right - left, bottom - top⟩

end Box

/-- The map of a point to `(sx * x + kx * y + tx, ky * x + sy * y + ty)`. -/
structure Transform where
  sx : Scalar
  ky : Scalar
  kx : Scalar
  sy : Scalar
  tx : Scalar
  ty : Scalar
deriving DecidableEq, Inhabited

namespace Transform

/-- The map that leaves every point where it is. -/
def identity : Transform :=
  ⟨1, 0, 0, 1, 0, 0⟩

/-- A change of scale along the axes. -/
def scale (sx sy : Scalar) : Transform :=
  ⟨sx, 0, 0, sy, 0, 0⟩

/-- A shift. -/
def shift (tx ty : Scalar) : Transform :=
  ⟨1, 0, 0, 1, tx, ty⟩

/-- The map of the unit square to a box. -/
def ofBox (b : Box) : Transform :=
  ⟨b.width, 0, 0, b.height, b.x, b.y⟩

/-- Whether axes stay parallel to axes. -/
def isStraight (t : Transform) : Bool :=
  t.kx = 0 && t.ky = 0

/-- The sum of two products, rounded once. -/
def combine (a b c d : Scalar) : Scalar :=
  .ofRat (a.value * b.value + c.value * d.value)

/-- The transform that applies `inner` and then `outer`. -/
def after (outer inner : Transform) : Transform :=
  if outer = identity then inner
  else if inner = identity then outer
  else if outer.isStraight && inner.isStraight then
    ⟨outer.sx * inner.sx, 0, 0, outer.sy * inner.sy,
      outer.sx * inner.tx + outer.tx, outer.sy * inner.ty + outer.ty⟩
  else
    ⟨combine outer.sx inner.sx outer.kx inner.ky, combine outer.ky inner.sx outer.sy inner.ky,
      combine outer.sx inner.kx outer.kx inner.sy, combine outer.ky inner.kx outer.sy inner.sy,
      combine outer.sx inner.tx outer.kx inner.ty + outer.tx,
      combine outer.ky inner.tx outer.sy inner.ty + outer.ty⟩

/-- The image of a point. -/
def apply (t : Transform) (p : Point) : Point :=
  if t = identity then p
  else if t.isStraight then
    if t.sx = 1 && t.sy = 1 then ⟨p.x + t.tx, p.y + t.ty⟩
    else ⟨p.x * t.sx + t.tx, p.y * t.sy + t.ty⟩
  else ⟨p.x * t.sx + p.y * t.kx + t.tx, p.x * t.ky + p.y * t.sy + t.ty⟩

/-- The image of a displacement. -/
def applyLinear (t : Transform) (p : Point) : Point :=
  { t with tx := 0, ty := 0 : Transform }.apply p

/-- The size below which a scale counts as none. -/
def leastScale : Rat :=
  1 / twoTo 23

/-- Whether a transform is in range and keeps both axes. -/
def isProper (t : Transform) : Bool :=
  let isScale (a b : Scalar) : Bool := leastScale < (a * a + b * b).sqrt.value
  [t.sx, t.ky, t.kx, t.sy, t.tx, t.ty].all Scalar.isFinite && isScale t.sx t.kx &&
    isScale t.ky t.sy

end Transform

end CanvasPress.Drawing

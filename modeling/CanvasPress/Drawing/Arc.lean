/-
# Arcs of ellipses

An arc is given by its ends, the radii and the tilt of its ellipse, and by which of
the four arcs that fit is meant.  Radii that are too small for the ends grow.  An
arc is drawn as cubic curves of at most a quarter turn.
-/

import CanvasPress.Drawing.Outline
import CanvasPress.Drawing.Transform.Reader

namespace CanvasPress.Drawing

/-- A pair of exact coordinates. -/
structure Pair where
  x : Rat
  y : Rat
deriving DecidableEq, Inhabited

/-- The point nearest to exact coordinates. -/
def Pair.toPoint (p : Pair) : Point :=
  ⟨.ofRat p.x, .ofRat p.y⟩

/-- An arc of an ellipse. -/
structure Arc where
  source : Pair
  target : Pair
  rx : Rat
  ry : Rat
  /-- The angle of the first radius with the horizontal, in degrees. -/
  tilt : Rat
  isLarge : Bool
  /-- Whether angles grow along the arc. -/
  isForward : Bool
deriving DecidableEq, Inhabited

namespace Arc

/-- A point on the circle of radius one, by its sine and its cosine, after a
turn. -/
def turned (u turn : Direction) : Direction :=
  ⟨truncated workingPlaces (u.sine * turn.cosine + u.cosine * turn.sine),
    truncated workingPlaces (u.cosine * turn.cosine - u.sine * turn.sine)⟩

/-- Half of a turn by less than all of the circle. -/
def halved (d : Direction) : Direction :=
  let cosine := root ((1 + d.cosine) / 2)
  ⟨root ((1 - d.cosine) / 2), if d.sine < 0 then -cosine else cosine⟩

/-- Whether a turn is at most a quarter. -/
def isQuarter (d : Direction) : Bool :=
  let tolerance : Rat := 1 / twoTo 40
  0 ≤ d.sine + tolerance && 0 ≤ d.cosine + tolerance

/-- A turn divided into parts of at most a quarter, and how often. -/
def parts (d : Direction) : Direction × Nat :=
  if isQuarter d then (d, 1)
  else
    let half := halved d
    if isQuarter half then (half, 2) else (halved half, 4)

/-- The curves of so many equal parts of a turn, beginning at a point of the
circle.  `place` maps the circle to the ellipse. -/
def curves (place : Rat → Rat → Point) (sign : Rat) (part : Direction) (arm : Rat) :
    (count : Nat) → (source : Point) → Direction → Point → List Segment
  | 0, _, _, _ => []
  | count + 1, source, u, target =>
    let v := turned u ⟨sign * part.sine, part.cosine⟩
    let p := place (u.cosine - sign * arm * u.sine) (u.sine + sign * arm * u.cosine)
    let q := place (v.cosine + sign * arm * v.sine) (v.sine - sign * arm * v.cosine)
    let stop := if count = 0 then target else place v.cosine v.sine
    .curve source p q stop :: curves place sign part arm count stop v target

/-- The radii below which an arc is a line. -/
def leastRadius : Rat := 1 / 100000

/-- The segments of an arc. -/
def segments (a : Arc) : List Segment :=
  let rx := magnitude a.rx
  let ry := magnitude a.ry
  if a.source = a.target || rx ≤ leastRadius || ry ≤ leastRadius then
    [.line a.source.toPoint a.target.toPoint]
  else
    let tilt := Move.direction a.tilt
    let halfX := (a.source.x - a.target.x) / 2
    let halfY := (a.source.y - a.target.y) / 2
    -- the source relative to the middle, in units of the radii
    let alongX := truncated workingPlaces ((tilt.cosine * halfX + tilt.sine * halfY) / rx)
    let alongY := truncated workingPlaces ((tilt.cosine * halfY - tilt.sine * halfX) / ry)
    let square := alongX * alongX + alongY * alongY
    let growth := if 1 < square then root square else 1
    let rx := rx * growth
    let ry := ry * growth
    let mx := alongX / growth
    let my := alongY / growth
    let rest := 1 / (mx * mx + my * my) - 1
    let shift := (if a.isLarge = a.isForward then -1 else 1) * root (if rest < 0 then 0 else rest)
    let cx := truncated workingPlaces (shift * my)
    let cy := truncated workingPlaces (-(shift * mx))
    let middleX := (a.source.x + a.target.x) / 2
    let middleY := (a.source.y + a.target.y) / 2
    let place (x y : Rat) : Point :=
      let x := rx * (x + cx)
      let y := ry * (y + cy)
      Pair.toPoint ⟨tilt.cosine * x - tilt.sine * y + middleX,
        tilt.sine * x + tilt.cosine * y + middleY⟩
    let u : Direction := ⟨my - cy, mx - cx⟩
    let v : Direction := ⟨-my - cy, -mx - cx⟩
    let sign : Rat := if a.isForward then 1 else -1
    let whole := turned v ⟨-u.sine, u.cosine⟩
    let (part, count) := parts ⟨sign * whole.sine, whole.cosine⟩
    let quarter := halved (halved part)
    curves place sign part (4 / 3 * quarter.sine / quarter.cosine) count a.source.toPoint u
      a.target.toPoint

end Arc

end CanvasPress.Drawing

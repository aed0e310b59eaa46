/-
# Strokes

A stroke follows an outline with a pen of some width.  What it covers is put
together from pieces that run the same way round: one for each straight part, one
for each corner, and one for each end.  Curves are followed by chords.  A dashed
stroke follows only parts of the outline.
-/

import CanvasPress.Drawing.Outline

namespace CanvasPress.Drawing

/-- How an open contour ends. -/
inductive Cap where
  | butt
  | round
  | square
deriving DecidableEq, Inhabited

/-- How a contour turns at a corner. -/
inductive Join where
  | miter
  | round
  | bevel
deriving DecidableEq, Inhabited

/-- How an outline is followed. -/
structure Stroke where
  width : Scalar
  cap : Cap
  join : Join
  /-- How much longer than the stroke is wide the tip of a corner may be. -/
  miterLimit : Scalar
  /-- The lengths of the dashes and gaps in turn, none for a solid stroke. -/
  dashes : List Scalar
  /-- Where in the dashes the stroke begins. -/
  dashOffset : Scalar
deriving DecidableEq, Inhabited

namespace Point

/-- The sum of two displacements. -/
def plus (p q : Point) : Point :=
  ⟨p.x + q.x, p.y + q.y⟩

/-- The displacement from `q` to `p`. -/
def minus (p q : Point) : Point :=
  ⟨p.x - q.x, p.y - q.y⟩

/-- A displacement so many times as long. -/
def times (p : Point) (n : Scalar) : Point :=
  ⟨p.x * n, p.y * n⟩

/-- The length of a displacement. -/
def norm (p : Point) : Scalar :=
  .ofRat (root (p.x.value * p.x.value + p.y.value * p.y.value))

/-- The area that two displacements span; its sign tells which way they turn. -/
def cross (p q : Point) : Scalar :=
  p.x * q.y - p.y * q.x

/-- A quick estimate of the length of a displacement, from above. -/
def reach (p : Point) : Scalar :=
  p.x.size.greatest p.y.size + p.x.size.least p.y.size / 2

end Point

namespace Stroke

/-- The number of chords that stand for a curve. -/
def chords : Nat := 32

/-- The point of a cubic curve after `i` of `n` equal steps. -/
def pointOf (n i : Nat) (p q r s : Point) : Point :=
  let t : Rat := i / n
  let u := 1 - t
  let along (a b c d : Scalar) : Scalar :=
    .ofRat (u * u * u * a.value + 3 * u * u * t * b.value + 3 * u * t * t * c.value +
      t * t * t * d.value)
  ⟨along p.x q.x r.x s.x, along p.y q.y r.y s.y⟩

/-- The points behind the first one of a segment, and whether each is a corner. -/
def pointsOf : Segment → List (Point × Bool)
  | .line _ q => [(q, true)]
  | .curve p q r s =>
    (List.range chords).map fun i => (pointOf chords (i + 1) p q r s, i + 1 = chords)

/-- A straight part of a contour, and whether a corner is at its end. -/
structure Reach where
  source : Point
  target : Point
  isCorner : Bool
deriving Inhabited

namespace Reach

/-- The displacement along half of the width, across to the right. -/
def across (half : Scalar) (r : Reach) : Point :=
  let d := r.target.minus r.source
  let length := d.norm
  ⟨-d.y / length * half, d.x / length * half⟩

/-- The displacement along half of the width, ahead. -/
def ahead (half : Scalar) (r : Reach) : Point :=
  let a := r.across half
  ⟨a.y, -a.x⟩

end Reach

/-- The straight parts through some points; parts without length are left out. -/
def reachesThrough : Point → List (Point × Bool) → List Reach
  | _, [] => []
  | p, (q, isCorner) :: rest =>
    if p = q then reachesThrough p rest else ⟨p, q, isCorner⟩ :: reachesThrough q rest

/-- The straight parts of a contour. -/
def reaches (c : Contour) : List Reach :=
  match c.segments with
  | [] => []
  | first :: _ => reachesThrough first.source (c.segments.flatMap pointsOf)

/-- A piece through some corners, turned so that all pieces run the same way
round. -/
def piece (corners : List Point) : Contour :=
  let area := (List.zipWith Point.cross corners (corners.drop 1 ++ corners.take 1)).foldl
    (fun sum a => sum + a.value) (0 : Rat)
  .polygon (if area < 0 then corners.reverse else corners)

/-- The piece of a straight part. -/
def straight (half : Scalar) (r : Reach) : Contour :=
  let n := r.across half
  piece [r.source.plus n, r.target.plus n, r.target.minus n, r.source.minus n]

/-- A round piece about a point. -/
def disc (half : Scalar) (p : Point) : Contour :=
  Outline.ellipse p half half

/-- The pieces of a corner between two straight parts. -/
def corner (s : Stroke) (r t : Reach) : List Contour :=
  let half := s.width / 2
  let m := r.across half
  let n := t.across half
  let turn := m.cross n
  let v := r.target
  let outer (p : Point) : Point := if 0 < turn then v.minus p else v.plus p
  let join := if r.isCorner then s.join else .miter
  if turn = 0 && 0 < m.x * n.x + m.y * n.y then []
  else
    match join with
    | .round => [disc half v]
    | .bevel => [piece [v, outer m, outer n]]
    | .miter =>
      let sum := m.plus n
      let square := sum.x * sum.x + sum.y * sum.y
      if square = 0 then []
      else
        let tip := sum.times (half * half * 2 / square)
        if tip.norm ≤ half * s.miterLimit then [piece [v, outer m, outer tip, outer n]]
        else [piece [v, outer m, outer n]]

/-- The pieces of an end, at a point with the displacements across and outward. -/
def ending (s : Stroke) (p across outward : Point) : List Contour :=
  match s.cap with
  | .butt => []
  | .round => [disc (s.width / 2) p]
  | .square =>
    [piece [p.plus across, (p.plus across).plus outward, (p.minus across).plus outward,
      p.minus across]]

/-- The pieces of straight parts in order, with their corners and ends. -/
def pieces (s : Stroke) (isClosed : Bool) (parts : List Reach) : List Contour :=
  let half := s.width / 2
  let corners := List.zipWith s.corner parts (parts.drop 1)
  match parts.head?, parts.getLast? with
  | some first, some last =>
    let ends :=
      if isClosed then s.corner { last with isCorner := true } first
      else
        s.ending first.source (first.across half) (Point.times (first.ahead half) (-1)) ++
          s.ending last.target (last.across half) (last.ahead half)
    parts.map (straight half) ++ corners.flatten ++ ends
  | _, _ => []

/-! ## Dashes -/

/-- A dash as it is drawn: the finished dashes, the parts of the open one, in
reverse, whether the pen is down, and what is left of the dashes and gaps. -/
structure Dashing where
  done : List (List Reach)
  opened : List Reach
  isDown : Bool
  left : Scalar
  next : List Scalar
deriving Inhabited

namespace Dashing

/-- The pen is lifted or put down. -/
def switch (all : List Scalar) (d : Dashing) : Dashing :=
  let done := if d.opened.isEmpty then d.done else d.opened.reverse :: d.done
  match (if d.next.isEmpty then all else d.next) with
  | [] => { d with done := done, opened := [] }
  | left :: next => ⟨done, [], !d.isDown, left, next⟩

/-- Follow a straight part; `fuel` bounds the dashes in it. -/
def follow (all : List Scalar) : (fuel : Nat) → Dashing → Reach → Dashing
  | 0, d, _ => d
  | fuel + 1, d, r =>
    let along := r.target.minus r.source
    let length := along.norm
    if length ≤ d.left then
      { d with opened := if d.isDown then r :: d.opened else [], left := d.left - length }
    else
      let stop := r.source.plus (along.times (d.left / length))
      let opened := if d.isDown then ⟨r.source, stop, true⟩ :: d.opened else []
      follow all fuel (switch all { d with opened := opened }) ⟨stop, r.target, r.isCorner⟩

/-- Go so far in the dashes before anything is drawn. -/
def skip (all : List Scalar) : (fuel : Nat) → Scalar → Dashing → Dashing
  | 0, _, d => d
  | fuel + 1, offset, d =>
    if offset < d.left then { d with left := d.left - offset }
    else skip all fuel (offset - d.left) (switch all d)

end Dashing

/-- The number of dashes beyond which none are drawn. -/
def maxDashes : Nat := 10000

/-- The dashes of a contour. -/
def dashed (s : Stroke) (parts : List Reach) : List (List Reach) :=
  match s.dashes with
  | [] => [parts]
  | left :: next =>
    let total := s.dashes.foldl (· + ·) 0
    let turns := s.dashOffset.value / total.value
    let offset := Scalar.ofRat ((turns - turns.floor) * total.value)
    let d := parts.foldl (fun d r => d.follow s.dashes maxDashes r)
      ((Dashing.mk [] [] true left next).skip s.dashes (s.dashes.length + 1) offset)
    (if d.opened.isEmpty then d.done else d.opened.reverse :: d.done).reverse

/-- The area that a stroke of an outline covers. -/
def area (s : Stroke) (o : Outline) : Outline :=
  o.flatMap fun c =>
    if s.dashes.isEmpty then s.pieces c.isClosed (reaches c)
    else (s.dashed (reaches c)).flatMap (s.pieces false)

end Stroke

end CanvasPress.Drawing

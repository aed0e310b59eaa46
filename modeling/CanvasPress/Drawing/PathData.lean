/-
# Paths in the text of drawings

A path is written as commands of one letter with numbers; small letters count from
the current point.  A command may be left out where it is the same as before.
What stands behind the first fault is not drawn.
-/

import CanvasPress.Drawing.Arc

namespace CanvasPress.Drawing

open Markup (skipSpace)

/-- A path as it is being read, its contours and segments in reverse. -/
structure Pencil where
  contours : List Contour
  segments : List Segment
  /-- Where the contour began. -/
  start : Pair
  /-- Where the pencil is. -/
  point : Pair
  /-- The point that pulled the end of the last curve, and whether two pulled it. -/
  pull : Option (Pair × Bool)
  /-- The letter of the last command. -/
  last : Char
deriving Inhabited

namespace Pencil

/-- The contours with the open one. -/
def lift (p : Pencil) : List Contour :=
  if p.segments.isEmpty then p.contours else ⟨p.segments.reverse, false⟩ :: p.contours

/-- Begin a contour elsewhere. -/
def move (p : Pencil) (stop : Pair) : Pencil :=
  { p with contours := p.lift, segments := [], start := stop, point := stop, pull := none }

/-- Draw segments to a point. -/
def draw (p : Pencil) (segments : List Segment) (stop : Pair) : Pencil :=
  { p with segments := segments.reverse ++ p.segments, point := stop, pull := none }

/-- Draw a line. -/
def line (p : Pencil) (stop : Pair) : Pencil :=
  p.draw [.line p.point.toPoint stop.toPoint] stop

/-- Draw a curve that two points pull. -/
def cubic (p : Pencil) (a b stop : Pair) : Pencil :=
  { p.draw [.curve p.point.toPoint a.toPoint b.toPoint stop.toPoint] stop with
    pull := some (b, true) }

/-- Draw a curve that one point pulls. -/
def quadratic (p : Pencil) (a stop : Pair) : Pencil :=
  let toward (b : Pair) : Pair := ⟨b.x + (a.x - b.x) * 2 / 3, b.y + (a.y - b.y) * 2 / 3⟩
  let curve :=
    Segment.curve p.point.toPoint (toward p.point).toPoint (toward stop).toPoint stop.toPoint
  { p.draw [curve] stop with pull := some (a, false) }

/-- The point opposite to the one that pulled the end of the last curve. -/
def opposite (p : Pencil) (byTwo : Bool) : Pair :=
  match p.pull with
  | some (q, two) =>
    if two = byTwo then ⟨2 * p.point.x - q.x, 2 * p.point.y - q.y⟩ else p.point
  | none => p.point

/-- Close the contour. -/
def close (p : Pencil) : Pencil :=
  { p with
    contours := if p.segments.isEmpty then p.contours else .closed p.segments.reverse :: p.contours
    segments := []
    point := p.start
    pull := none }

end Pencil

namespace PathData

/-- The letters of commands, small. -/
def letters : List Char :=
  ['m', 'l', 'h', 'v', 'c', 's', 'q', 't', 'a', 'z']

/-- A switch: a zero or a one. -/
def readSwitch? (s : List Char) : Option (Rat × List Char) :=
  match skipSpace s with
  | '0' :: rest => some (0, skipComma rest)
  | '1' :: rest => some (1, skipComma rest)
  | _ => none

/-- The numbers of a command. -/
def readArguments? (letter : Char) (s : List Char) : Option (List Rat × List Char) :=
  match letter with
  | 'm' | 'l' | 't' => readNumbers? 2 s
  | 'h' | 'v' => readNumbers? 1 s
  | 's' | 'q' => readNumbers? 4 s
  | 'c' => readNumbers? 6 s
  | 'a' => do
    let (radii, s) ← readNumbers? 3 s
    let (large, s) ← readSwitch? s
    let (forward, s) ← readSwitch? s
    let (ends, s) ← readNumbers? 2 s
    return (radii ++ [large, forward] ++ ends, s)
  | _ => some ([], s)

/-- What a command with its numbers draws. -/
def obey (p : Pencil) (letter : Char) (isRelative : Bool) (numbers : List Rat) : Pencil :=
  let base : Pair := if isRelative then p.point else ⟨0, 0⟩
  let spot (x y : Rat) : Pair := ⟨rounded (base.x + x), rounded (base.y + y)⟩
  match letter, numbers with
  | 'm', [x, y] => p.move (spot x y)
  | 'l', [x, y] => p.line (spot x y)
  | 'h', [x] => p.line ⟨rounded (base.x + x), p.point.y⟩
  | 'v', [y] => p.line ⟨p.point.x, rounded (base.y + y)⟩
  | 'c', [a, b, c, d, x, y] => p.cubic (spot a b) (spot c d) (spot x y)
  | 's', [c, d, x, y] => p.cubic (p.opposite true) (spot c d) (spot x y)
  | 'q', [a, b, x, y] => p.quadratic (spot a b) (spot x y)
  | 't', [x, y] => p.quadratic (p.opposite false) (spot x y)
  | 'a', [rx, ry, tilt, large, forward, x, y] =>
    let stop := spot x y
    p.draw (Arc.segments ⟨p.point, stop, rx, ry, tilt, large = 1, forward = 1⟩) stop
  | 'z', _ => p.close
  | _, _ => p

/-- The command in front of a text: its letter, and whether it stands there. -/
def command? (p : Pencil) (s : List Char) : Option (Char × List Char) :=
  match s with
  | [] => none
  | c :: rest =>
    if letters.contains c.toLower then
      if p.last = ' ' ∧ c.toLower ≠ 'm' then none else some (c, rest)
    else if c.isDigit || c = '+' || c = '-' || c = '.' then
      if p.last = ' ' || p.last.toLower = 'z' then none
      else if p.last = 'M' then some ('L', s)
      else if p.last = 'm' then some ('l', s)
      else some (p.last, s)
    else none

/-- Read on up to the first fault.  Each command takes a character at least. -/
def readFrom : (fuel : Nat) → Pencil → List Char → Pencil
  | 0, p, _ => p
  | fuel + 1, p, s =>
    match command? p (skipSpace s) with
    | none => p
    | some (c, rest) =>
      match readArguments? c.toLower rest with
      | none => p
      | some (numbers, rest) =>
        readFrom fuel { obey p c.toLower c.isLower numbers with last := c } rest

/-- The outline that a text writes. -/
def outline (s : String) : Outline :=
  let p := readFrom s.length ⟨[], [], ⟨0, 0⟩, ⟨0, 0⟩, none, ' '⟩ s.toList
  p.lift.reverse

end PathData

end CanvasPress.Drawing

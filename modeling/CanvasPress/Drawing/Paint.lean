/-
# Paints

A paint is a colour that is laid on in some measure.  It is written as a tint, as
the colour in force, as the paint of the element that a copy stands for, or as a
link to an element that paints, which may name another paint for the case that
nothing is there.
-/

import CanvasPress.Drawing.Length
import CanvasPress.Drawing.Link
import CanvasPress.Drawing.Tint

namespace CanvasPress.Drawing

open Markup (skipSpace)

/-! ## Opacities

An opacity is a number or a percentage; what is written beyond nothing or all
counts as that.
-/

namespace Opacity

/-- The opacity that a text writes. -/
def ofText? (s : String) : Option Scalar := do
  let l ← Length.ofText? s
  match l.measure with
  | .none => return (Scalar.ofRat l.number).clamped
  | .percent => return (Scalar.ofRat l.number / 100).clamped
  | _ => none

/-- The opacity in whole steps, of which 255 are all. -/
def steps (x : Scalar) : Nat :=
  (x * 255 + .ofRat (1 / 2)).value.floor.toNat

/-- The opacity of a number of steps. -/
def ofSteps (n : Nat) : Scalar :=
  .ofRat n / 255

end Opacity

/-! ## Paints -/

/-- A colour and the measure in which it is laid on. -/
structure Paint where
  colour : Colour
  opacity : Scalar
deriving DecidableEq, Inhabited

namespace Paint

/-- The paint of a tint. -/
def ofTint (t : Tint) : Paint :=
  ⟨t.colour, Opacity.ofSteps t.opacity⟩

/-- Opaque black. -/
def black : Paint :=
  ⟨.black, 1⟩

/-- The same paint, laid on in some measure only. -/
def weakened (p : Paint) (opacity : Scalar) : Paint :=
  { p with opacity := p.opacity * opacity }

/-- The tint nearest to a paint. -/
def tint (p : Paint) : Tint :=
  ⟨p.colour, Opacity.steps p.opacity⟩

end Paint

/-- The colour in force for an element. -/
def Branch.colour (b : Branch) : Tint :=
  ((b.inForce? "color").bind Tint.ofText?).getD .black

/-! ## Gradients of one colour -/

/-- The paint of a stop of a gradient. -/
def stopPaint (b : Branch) : Paint :=
  let tint :=
    match b.attribute? "stop-color" with
    | some "currentColor" => b.colour
    | some text => (Tint.ofText? text).getD .black
    | none => .black
  (Paint.ofTint tint).weakened (((b.attribute? "stop-opacity").bind Opacity.ofText?).getD 1)

/-- Where the elements with identities are. -/
abbrev Index := String → Option Branch

/-- The stops of a gradient, or of the first one that it is linked to that has
some; `fuel` bounds the links. -/
def stopsOf (find : Index) : (fuel : Nat) → Branch → List Branch
  | 0, _ => []
  | fuel + 1, b =>
    let stops := b.children.filter fun c => c.tag = .stop
    if !stops.isEmpty then stops
    else
      match ((b.attribute? "href").bind Link.ofText?).bind find with
      | some link =>
        if link.tag = .linearGradient || link.tag = .radialGradient then stopsOf find fuel link
        else []
      | none => []

/-- How many links of gradients are followed. -/
def maxLinks : Nat := 64

/-- The paint of a gradient whose stops have one colour. -/
def gradientPaint? (find : Index) (b : Branch) : Option Paint :=
  match (stopsOf find maxLinks b).map stopPaint with
  | [] => none
  | first :: rest => if rest.all (· == first) then some first else none

/-! ## Paints of elements -/

/-- The paints that the element around a copy has. -/
structure ContextPaints where
  fill : Option Paint
  stroke : Option Paint
deriving Inhabited

/-- The paint that a text names for the case that nothing is linked to; without
one nothing is painted. -/
def spareOf? (b : Branch) (s : List Char) : Option (Option Paint) :=
  match String.ofList (skipSpace s) with
  | "" => some none
  | "none" => some none
  | "currentColor" => some (some (.ofTint b.colour))
  | text => (Tint.ofText? text).map fun t => some (.ofTint t)

/-- The paint of a link with a spare one. -/
def linkedPaint? (find : Index) (identity : String) (spare : Option Paint) : Option Paint :=
  match find identity with
  | none => spare
  | some link =>
    if link.tag = .linearGradient || link.tag = .radialGradient then
      gradientPaint? find link <|> spare
    else none

/-- The paint that an attribute of an element writes, if any is laid on.  `wrong`
is the paint for a text that cannot be read. -/
def Branch.writtenPaint? (find : Index) (context : ContextPaints) (wrong : Option Paint)
    (b : Branch) (text : String) : Option Paint :=
  match Text.trim text with
  | "none" => none
  | "inherit" => none
  | "context-fill" => context.fill
  | "context-stroke" => context.stroke
  | "currentColor" => some (.ofTint b.colour)
  | text =>
    if (Markup.afterWord? "url(" text.toList).isSome then
      match (Link.readFunction? text.toList).bind fun (identity, rest) =>
          (spareOf? b rest).map fun spare => (identity, spare) with
      | some (identity, spare) => linkedPaint? find identity spare
      | none => wrong
    else
      match Tint.ofText? text with
      | some t => some (.ofTint t)
      | none => wrong

/-- The opacity in force under a name. -/
def Branch.opacityInForce (b : Branch) (name : String) : Scalar :=
  ((b.inForce? name).bind Opacity.ofText?).getD 1

/-- The paint of the inside of an element; black where nothing is said. -/
def Branch.fill? (find : Index) (context : ContextPaints) (b : Branch) : Option Paint :=
  let paint :=
    match b.nearest? "fill" with
    | some c => (c.attribute? "fill").bind (c.writtenPaint? find context (some .black))
    | none => some .black
  paint.map fun p => p.weakened (b.opacityInForce "fill-opacity")

/-- The paint of the border of an element; none where nothing is said. -/
def Branch.stroke? (find : Index) (context : ContextPaints) (b : Branch) : Option Paint :=
  let paint := (b.nearest? "stroke").bind fun c =>
    (c.attribute? "stroke").bind (c.writtenPaint? find context none)
  paint.map fun p => p.weakened (b.opacityInForce "stroke-opacity")

end CanvasPress.Drawing

/-
# Ink

Ink is laid over the colour of a pixel in the measure in which the pixel is
covered.  Solid ink mixes with what is there; faint ink leaves part of it
visible even where the pixel is fully covered.  Pixels may let through what is
below, so their parts are kept weakened by their opacity.
-/

import CanvasPress.Drawing.Tint

namespace CanvasPress.Raster

open Drawing

/-- The quotient by 255 as it is taken when colours are mixed. -/
def mixed (n : Nat) : Nat :=
  (n + 255) / 256

/-- The parts of a pixel, weakened by its opacity, and the opacity, each below
256. -/
structure Pixel where
  red : Nat
  green : Nat
  blue : Nat
  opacity : Nat
deriving DecidableEq, Inhabited

namespace Pixel

/-- Nothing. -/
def clear : Pixel :=
  ⟨0, 0, 0, 0⟩

/-- An opaque colour. -/
def solid (c : Colour) : Pixel :=
  ⟨c.red, c.green, c.blue, 255⟩

/-- The parts of an opaque pixel. -/
def colour (p : Pixel) : Colour :=
  ⟨p.red, p.green, p.blue⟩

/-- The same change of all parts. -/
def map (f : Nat → Nat) (p : Pixel) : Pixel :=
  ⟨f p.red, f p.green, f p.blue, f p.opacity⟩

/-- The parts of two pixels, combined. -/
def zip (f : Nat → Nat → Nat) (p q : Pixel) : Pixel :=
  ⟨f p.red q.red, f p.green q.green, f p.blue q.blue, f p.opacity q.opacity⟩

/-- A pixel that was painted apart, laid over another in some measure. -/
def layOver (measure : Rat) (p below : Pixel) : Pixel :=
  if p.opacity = 0 then below
  else
    let rest := 1 - measure * p.opacity / 255
    zip (fun a b => min 255 (roundEven (a * measure + b * rest)).toNat) p below

end Pixel

/-- A colour that is laid on, weakened, and whether nothing shines through. -/
structure Ink where
  parts : Pixel
  isSolid : Bool
deriving DecidableEq, Inhabited

namespace Ink

/-- The ink of a tint that is laid on in some measure. -/
def ofTint (t : Tint) (measure : Rat) : Ink :=
  let strength := measure * t.opacity / 255
  let weakened (part : Nat) : Nat := (part * strength + 1 / 2).floor.toNat
  ⟨(Pixel.solid t.colour).map weakened, strength = 1⟩

/-- One part of a pixel after solid ink is laid over it. -/
def solidOver (share ink below : Nat) : Nat :=
  if share = 255 then ink else mixed (below * (255 - share) + ink * share)

/-- One part of a pixel after faint ink is laid over it. -/
def faintOver (share opacity ink below : Nat) : Nat :=
  mixed (ink * share) + mixed (below * (255 - mixed (opacity * share)))

/-- A pixel after ink is laid over it. -/
def cover (ink : Ink) (share : Nat) (below : Pixel) : Pixel :=
  if share = 0 then below
  else if ink.isSolid then Pixel.zip (solidOver share) ink.parts below
  else Pixel.zip (faintOver share ink.parts.opacity) ink.parts below

end Ink

end CanvasPress.Raster

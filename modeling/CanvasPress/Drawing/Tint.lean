/-
# Tints

A tint is a colour that may let through what is below.  It is written by its
name, by hexadecimal digits, or as a function of the parts of light or of hue,
saturation and lightness; what cannot be read is no tint.
-/

import CanvasPress.Colour
import CanvasPress.Drawing.Number

namespace CanvasPress.Drawing

open Markup (skipSpace)

/-- A colour with its opacity, below 256. -/
structure Tint where
  colour : Colour
  opacity : Nat
deriving DecidableEq, Inhabited

namespace Tint

/-- An opaque tint. -/
def solid (c : Colour) : Tint :=
  ⟨c, 255⟩

/-- Opaque black. -/
def black : Tint :=
  solid .black

/-- The part of a colour nearest to a number, a half going up. -/
def partOf (x : Rat) : Nat :=
  min 255 (x + 1 / 2).floor.toNat

/-- The tint of hexadecimal digits, three or four of which count twice. -/
def ofDigits? : List Char → Option Tint
  | [a, b, c] => do
    return solid ⟨← Colour.part? a a, ← Colour.part? b b, ← Colour.part? c c⟩
  | [a, b, c, d] => do
    return ⟨⟨← Colour.part? a a, ← Colour.part? b b, ← Colour.part? c c⟩, ← Colour.part? d d⟩
  | [a, b, c, d, e, f] => do
    return solid ⟨← Colour.part? a b, ← Colour.part? c d, ← Colour.part? e f⟩
  | [a, b, c, d, e, f, g, h] => do
    return ⟨⟨← Colour.part? a b, ← Colour.part? c d, ← Colour.part? e f⟩, ← Colour.part? g h⟩
  | _ => none

/-- A number or a percentage among the arguments of a function, and whether it is
a percentage. -/
def readArgument? (s : List Char) : Option ((Rat × Bool) × List Char) := do
  let (x, rest) ← readNumber? s
  match rest with
  | '%' :: rest => return ((x, true), skipComma rest)
  | _ => return ((x, false), skipComma rest)

/-- A number, or a percentage as a share. -/
def readShare? (s : List Char) : Option (Rat × List Char) :=
  (readArgument? s).map fun ((x, percent), rest) => (if percent then x / 100 else x, rest)

/-- A share between nothing and all. -/
def bounded (x : Rat) : Rat :=
  if x < 0 then 0 else if 1 < x then 1 else x

/-- The end of a function: the opacity, all where it is missing, and the closing
bracket. -/
def readEnd? (s : List Char) : Option (Nat × List Char) :=
  let s := skipSpace s
  match s with
  | ')' :: rest => some (255, rest)
  | _ => do
    let s := match s with
      | '/' :: rest => rest
      | s => s
    let (x, rest) ← readShare? s
    match skipSpace rest with
    | ')' :: rest => return (partOf (bounded x * 255), rest)
    | _ => none

/-- The arguments of a function of red, green and blue. -/
def readLight? (s : List Char) : Option (Tint × List Char) := do
  let ((r, percent), s) ← readArgument? s
  let ((g, _), s) ← readArgument? s
  let ((b, _), s) ← readArgument? s
  let (opacity, s) ← readEnd? s
  let part (x : Rat) : Nat := partOf (if percent then x * 255 / 100 else x)
  return (⟨⟨part r, part g, part b⟩, opacity⟩, s)

/-- A sixth of the circle of hues in which a part of light is found. -/
def lightAt (low high hue : Scalar) : Scalar :=
  let hue := if hue < 0 then hue + 6 else if 6 ≤ hue then hue - 6 else hue
  if hue < 1 then (high - low) * hue + low
  else if hue < 3 then high
  else if hue < 4 then (high - low) * (4 - hue) + low
  else low

/-- The colour of a hue in sixths of the circle, a saturation and a lightness. -/
def ofHue (hue saturation lightness : Scalar) : Colour :=
  let high :=
    if lightness ≤ .ofRat (1 / 2) then lightness * (saturation + 1)
    else lightness + saturation - lightness * saturation
  let low := lightness * 2 - high
  let part (hue : Scalar) : Nat := ((lightAt low high hue) * 255).value.floor.toNat
  ⟨part (hue + 2), part hue, part (hue - 2)⟩

/-- The number of degrees in a unit of angles. -/
def angleUnits : List (String × Rat) :=
  [("deg", 1), ("grad", 360 / 400), ("rad", 180 / (884279719003555 / 281474976710656)),
    ("turn", 360)]

/-- An angle in degrees. -/
def readAngle? (s : List Char) : Option (Rat × List Char) := do
  let (x, rest) ← readNumber? s
  match angleUnits.findSome? fun unit =>
      (Markup.afterWord? unit.1 rest).map fun rest => (x * unit.2, rest) with
  | some (degrees, rest) => return (degrees, skipComma rest)
  | none => return (x, skipComma rest)

/-- The arguments of a function of hue, saturation and lightness. -/
def readHue? (s : List Char) : Option (Tint × List Char) := do
  let (degrees, s) ← readAngle? s
  let (saturation, s) ← readShare? s
  let (lightness, s) ← readShare? s
  let (opacity, s) ← readEnd? s
  let turns := degrees / 360
  let hue := (turns - turns.floor) * 6
  return (⟨ofHue (.ofRat hue) (.ofRat (bounded saturation)) (.ofRat (bounded lightness)), opacity⟩,
    s)

/-- Whether a character may stand in the name of a colour or of a function. -/
def isNameChar (c : Char) : Bool :=
  Text.isAsciiAlphanumeric c || c = '-' || c = '_'

/-- A tint in front of a text. -/
def read? (s : List Char) : Option (Tint × List Char) :=
  match skipSpace s with
  | '#' :: rest =>
    let isDigit (c : Char) : Bool := (Text.hexValue? c).isSome
    (ofDigits? (rest.takeWhile isDigit)).map fun tint => (tint, rest.dropWhile isDigit)
  | s =>
    let name := Text.lowerAscii (String.ofList (s.takeWhile isNameChar))
    let rest := s.dropWhile isNameChar
    if name = "rgb" || name = "rgba" then (Markup.afterWord? "(" rest).bind readLight?
    else if name = "hsl" || name = "hsla" then (Markup.afterWord? "(" rest).bind readHue?
    else if name = "transparent" then some (⟨.black, 0⟩, rest)
    else (Colour.ofName? name).map fun c => (solid c, rest)

/-- The tint that a text writes. -/
def ofText? (s : String) : Option Tint := do
  let (tint, rest) ← read? s.toList
  if (skipSpace rest).isEmpty then some tint else none

end Tint

end CanvasPress.Drawing

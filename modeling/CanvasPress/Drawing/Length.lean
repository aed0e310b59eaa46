/-
# Lengths

A length is a number with a unit.  A percentage refers to the view: to its width,
to its height, or to a mean of both, as the attribute measures.  Other units may
refer to the size of the font in force.
-/

import CanvasPress.Drawing.Element
import CanvasPress.Drawing.Viewport

namespace CanvasPress.Drawing

/-- What a length is a multiple of. -/
inductive Measure where
  | none
  | pixel
  | em
  | ex
  | inch
  | centimetre
  | millimetre
  | point
  | pica
  | percent
deriving DecidableEq, Inhabited

/-- A length. -/
structure Length where
  number : Rat
  measure : Measure
deriving DecidableEq, Inhabited

namespace Length

/-- The measure that is written behind a number. -/
def measure? : String → Option Measure
  | "" => some .none
  | "px" => some .pixel
  | "em" => some .em
  | "ex" => some .ex
  | "in" => some .inch
  | "cm" => some .centimetre
  | "mm" => some .millimetre
  | "pt" => some .point
  | "pc" => some .pica
  | "%" => some .percent
  | _ => Option.none

/-- The length that a text writes. -/
def ofText? (s : String) : Option Length := do
  let (number, rest) ← readNumber? s.toList
  return ⟨number, ← measure? (String.ofList rest)⟩

/-- No length. -/
def zero : Length :=
  ⟨0, .none⟩

/-- All of the view. -/
def whole : Length :=
  ⟨100, .percent⟩

/-- The number of user units in an inch. -/
def perInch : Scalar := 96

/-- The number of user units of a length, where the font has a size and all of
what a percentage refers to has a length; both are found only if they matter. -/
def units (l : Length) (font all : Unit → Scalar) : Scalar :=
  let n := Scalar.ofRat l.number
  match l.measure with
  | .none => n
  | .pixel => n
  | .em => n * font ()
  | .ex => n * font () / 2
  | .inch => n * perInch
  | .centimetre => n * perInch / .ofRat (254 / 100)
  | .millimetre => n * perInch / .ofRat (254 / 10)
  | .point => n * perInch / 72
  | .pica => n * perInch / 6
  | .percent => all () * n / 100

end Length

/-! ## Fonts -/

/-- The size of the font outside all elements. -/
def standardFont : Scalar := 12

/-- How often a font grows by a fifth for the name of a size. -/
def fontSteps : List (String × Int) :=
  [("xx-small", -3), ("x-small", -2), ("small", -1), ("medium", 0), ("large", 1),
    ("x-large", 2), ("xx-large", 3), ("smaller", -1), ("larger", 1)]

/-- A font that has grown so often by a fifth. -/
def grownFont (font : Scalar) (steps : Int) : Scalar :=
  let fifth : Scalar := .ofRat (12 / 10)
  let growth : Scalar := (List.range steps.natAbs).foldl (fun x _ => x * fifth) 1
  if 0 ≤ steps then font * growth else font * (1 / growth)

/-- The size of the font that an element asks for inside one of another size. -/
def fontInside (font : Scalar) (e : Element) : Scalar :=
  match e.attribute? "font-size" with
  | none => font
  | some text =>
    match Length.ofText? text with
    | some l =>
      if l.measure = .percent then .ofRat l.number * font * .ofRat (1 / 100)
      else l.units (fun _ => font) fun _ => 0
    | none => grownFont font ((fontSteps.lookup text).getD 0)

/-- The size of the font in force. -/
def Branch.font (b : Branch) : Scalar :=
  (b.element :: b.above).foldr (fun e font => fontInside font e) standardFont

/-! ## Lengths of elements -/

/-- The attributes that measure along the width of the view. -/
def levelAttributes : List String :=
  ["cx", "dx", "fx", "markerWidth", "refX", "rx", "width", "x", "x1", "x2"]

/-- The attributes that measure along the height of the view. -/
def uprightAttributes : List String :=
  ["cy", "dy", "fy", "markerHeight", "refY", "ry", "height", "y", "y1", "y2"]

/-- What a percentage in an attribute refers to. -/
def Box.extentFor (view : Box) (name : String) : Scalar :=
  if levelAttributes.contains name then view.width
  else if uprightAttributes.contains name then view.height
  else ((view.width * view.width + view.height * view.height) / 2).sqrt

namespace Branch

/-- The number of user units of a length that an attribute of an element has. -/
def convert (b : Branch) (view : Box) (name : String) (l : Length) : Scalar :=
  l.units (fun _ => b.font) fun _ => view.extentFor name

/-- The length of an attribute of the element itself, if it has one that can be
read. -/
def length? (b : Branch) (view : Box) (name : String) : Option Scalar :=
  ((b.attribute? name).bind Length.ofText?).map (b.convert view name)

/-- The length of an attribute of the element itself, or another one. -/
def lengthOr (b : Branch) (view : Box) (name : String) (missing : Length) : Scalar :=
  (b.length? view name).getD (b.convert view name missing)

/-- The length of an attribute of the element itself, or none. -/
def lengthOf (b : Branch) (view : Box) (name : String) : Scalar :=
  b.lengthOr view name .zero

end Branch

end CanvasPress.Drawing

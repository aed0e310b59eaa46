/-
# Conditions for being shown

An element is left out with all that is inside it if it says so, if it cannot be
placed, or if it asks for what a reader does not have.  The language of readers is
English.
-/

import CanvasPress.Drawing.Length
import CanvasPress.Drawing.Transform.Reader
import CanvasPress.Text.Blank

namespace CanvasPress.Drawing

/-- The language of readers. -/
def language : List Char := ['e', 'n']

/-- The parts of a text between commas. -/
def betweenCommas (s : List Char) : List (List Char) :=
  s.splitBy (fun c d => c ≠ ',' && d ≠ ',') |>.filter fun part => part ≠ [',']

namespace Branch

/-- Whether a list of languages holds that of readers, or a variety of it. -/
def isUnderstood (languages : String) : Bool :=
  (betweenCommas languages.toList).any fun part =>
    (Text.trimList part).takeWhile (· ≠ '-') == language

/-- Whether an element asks only for what readers have. -/
def meetsConditions (b : Branch) : Bool :=
  !b.has "requiredExtensions" && !b.has "requiredFeatures" &&
    (b.attribute? "systemLanguage").all isUnderstood

/-- Whether an element can be placed.  A transform that cannot be read counts as
none. -/
def isPlaced (b : Branch) : Bool :=
  ((b.attribute? "transform").bind Transform.ofText?).all Transform.isProper

/-- Whether an element is shown. -/
def isShown (b : Branch) : Bool :=
  b.attribute? "display" != some "none" && b.isPlaced && b.meetsConditions

/-! ## Where elements are placed -/

/-- The names of places along an axis, with the share of the view that they stand
for. -/
def sides : List (String × Length) :=
  [("left", ⟨0, .percent⟩), ("top", ⟨0, .percent⟩), ("center", ⟨50, .percent⟩),
    ("right", ⟨100, .percent⟩), ("bottom", ⟨100, .percent⟩)]

/-- One place along an axis. -/
def placeAlong? (s : List Char) : Option Length :=
  let s := String.ofList s
  sides.lookup s <|> Length.ofText? s

/-- The point that stays where it is, by its places along both axes. -/
def origin? (text : String) : Option (Length × Length) :=
  let middle : Length := ⟨50, .percent⟩
  match Text.words text.toList with
  | [one] =>
    let one := String.ofList one
    if one = "top" || one = "bottom" then (sides.lookup one).map fun y => (middle, y)
    else (placeAlong? one.toList).map fun x => (x, middle)
  | first :: second :: _ => do
    let isUpright (s : List Char) : Bool := s == "top".toList || s == "bottom".toList
    let isLevel (s : List Char) : Bool := s == "left".toList || s == "right".toList
    let swapped := isUpright first || isLevel second
    let x ← placeAlong? (if swapped then second else first)
    let y ← placeAlong? (if swapped then first else second)
    return (x, y)
  | [] => none

/-- The transform that an element asks for. -/
def transform (b : Branch) (view : Box) : Transform :=
  let own := (((b.attribute? "transform").bind Transform.ofText?).filter
    Transform.isProper).getD .identity
  match (b.attribute? "transform-origin").bind origin? with
  | some (x, y) =>
    let x := b.convert view "width" x
    let y := b.convert view "height" y
    ((Transform.shift x y).after own).after (.shift (-x) (-y))
  | none => own

end Branch

end CanvasPress.Drawing

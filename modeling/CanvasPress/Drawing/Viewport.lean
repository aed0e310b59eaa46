/-
# Viewports

A part of the plane, the view, is fitted into a place of a given size.  Where the
proportions differ, an aspect says what happens: the view stays inside or covers
the place, and the slack is divided, or each axis gets a scale of its own.
-/

import CanvasPress.Drawing.Number
import CanvasPress.Drawing.Transform

namespace CanvasPress.Drawing

open Markup (afterWord? skipSpace)

/-- How a view is fitted into a place of other proportions. -/
structure Aspect where
  /-- Whether each axis has a scale of its own. -/
  stretched : Bool
  /-- Whether the view covers the place, rather than staying inside. -/
  covering : Bool
  /-- The shares of the slack that come in front of the view. -/
  alongX : Scalar
  alongY : Scalar
deriving DecidableEq, Inhabited

namespace Aspect

/-- Inside the place and in the middle. -/
def standard : Aspect :=
  ⟨false, false, .ofRat (1 / 2), .ofRat (1 / 2)⟩

/-- The share of the slack that an alignment puts in front. -/
def share? (s : List Char) : Option Scalar :=
  if s = "Min".toList then some 0
  else if s = "Mid".toList then some (.ofRat (1 / 2))
  else if s = "Max".toList then some 1
  else none

/-- The aspect of an alignment. -/
def ofAlignment? : List Char → Option Aspect
  | ['n', 'o', 'n', 'e'] => some { standard with stretched := true }
  | ['x', a, b, c, 'Y', d, e, f] => do
    return { standard with alongX := ← share? [a, b, c], alongY := ← share? [d, e, f] }
  | _ => none

/-- Whether a character may stand in a word of an aspect. -/
def isWordChar (c : Char) : Bool :=
  c.isAlphanum || c = '-' || c = '_'

/-- The aspect that a text writes: an alignment and the fit.  A word in front that
would leave the choice to somebody else is skipped. -/
def ofText? (s : String) : Option Aspect := do
  let s := skipSpace s.toList
  let s := (afterWord? "defer " s).getD s
  let aspect ← ofAlignment? (s.takeWhile isWordChar)
  let fit := String.ofList ((skipSpace (s.dropWhile isWordChar)).takeWhile isWordChar)
  if fit = "slice" then some { aspect with covering := true }
  else if fit = "meet" || fit.isEmpty then some aspect
  else none

end Aspect

/-- The view that a text writes: its corner and its size, which is positive. -/
def Box.ofText? (s : String) : Option Box :=
  match readNumbers? 4 s.toList with
  | some ([x, y, width, height], _) =>
    let b : Box := ⟨.ofRat x, .ofRat y, .ofRat width, .ofRat height⟩
    if 0 < b.width ∧ 0 < b.height ∧ b.width.isFinite ∧ b.height.isFinite then some b else none
  | _ => none

/-- The transform that fits a view into a place of the given size at the origin. -/
def Transform.fitting (view : Box) (aspect : Aspect) (width height : Scalar) : Transform :=
  let sx := width / view.width
  let sy := height / view.height
  let s := if aspect.covering then sx.greatest sy else sx.least sy
  let sx := if aspect.stretched then sx else s
  let sy := if aspect.stretched then sy else s
  ⟨sx, 0, 0, sy,
    -view.x * sx + (width - view.width * sx) * (if aspect.stretched then 0 else aspect.alongX),
    -view.y * sy + (height - view.height * sy) * (if aspect.stretched then 0 else aspect.alongY)⟩

end CanvasPress.Drawing

/-
# Scenes

A vector drawing is markup whose outermost element says how large the picture is
and which part of the plane it shows.  Shapes are painted in plain colours, alone,
in groups or as copies.  Text needs fonts and leaves no marks.
-/

import CanvasPress.Drawing.Expansion
import CanvasPress.Drawing.Rendering
import CanvasPress.Markup.Reader

namespace CanvasPress.Drawing

/-- A vector drawing: its outermost element, its own size, the part of the plane
that it shows, and whether it shows all that is in it, whatever that measures. -/
structure Scene where
  root : Element
  width : Scalar
  height : Scalar
  view : Box
  isOpenEnded : Bool

namespace Scene

/-- The side of the view where nothing is said about it. -/
def standardSide : Scalar := 100

/-- The view where nothing is said about it. -/
def standardView : Box :=
  ⟨0, 0, standardSide, standardSide⟩

/-- Whether a side of the picture is given as a share of the view. -/
def isShare (b : Branch) (name : String) : Bool :=
  (((b.attribute? name).bind Length.ofText?).getD .whole).measure = .percent

/-- The drawing that an element describes, if its size is positive. -/
def ofElement? (e : Element) : Option Scene :=
  let b : Branch := ⟨e, []⟩
  let view := b.view?.getD standardView
  let width := b.lengthOr view "width" .whole
  let height := b.lengthOr view "height" .whole
  if Shape.isExtent width && Shape.isExtent height then
    some
      { root := e
        width := width
        height := height
        view := b.view?.getD ⟨0, 0, width, height⟩
        isOpenEnded := b.view?.isNone && b.isShown && (isShare b "width" || isShare b "height") }
  else none

/-- The drawing that a text describes. -/
def ofText? (s : String) : Option Scene := do
  let node ← Markup.Node.ofText? s
  let root ← Element.ofRoot? (.ofRoot node)
  ofElement? root

/-- Where the elements of a drawing with identities are; the last one with an
identity counts. -/
def index (s : Scene) : Index :=
  let branches := (Branch.ofElement [] s.root).reverse
  fun identity => branches.find? fun b => b.attribute? "id" = some identity

/-- The items of a drawing under a transform of its own coordinates. -/
def items (s : Scene) (outer : Transform) : List Item :=
  let b : Branch := ⟨s.root, []⟩
  render
    { find := s.index
      view := s.view
      place := outer.after (.fitting s.view b.aspect s.width s.height)
      above := []
      copyWidth := none
      copyHeight := none
      paints := ⟨none, none⟩
      isStencil := false }
    s.root

/-- The size of a drawing, which is that of its content where it is open-ended. -/
def size (s : Scene) : Scalar × Scalar :=
  if s.isOpenEnded then
    match Item.box? (s.items .identity) with
    | some b =>
      let right := b.x + b.width
      let bottom := b.y + b.height
      if 0 < right ∧ 0 < bottom then (right, bottom) else (s.width, s.height)
    | none => (s.width, s.height)
  else (s.width, s.height)

/-- The items of a drawing on a picture of the given size, in pixels. -/
def onPicture (s : Scene) (width height : Nat) : List Item :=
  let (w, h) := s.size
  s.items (.scale (.ofRat width / w) (.ofRat height / h))

end Scene

end CanvasPress.Drawing

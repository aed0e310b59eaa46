/-
# From elements to items

What elements draw: shapes draw themselves, groups what is inside them, a switch
the first element whose conditions are met, and copies the element that they are
of.  Drawings inside drawings and symbols have views of their own.
-/

import CanvasPress.Drawing.Item

namespace CanvasPress.Drawing

namespace Branch

/-- The size of a viewport: that of a copy, or its own, or all of the view. -/
def viewportSize (c : Context) (b : Branch) : Scalar × Scalar :=
  let width := b.lengthOr c.view "width" .whole
  let height := b.lengthOr c.view "height" .whole
  if b.tag = .svg then (c.copyWidth.getD width, c.copyHeight.getD height) else (width, height)

/-- The view that an element asks for. -/
def view? (b : Branch) : Option Box :=
  (b.attribute? "viewBox").bind Box.ofText?

/-- The aspect that an element asks for. -/
def aspect (b : Branch) : Aspect :=
  ((b.attribute? "preserveAspectRatio").bind Aspect.ofText?).getD .standard

/-- The transform that fits the view of `inner` into the viewport of an element. -/
def fitting (c : Context) (b inner : Branch) : Transform :=
  let (width, height) := b.viewportSize c
  match inner.view? with
  | some view =>
    if 0 < width ∧ 0 < height then .fitting view inner.aspect width height else .identity
  | none => .identity

/-- Whether an element shows what is outside of its viewport. -/
def overflows (b : Branch) : Bool :=
  b.attribute? "overflow" = some "visible" || b.attribute? "overflow" = some "auto"

/-- The viewport of an element, outside of which nothing of `inner` is shown, if
there is one.  A drawing in a drawing has one if its size is given. -/
def viewport? (c : Context) (b inner : Branch) : Option Box :=
  let isFree := b.tag = .svg && c.copyWidth.isNone && c.copyHeight.isNone &&
    !(b.has "width" && b.has "height")
  let (width, height) := b.viewportSize c
  if inner.overflows || isFree || width ≤ 0 || height ≤ 0 then none
  else some ⟨b.lengthOf c.view "x", b.lengthOf c.view "y", width, height⟩

end Branch

namespace Context

/-- Items seen through a viewport that is placed here. -/
def through (c : Context) (viewport : Box) (items : List Item) : List Item :=
  if items.isEmpty then []
  else
    let outline : Outline := [Outline.rectangle viewport 0 0]
    [.layer 1 [[⟨outline.transform c.place, .nonzero, false⟩]] items]

/-- The context under one more transform. -/
def under (c : Context) (t : Transform) : Context :=
  { c with place := c.place.after t }

/-- Draw inside a drawing that is inside another. -/
def nested (clipper : Clipper) (c : Context) (b : Branch) (inside : Context → List Item) :
    List Item :=
  let own := b.transform c.view
  let x := b.lengthOf c.view "x"
  let y := b.lengthOf c.view "y"
  let (width, height) := b.viewportSize c
  let fitted := (Transform.shift x y).after (b.fitting c b)
  let view :=
    match b.view? with
    | some view => view
    | none => if 0 < width ∧ 0 < height then ⟨x, y, width, height⟩ else c.view
  let inside (c : Context) : List Item := inside { c with view := view }
  match b.viewport? c b with
  | some viewport =>
    let outer := c.under own
    outer.through viewport (outer.grouped clipper b fitted inside)
  | none => c.grouped clipper b (own.after fitted) inside

/-- What percentages refer to in a symbol that is copied. -/
def symbolView (c : Context) (b : Branch) : Box :=
  let side (name : String) (whole : Scalar) : Scalar :=
    if b.has name then b.lengthOr c.view name .whole else whole
  let width := side "width" c.view.width
  let height := side "height" c.view.height
  if 0 < width ∧ 0 < height then { c.view with width := width, height := height } else c.view

/-- Draw the symbol that a copy is of. -/
def symbol (clipper : Clipper) (c : Context) (b symbol : Branch)
    (inside : Context → List Item) : List Item :=
  let own := b.transform c.view
  let shift := Transform.shift (b.lengthOf c.view "x") (b.lengthOf c.view "y")
  let c := { c with view := c.symbolView b }
  let fitted := (shift.after (symbol.transform c.view)).after (b.fitting c symbol)
  match b.viewport? c symbol with
  | some viewport =>
    let outer := c.under own
    outer.through viewport
      (outer.grouped clipper b .identity fun c => c.grouped clipper symbol fitted inside)
  | none =>
    c.grouped clipper b (own.after fitted) fun c => c.grouped clipper symbol .identity inside

/-- The context of what a copy holds. -/
def copying (c : Context) (b : Branch) : Context :=
  { c with paints := ⟨b.fill? c.find c.paints, b.stroke? c.find c.paints⟩ }

/-- The context of a copy of a drawing, which takes over the size of the copy. -/
def resized (c : Context) (b : Branch) : Context :=
  let side (name : String) : Option Scalar :=
    if b.has name then some (b.lengthOr c.view name .whole) else none
  { c with copyWidth := side "width", copyHeight := side "height" }

end Context

mutual

/-- The items of an element. -/
def itemsOf (clipper : Clipper) (c : Context) : Element → List Item
  | .node tag settings children =>
    let b : Branch := ⟨.node tag settings children, c.above⟩
    if !c.admits b then []
    else
      let grouped (inside : Context → List Item) : List Item :=
        c.grouped clipper b (b.transform c.view) inside
      match tag with
      | .use => itemsOfCopy clipper (c.copying b) b children
      | .switch => grouped fun c => itemsOfFirst clipper c children
      | .group => grouped fun c => itemsOfAll clipper c children
      | .svg =>
        grouped fun c =>
          if b.above.isEmpty then itemsOfAll clipper c children
          else c.nested clipper b fun c => itemsOfAll clipper c children
      | _ => grouped fun c => c.figures b

/-- The items of several elements, in order. -/
def itemsOfAll (clipper : Clipper) (c : Context) : List Element → List Item
  | [] => []
  | e :: rest => itemsOf clipper c e ++ itemsOfAll clipper c rest

/-- The items of the first of several elements whose conditions are met. -/
def itemsOfFirst (clipper : Clipper) (c : Context) : List Element → List Item
  | [] => []
  | e :: rest =>
    if (Branch.mk e c.above).meetsConditions then itemsOf clipper c e
    else itemsOfFirst clipper c rest

/-- The items of a copy by what it holds, which is one element. -/
def itemsOfCopy (clipper : Clipper) (c : Context) (b : Branch) : List Element → List Item
  | [] => []
  | e :: _ =>
    if e.tag = .symbol then if c.isStencil then [] else itemsOfSymbol clipper c b e
    else
      let c := if e.tag = .svg then c.resized b else c
      let shift := Transform.shift (b.lengthOf c.view "x") (b.lengthOf c.view "y")
      c.grouped clipper b ((b.transform c.view).after shift) fun c => itemsOf clipper c e

/-- The items of a copy of a symbol. -/
def itemsOfSymbol (clipper : Clipper) (c : Context) (b : Branch) : Element → List Item
  | .node tag settings children =>
    c.symbol clipper b (b.child (.node tag settings children)) fun c =>
      itemsOfAll clipper c children

end

/-! ## Stencils -/

/-- The transform of a stencil, if it is one. -/
def stencilTransform? (view : Box) (b : Branch) : Option Transform :=
  match b.attribute? "transform" with
  | none => some (b.transform view)
  | some text => (Transform.ofText? text).bind fun t =>
    if t.isProper then some (b.transform view) else none

/-- The stencils of a link, if it is to one.  A stencil may be seen through others
in turn; `fuel` bounds them. -/
def stencilsAt (fuel : Nat) : Clipper := fun c link box =>
  match fuel with
  | 0 => none
  | fuel + 1 =>
    if link.tag ≠ .clipPath then none
    else do
      let t ← stencilTransform? c.view link
      let isSelf := (c.linked? link "clip-path").any fun b =>
        b.attribute? "id" == link.attribute? "id"
      let others ← if isSelf then some [] else c.stencils? (stencilsAt fuel) link box
      let t ←
        if link.attribute? "clipPathUnits" = some "objectBoundingBox" then
          (box ()).map fun b => t.after (.ofBox b)
        else some t
      let inner := { c.under t with above := link.element :: link.above, isStencil := true }
      let items := link.element.children.flatMap (itemsOf (stencilsAt fuel) inner)
      return others ++ [(Item.figuresOfAll items).map Figure.area]

/-- How many stencils are seen through each other. -/
def maxStencils : Nat := 16

/-- The items of an element, with the stencils that it asks for. -/
def render (c : Context) (e : Element) : List Item :=
  itemsOf (stencilsAt maxStencils) c e

end CanvasPress.Drawing

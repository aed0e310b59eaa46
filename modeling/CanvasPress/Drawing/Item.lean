/-
# What is drawn

A drawing comes down to items in the order of painting: figures, and layers, which
are painted apart and then laid over what is below, faint or clipped.
-/

import CanvasPress.Drawing.Condition
import CanvasPress.Drawing.Figure

namespace CanvasPress.Drawing

/-- Areas outside of which nothing is shown. -/
abbrev Stencil := List Area

/-- Something that is painted. -/
inductive Item where
  | figure (f : Figure)
  /-- Items that are painted apart, seen through stencils. -/
  | layer (opacity : Scalar) (stencils : List Stencil) (items : List Item)
deriving Inhabited

namespace Item

mutual

/-- The figures of an item, in the order of painting. -/
def figures : Item → List Figure
  | figure f => [f]
  | layer _ _ items => figuresOfAll items

/-- The figures of several items, in the order of painting. -/
def figuresOfAll : List Item → List Figure
  | [] => []
  | i :: rest => figures i ++ figuresOfAll rest

end

/-- The smallest box around the outlines of items. -/
def box? (items : List Item) : Option Box :=
  Box.around ((figuresOfAll items).flatMap fun f => f.outline.points)

end Item

/-- Where something is drawn. -/
structure Context where
  /-- Where the elements with identities are. -/
  find : Index
  /-- What percentages refer to. -/
  view : Box
  place : Transform
  /-- The elements around, the nearest first. -/
  above : List Element
  /-- The size that a copy gives to the drawing it is of. -/
  copyWidth : Option Scalar
  copyHeight : Option Scalar
  paints : ContextPaints
  /-- Whether a stencil is drawn. -/
  isStencil : Bool

/-- How stencils are found: for a place, a link, and the box of what is clipped, if
it is needed. -/
abbrev Clipper := Context → Branch → (Unit → Option Box) → Option (List Stencil)

namespace Context

/-- Whether an element can be drawn here at all. -/
def admits (c : Context) (b : Branch) : Bool :=
  (b.tag.isGraphic || (b.tag.isContainer && !c.isStencil)) && b.isShown

/-- The element that an attribute of another one links to. -/
def linked? (c : Context) (b : Branch) (name : String) : Option Branch :=
  ((b.attribute? name).bind Link.ofFunction?).bind c.find

/-- Whether an element is to be changed by a filter that is not there. -/
def lacksFilter (c : Context) (b : Branch) : Bool :=
  !c.isStencil &&
    match (b.attribute? "filter").bind Link.ofFunction? with
    | some identity => (c.find identity).isNone
    | none => false

/-- The stencils of an element, none where it has no link to any. -/
def stencils? (clipper : Clipper) (c : Context) (b : Branch) (box : Unit → Option Box) :
    Option (List Stencil) :=
  match c.linked? b "clip-path" with
  | none => some []
  | some link => clipper c link box

/-- The opacity of an element with all that is inside it. -/
def opacityOf (c : Context) (b : Branch) : Scalar :=
  if c.isStencil then 1 else ((b.attribute? "opacity").bind Opacity.ofText?).getD 1

/-- What is inside an element, under a transform, with what the element does to it
as a whole. -/
def grouped (clipper : Clipper) (c : Context) (b : Branch) (t : Transform)
    (inside : Context → List Item) : List Item :=
  let inner := { c with place := c.place.after t, above := b.element :: b.above }
  let box (_ : Unit) : Option Box := Item.box? (inside { inner with place := .identity })
  match inner.stencils? clipper b box with
  | none => []
  | some stencils =>
    if c.lacksFilter b then []
    else
      let items := inside inner
      let opacity := c.opacityOf b
      if items.isEmpty then []
      else if opacity = 1 && stencils.isEmpty && b.attribute? "isolation" != some "isolate" then
        items
      else [.layer opacity stencils items]

/-! ## Figures of elements -/

/-- The rule that is in force under a name. -/
def ruleOf (b : Branch) (name : String) : FillRule :=
  if b.inForce? name = some "evenodd" then .evenodd else .nonzero

/-- The lengths of dashes and gaps in force. -/
def dashesOf (c : Context) (b : Branch) : List Scalar :=
  let name := "stroke-dasharray"
  match (b.nearest? name).bind fun n => (n.attribute? name).map (n, ·) with
  | none => []
  | some (n, text) =>
    let isBreak (c : Char) : Bool := Markup.isSpace c || c = ','
    let words := (text.toList.splitBy fun c d => isBreak c == isBreak d).filter fun w =>
      !w.all isBreak
    match words.mapM fun w => Length.ofText? (String.ofList w) with
    | none => []
    | some lengths =>
      let dashes := lengths.map (n.convert c.view name)
      let total := dashes.foldl (· + ·) 0
      if dashes.any (· < 0) || total ≤ 0 then []
      else if dashes.length % 2 = 1 then dashes ++ dashes
      else dashes

/-- A length that is in force under a name. -/
def lengthInForce (c : Context) (b : Branch) (name : String) (missing : Scalar) : Scalar :=
  match b.nearest? name with
  | none => missing
  | some n => (n.length? c.view name).getD missing

/-- How the border of an element is drawn. -/
def strokeOf (c : Context) (b : Branch) : Stroke where
  width := c.lengthInForce b "stroke-width" 1
  cap :=
    match b.inForce? "stroke-linecap" with
    | some "round" => .round
    | some "square" => .square
    | _ => .butt
  join :=
    match b.inForce? "stroke-linejoin" with
    | some "round" => .round
    | some "bevel" => .bevel
    | _ => .miter
  miterLimit := (((b.inForce? "stroke-miterlimit").bind Length.ofText?).map fun l =>
    (Scalar.ofRat l.number).greatest 1).getD 4
  dashes := c.dashesOf b
  dashOffset := c.lengthInForce b "stroke-dashoffset" 0

/-- Whether the figures of an element can be seen. -/
def isVisible (b : Branch) : Bool :=
  match b.inForce? "visibility" with
  | some "hidden" => false
  | some "collapse" => false
  | _ => true

/-- Whether borders are painted before insides. -/
def paintsStrokeFirst (b : Branch) : Bool :=
  match (b.inForce? "paint-order").map fun s => Text.words s.toList with
  | some (first :: _) => first == "stroke".toList
  | _ => false

/-- The figure of an element with a shape. -/
def figureOf (c : Context) (b : Branch) (shape : Shape) : Figure :=
  let isCrisp :=
    match b.inForce? "shape-rendering" with
    | some "optimizeSpeed" => true
    | some "crispEdges" => true
    | _ => false
  if c.isStencil then
    { shape := shape
      fill := some .black
      rule := ruleOf b "clip-rule"
      stroke := none
      strokeFirst := false
      isCrisp := isCrisp
      place := c.place }
  else
    let stroke := c.strokeOf b
    { shape := shape
      fill := (b.fill? c.find c.paints).map Paint.tint
      rule := ruleOf b "fill-rule"
      stroke :=
        if stroke.width ≤ 0 then none
        else (b.stroke? c.find c.paints).map fun p => (p.tint, stroke)
      strokeFirst := paintsStrokeFirst b
      isCrisp := isCrisp
      place := c.place }

/-- The figure of an element, if it describes a shape.  One that cannot be seen
still takes its room. -/
def figures (c : Context) (b : Branch) : List Item :=
  match Shape.of? b c.view with
  | none => []
  | some shape =>
    let f := c.figureOf b shape
    [.figure (if isVisible b then f else { f with fill := none, stroke := none })]

end Context

end CanvasPress.Drawing

/-
# Kinds of elements

The kinds of elements that drawings consist of.  Other elements say nothing, and
neither does what is inside them.
-/

import CanvasPress.Markup.Node

namespace CanvasPress.Drawing

open Markup (Name Head)

/-- The namespace of vector drawings. -/
def space : String := "http://www.w3.org/2000/svg"

/-- The namespace of links. -/
def linkSpace : String := "http://www.w3.org/1999/xlink"

/-- What an element is in a drawing. -/
inductive Tag where
  | svg
  /-- A group, also one that is a link. -/
  | group
  | switch
  /-- A copy of another element. -/
  | use
  | symbol
  | rect
  | circle
  | ellipse
  | line
  | polyline
  | polygon
  | path
  | image
  | text
  | clipPath
  | linearGradient
  | radialGradient
  | pattern
  | stop
  | style
  /-- An element that is known and draws nothing by itself. -/
  | silent
deriving DecidableEq, Inhabited

namespace Tag

/-- The elements by their names. -/
def named : List (String × Tag) :=
  [("svg", svg), ("g", group), ("a", group), ("switch", switch), ("use", use),
    ("symbol", symbol), ("rect", rect), ("circle", circle), ("ellipse", ellipse), ("line", line),
    ("polyline", polyline), ("polygon", polygon), ("path", path), ("image", image),
    ("text", text), ("clipPath", clipPath), ("linearGradient", linearGradient),
    ("radialGradient", radialGradient), ("pattern", pattern), ("stop", stop), ("style", style)]

/-- The names of the elements that draw nothing by themselves. -/
def silentNames : List String :=
  ["defs", "feBlend", "feColorMatrix", "feComponentTransfer", "feComposite",
    "feConvolveMatrix", "feDiffuseLighting", "feDisplacementMap", "feDistantLight",
    "feDropShadow", "feFlood", "feFuncA", "feFuncB", "feFuncG", "feFuncR", "feGaussianBlur",
    "feImage", "feMerge", "feMergeNode", "feMorphology", "feOffset", "fePointLight",
    "feSpecularLighting", "feSpotLight", "feTile", "feTurbulence", "filter", "marker", "mask",
    "textPath", "tref", "tspan"]

/-- What an element with a name is, if it belongs to drawings. -/
def ofName? (name : Name) : Option Tag :=
  if name.space.all (· == space) then
    match named.lookup name.base with
    | some tag => some tag
    | none => if silentNames.contains name.base then some silent else none
  else none

/-- Whether an element is drawn by itself. -/
def isGraphic (t : Tag) : Bool :=
  [rect, circle, ellipse, line, polyline, polygon, path, image, text, use].contains t

/-- Whether an element is drawn with what is inside it. -/
def isContainer (t : Tag) : Bool :=
  [svg, group, switch].contains t

end Tag

end CanvasPress.Drawing

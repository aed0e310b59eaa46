/-
# Styled elements

The elements of a drawing with all that is said about their attributes: by the
attributes themselves, by the stylesheets, and by the attribute `style`.  Each
element has a number of its own, so that links can be told apart.
-/

import CanvasPress.Drawing.Tag
import CanvasPress.Markup.Scope
import CanvasPress.Stylesheet.Sheet

namespace CanvasPress.Drawing

/-! ## Properties

Some attributes of drawings are properties: a stylesheet may set them, and an
element may take them from the element around it by the value `inherit`.  Most
are in force for all that is inside an element; the others concern the element
alone.
-/

namespace Property

/-- The properties that concern an element alone. -/
def own : List String :=
  ["alignment-baseline", "baseline-shift", "clip-path", "display", "dominant-baseline", "filter",
    "flood-color", "flood-opacity", "mask", "opacity", "overflow", "lighting-color",
    "stop-color", "stop-opacity", "transform", "transform-box", "transform-origin"]

/-- The properties that are in force for all that is inside an element. -/
def shared : List String :=
  ["background-color", "clip-rule", "color", "color-interpolation",
    "color-interpolation-filters", "color-rendering", "direction", "fill", "fill-opacity",
    "fill-rule", "font-family", "font-kerning", "font-size", "font-size-adjust", "font-stretch",
    "font-style", "font-variant", "font-weight", "glyph-orientation-horizontal",
    "glyph-orientation-vertical", "image-rendering", "isolation", "kerning", "letter-spacing",
    "marker-end", "marker-mid", "marker-start", "mask-type", "mix-blend-mode", "paint-order",
    "pointer-events", "shape-rendering", "stroke", "stroke-dasharray", "stroke-dashoffset",
    "stroke-linecap", "stroke-linejoin", "stroke-miterlimit", "stroke-opacity", "stroke-width",
    "text-anchor", "text-decoration", "text-overflow", "text-rendering", "unicode-bidi",
    "vector-effect", "visibility", "white-space", "word-spacing", "writing-mode"]

/-- The properties that can be set by a stylesheet but not by an attribute. -/
def styleOnly : List String :=
  ["mix-blend-mode", "isolation", "font-kerning"]

/-- Whether a name is that of a property that is in force inside. -/
def isShared (name : String) : Bool :=
  shared.contains name

/-- Whether a name is that of a property. -/
def isProperty (name : String) : Bool :=
  isShared name || own.contains name

/-- The properties that cannot be taken from the element around. -/
def fixed : List String :=
  ["background-color", "color-interpolation", "color-rendering", "font-size-adjust",
    "glyph-orientation-horizontal", "glyph-orientation-vertical", "isolation", "mask-type",
    "mix-blend-mode", "paint-order", "pointer-events", "text-overflow", "transform",
    "transform-box", "transform-origin", "unicode-bidi", "vector-effect", "white-space"]

/-- Whether a property can be taken from the element around. -/
def canInherit (name : String) : Bool :=
  isProperty name && !fixed.contains name

/-- What properties are where no element sets them. -/
def initialValues : List (String × String) :=
  [("image-rendering", "auto"), ("shape-rendering", "auto"), ("text-rendering", "auto"),
    ("clip-path", "none"), ("filter", "none"), ("marker-end", "none"), ("marker-mid", "none"),
    ("marker-start", "none"), ("mask", "none"), ("stroke", "none"), ("stroke-dasharray", "none"),
    ("text-decoration", "none"), ("font-stretch", "normal"), ("font-style", "normal"),
    ("font-variant", "normal"), ("font-weight", "normal"), ("letter-spacing", "normal"),
    ("word-spacing", "normal"), ("fill", "black"), ("flood-color", "black"),
    ("stop-color", "black"), ("fill-opacity", "1"), ("flood-opacity", "1"), ("opacity", "1"),
    ("stop-opacity", "1"), ("stroke-opacity", "1"), ("clip-rule", "nonzero"),
    ("fill-rule", "nonzero"), ("baseline-shift", "baseline"),
    ("color-interpolation-filters", "linearRGB"), ("direction", "ltr"), ("display", "inline"),
    ("font-size", "medium"), ("overflow", "visible"), ("stroke-dashoffset", "0"),
    ("stroke-linecap", "butt"), ("stroke-linejoin", "miter"), ("stroke-miterlimit", "4"),
    ("stroke-width", "1"), ("text-anchor", "start"), ("visibility", "visible"),
    ("writing-mode", "lr-tb")]

/-- What a property is where no element sets it, if that is known. -/
def initial? (name : String) : Option String :=
  initialValues.lookup name

end Property

/-! ## Settings -/

open Markup (Head Node)
open Stylesheet (Declaration Sheet Site)

/-- A value of an attribute. -/
structure Setting where
  name : String
  value : String
  /-- Whether later settings leave it as it is. -/
  isImportant : Bool
deriving DecidableEq, Inhabited

namespace Setting

/-- The setting that an attribute of markup makes, if it makes one. -/
def ofAttribute? (a : Markup.Attribute) : Option Setting :=
  let isKnown (s : String) : Bool := s == space || s == linkSpace || s == Markup.Scope.reserved
  if a.name.space.all isKnown && a.name.base != "style" && a.name.base != "class" &&
      !Property.styleOnly.contains a.name.base then
    some ⟨a.name.base, a.value, false⟩
  else none

/-- The settings that a declaration makes. -/
def ofDeclaration (d : Declaration) : List Setting :=
  if d.name = "marker" then
    ["marker-start", "marker-mid", "marker-end"].map fun name => ⟨name, d.value, d.isImportant⟩
  else if Property.isProperty d.name then [⟨d.name, d.value, d.isImportant⟩]
  else []

end Setting

/-- A node of a drawing. -/
inductive Styled where
  /-- An element, with what its attributes and its styles say, in the order in
  which they count. -/
  | element (serial : Nat) (tag : Option Tag) (head : Head) (attributes styles : List Setting)
      (children : List Styled)
  | other
deriving Inhabited

namespace Styled

/-- The text of a stylesheet, if an element is one that has a text. -/
def sheetOf? (head : Head) (children : List Node) : Option String :=
  let isSheet := head.name.base = "style" &&
    (head.attribute? "type").all fun t => t = "" || t = "text/css"
  match isSheet, children with
  | true, .text content :: _ => some content
  | _, _ => none

mutual

/-- The texts of the stylesheets in a node, in front of further ones. -/
def sheetsBefore (further : List String) : Node → List String
  | .element head children =>
    (sheetOf? head children).toList ++ sheetsOfAllBefore further children
  | _ => further

/-- The texts of the stylesheets in several nodes, in front of further ones. -/
def sheetsOfAllBefore (further : List String) : List Node → List String
  | [] => further
  | n :: rest => sheetsBefore (sheetsOfAllBefore further rest) n

end

/-- The texts of the stylesheets in a node, in order. -/
def sheetsIn (n : Node) : List String :=
  sheetsBefore [] n

mutual

/-- Style a node.  Elements are numbered in the order of their tags, beginning
with the given number; the first free one comes back. -/
def ofNode (sheet : Sheet) (before around : Option Site) (serial : Nat) : Node → Styled × Nat
  | .element head children =>
    let site := Site.mk head before around
    let (inside, next) := ofNodes sheet none (some site) (serial + 1) children
    let tag := Tag.ofName? head.name
    let ruled := if tag.isSome then sheet.declarationsFor site else []
    let written := ((head.attribute? "style").map Stylesheet.declarations).getD []
    (.element serial tag head (head.attributes.filterMap Setting.ofAttribute?)
      ((ruled ++ written).flatMap Setting.ofDeclaration) inside, next)
  | _ => (.other, serial)

/-- Style the nodes of one element in order. -/
def ofNodes (sheet : Sheet) (before around : Option Site) (serial : Nat) :
    List Node → List Styled × Nat
  | [] => ([], serial)
  | n :: rest =>
    let (styled, serial) := ofNode sheet before around serial n
    let before :=
      match n with
      | .element head _ => some (Site.mk head before around)
      | _ => before
    let (more, serial) := ofNodes sheet before around serial rest
    (styled :: more, serial)

end

/-- The styled tree of markup. -/
def ofRoot (root : Node) : Styled :=
  (ofNode (Sheet.ofTexts (sheetsIn root)) none none 0 root).1

mutual

/-- The elements in a node, itself included, in front of further ones. -/
def elementsBefore (further : List Styled) : Styled → List Styled
  | .element serial tag head attributes styles children =>
    .element serial tag head attributes styles children :: elementsOfAllBefore further children
  | .other => further

/-- The elements in several nodes, in front of further ones. -/
def elementsOfAllBefore (further : List Styled) : List Styled → List Styled
  | [] => further
  | n :: rest => elementsBefore (elementsOfAllBefore further rest) n

end

/-- The elements in a node, itself included, in the order of their tags. -/
def elements (n : Styled) : List Styled :=
  elementsBefore [] n

/-- The number of an element. -/
def serial? : Styled → Option Nat
  | .element serial .. => some serial
  | .other => none

/-- What an element is in a drawing. -/
def tag? : Styled → Option Tag
  | .element _ tag .. => tag
  | .other => none

/-- What the opening tag of an element says. -/
def head? : Styled → Option Head
  | .element _ _ head .. => some head
  | .other => none

end Styled

end CanvasPress.Drawing

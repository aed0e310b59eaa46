/-
# Layers

What is drawn becomes layers on the pixels of a picture: ink that covers areas or
follows lines, and layers that are painted apart and laid over the others through
stencils.  Layers are evaluated row by row: for a row of pixels only what matters
there is kept.
-/

import CanvasPress.Drawing.Item
import CanvasPress.Raster.Hairline
import CanvasPress.Raster.Ink

namespace CanvasPress.Raster

open Drawing

/-- A layer of a picture. -/
inductive Layer where
  | area (cover : Cover) (ink : Ink)
  | thin (lines : List Hairline) (ink : Ink)
  /-- Layers that are painted apart and laid on in some measure, through
  stencils. -/
  | apart (measure : Rat) (stencils : List (List Cover)) (layers : List Layer)
deriving Inhabited

/-- What a layer does to one row of pixels. -/
inductive RowLayer where
  | area (cover : RowCover) (ink : Ink)
  | thin (row : Nat) (lines : List Hairline) (ink : Ink)
  | apart (measure : Rat) (stencils : List (List RowCover)) (layers : List RowLayer)
deriving Inhabited

/-- A pixel seen through a stencil. -/
def throughStencil (covers : List RowCover) (column : Nat) (p : Pixel) : Pixel :=
  let hidden := covers.foldl (fun a c => mixed (a * (255 - c.share column))) 255
  p.map fun part => mixed (part * (255 - hidden))

namespace RowLayer

mutual

/-- A pixel of the row after a layer is laid over it. -/
def paint (column : Nat) : RowLayer → Pixel → Pixel
  | area cover ink, below => ink.cover (cover.share column) below
  | thin row lines ink, below =>
    (lines.flatMap fun h => h.shares column row).foldl (fun below share => ink.cover share below)
      below
  | apart measure stencils layers, below =>
    let painted := paintAll column layers .clear
    (stencils.foldl (fun p covers => throughStencil covers column p) painted).layOver measure below

/-- A pixel of the row after several layers are laid over it in order. -/
def paintAll (column : Nat) : List RowLayer → Pixel → Pixel
  | [], below => below
  | layer :: rest, below => paintAll column rest (paint column layer below)

end

end RowLayer

namespace Layer

/-- The measure in which a hairline is laid on that covers a share of a pixel's
width. -/
def measure (share : Scalar) : Rat :=
  ((255 * (share.scaled 256).toNat / 256 : Nat) : Rat) / 255

/-- The layer of a mark on a picture of the given height. -/
def ofMark (height : Nat) (m : Mark) : Layer :=
  match m.pen with
  | .area a => area (.ofArea height a) (.ofTint m.tint 1)
  | .hairline outline share => thin (hairlines outline) (.ofTint m.tint (measure share))

mutual

/-- The layers of an item on a picture of the given height. -/
def ofItem (height : Nat) : Item → List Layer
  | .figure f => f.marks.map (ofMark height)
  | .layer opacity stencils items =>
    [apart opacity.value (stencils.map fun s => s.map (Cover.ofArea height))
      (ofItems height items)]

/-- The layers of several items on a picture of the given height. -/
def ofItems (height : Nat) : List Item → List Layer
  | [] => []
  | i :: rest => ofItem height i ++ ofItems height rest

end

mutual

/-- What a layer does to a row of pixels, if anything. -/
def onRow? (row : Nat) : Layer → Option RowLayer
  | area cover ink => (cover.onRow? row).map fun c => .area c ink
  | thin lines ink => if lines.isEmpty then none else some (.thin row lines ink)
  | apart measure stencils layers =>
    match onRow row layers with
    | [] => none
    | inside =>
      let stencils := stencils.map fun s => s.filterMap fun c => c.onRow? row
      some (.apart measure stencils inside)

/-- The layers that matter on a row of pixels. -/
def onRow (row : Nat) : List Layer → List RowLayer
  | [] => []
  | layer :: rest => (onRow? row layer).toList ++ onRow row rest

end

/-- The colour of a pixel of a row under its layers. -/
def pixel (layers : List RowLayer) (backdrop : Colour) (column : Nat) : Colour :=
  (RowLayer.paintAll column layers (.solid backdrop)).colour

end Layer

end CanvasPress.Raster

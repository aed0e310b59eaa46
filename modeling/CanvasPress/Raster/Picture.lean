/-
# Raster pictures

A picture is a vector drawing over a backdrop, cut into pixels.  Its size is
limited, and the drawing has to be well-formed.  The pixels are found when they
are looked at, and the file when it is asked for.

Pictures are painted by somebody who may run out of memory, fail to write the
file, or die at it.  When he does is not known, so it is a parameter.
-/

import CanvasPress.Drawing.Scene
import CanvasPress.Fault
import CanvasPress.Format
import CanvasPress.Raster.Jpeg
import CanvasPress.Raster.Layer
import CanvasPress.Raster.Png
import CanvasPress.Text.Number

namespace CanvasPress

open Raster

/-- A raster picture: layers over a backdrop. -/
structure Picture where
  width : Nat
  height : Nat
  encoding : Encoding
  quality : Nat
  backdrop : Colour
  layers : List Layer

namespace Picture

/-- The greatest number of pixels along a side. -/
def maxSide : Nat := 16384

/-- Whether a side has a possible number of pixels. -/
def isSide (n : Nat) : Bool :=
  1 ≤ n && n ≤ maxSide

/-- The fault of a size outside the limits. -/
def sizeFault (width height : Nat) : Fault :=
  .conversion .raster ("raster size " ++ Text.decimal width ++ "x" ++ Text.decimal height ++
    " outside 1..=" ++ Text.decimal maxSide)

/-- The fault of a drawing that cannot be read, for the reason given. -/
def drawingFault (reason : String) : Fault :=
  .conversion .raster ("Failed to parse SVG: " ++ reason)

/-- The colours of a row of pixels. -/
def row (p : Picture) (y : Nat) : List Colour :=
  let layers := Layer.onRow y p.layers
  (List.range p.width).map (Layer.pixel layers p.backdrop)

/-- The colour of a pixel. -/
def pixel (p : Picture) (x y : Nat) : Colour :=
  Layer.pixel (Layer.onRow y p.layers) p.backdrop x

/-- The colours of all pixels. -/
def bitmap (p : Picture) : Bitmap :=
  ⟨p.width, p.height, (Array.range p.height).map fun y => (p.row y).toArray⟩

/-- The picture as a file. -/
def encoded (p : Picture) : ByteArray :=
  match p.encoding with
  | .png => Png.encode p.bitmap
  | .jpeg => Jpeg.encode p.quality p.bitmap

/-! ## Painting -/

/-- What a picture is to be painted by. -/
structure Order where
  svg : String
  width : Nat
  height : Nat
  backdrop : Colour
  encoding : Encoding
  quality : Nat
deriving DecidableEq

/-- The picture that an order asks for, given the scene that its drawing shows. -/
def Order.picture (order : Order) (scene : Drawing.Scene) : Picture :=
  ⟨order.width, order.height, order.encoding, order.quality, order.backdrop,
    Layer.ofItems order.height (scene.onPicture order.width order.height)⟩

/-- What can get in the way of a picture whose drawing has been read. -/
inductive Hitch where
  /-- There is no room for the pixels. -/
  | noRoom
  /-- The pixels are not as many as they should be. -/
  | misfit
  /-- The file cannot be written, for this cause. -/
  | unwritten (cause : String)
deriving DecidableEq

/-- The fault that a hitch in a picture of an encoding leads to. -/
def Hitch.fault (encoding : Encoding) : Hitch → Fault
  | .noRoom => .conversion .raster "failed to allocate pixmap"
  | .misfit => .conversion .raster "pixmap size mismatch"
  | .unwritten cause =>
    let name := match encoding with
      | .png => "PNG"
      | .jpeg => "JPEG"
    .conversion .raster (name ++ " encoding failed: " ++ cause)

/-- Whoever paints pictures. -/
structure Painter where
  /-- The reason that he gives when he cannot read a drawing. -/
  objection : String → String
  /-- The report on his work on an order, if he dies at it. -/
  crash? : Order → Option Report
  /-- What gets in his way at an order, if something does. -/
  hitch? : Order → Option Hitch

/-- The painter with whom nothing gets in the way. -/
def Painter.sound : Painter where
  objection := fun _ => "the drawing is not well-formed"
  crash? := fun _ => none
  hitch? := fun _ => none

/-- How a painter's work on an order ends.  The size is looked at before anything that he
could die at. -/
def Painter.paint (painter : Painter) (order : Order) : Ending Picture :=
  if isSide order.width && isSide order.height then
    match painter.crash? order with
    | some report => .panicked report
    | none =>
      match Drawing.Scene.ofText? order.svg with
      | none => .failed (drawingFault (painter.objection order.svg))
      | some scene =>
        match painter.hitch? order with
        | some hitch => .failed (hitch.fault order.encoding)
        | none => .returned (order.picture scene)
  else .failed (sizeFault order.width order.height)

/-- The result of a painter's work. -/
def painted : Ending Picture → Except Fault Picture
  | .returned image => .ok image
  | .failed fault => .error fault
  | .panicked report => .error (.conversion .raster (abortReport "raster" report))

/-- The picture of a drawing in the given size over a backdrop, if nothing gets in the way. -/
def rasterize (svg : String) (width height : Nat) (backdrop : Colour) (encoding : Encoding)
    (quality : Nat) : Except Fault Picture :=
  painted (Painter.sound.paint ⟨svg, width, height, backdrop, encoding, quality⟩)

end Picture

end CanvasPress

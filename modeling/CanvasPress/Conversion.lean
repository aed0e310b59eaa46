/-
# Conversion

A composed document is converted into the requested format: squeezed markup, a
raster picture, or a printed document.  Without a document engine a printed
document degrades to the markup, which is then marked as a fallback.  Here are
the conversions themselves; when their steps are taken is up to the caller.
-/

import CanvasPress.Options
import CanvasPress.Page
import CanvasPress.Raster.Picture
import CanvasPress.Text.Squeeze
import CanvasPress.Theme

namespace CanvasPress

/-! ## Contents

Markup and printed documents are bytes.  Those of markup are always text; those of a
printed document are whatever the browser returns, and text stands for its bytes there.
-/

/-- What bytes read as.  Bytes that are no text read as nothing. -/
def readable (bytes : ByteArray) : String :=
  (String.fromUTF8? bytes).getD ""

scoped instance coeBytesOfText : Coe String ByteArray :=
  ⟨String.toUTF8⟩

scoped instance coeTextOfBytes : Coe ByteArray String :=
  ⟨readable⟩

scoped instance coeEndingInBytes : Coe (Ending String) (Ending ByteArray) where
  coe
    | .returned text => .returned text
    | .failed fault => .failed fault
    | .panicked report => .panicked report

/-- The content of an artifact. -/
inductive Body where
  /-- Markup or a printed document. -/
  | text (content : ByteArray)
  | picture (image : Picture)

/-- The bytes of a content. -/
def Body.bytes : Body → ByteArray
  | .text content => content
  | .picture image => image.encoded

/-- The number of bytes of a content. -/
def Body.size (body : Body) : Nat :=
  body.bytes.size

/-- What a conversion delivers. -/
structure Conversion where
  format : Format
  mediaType : String
  extension : String
  body : Body
  /-- Whether a printed document was requested and markup is delivered. -/
  fallback : Bool

namespace Conversion

/-- The conversion that delivers markup. -/
def vector (svg : String) (fallback : Bool) : Conversion where
  format := .vector
  mediaType := Format.vector.mediaType .png
  extension := Format.vector.extension .png
  body := .text (Text.squeeze svg).toUTF8
  fallback := fallback

/-- The picture that is to be painted of markup, over the theme's background. -/
def orderOf (svg : String) (options : RenderOptions) (quality : Nat) : Picture.Order where
  svg := svg
  width := options.width
  height := options.height
  backdrop := (Theme.ofName options.theme).backdrop
  encoding := options.encoding
  quality := quality

/-- The conversion that delivers a raster picture. -/
def raster (painter : Picture.Painter) (svg : String) (options : RenderOptions) (quality : Nat) :
    Except Fault Conversion :=
  (Picture.painted (painter.paint (orderOf svg options quality))).map fun image =>
    { format := .raster
      mediaType := Format.raster.mediaType options.encoding
      extension := Format.raster.extension options.encoding
      body := .picture image
      fallback := false }

/-- The conversion that delivers a printed document. -/
def paginated (pdf : ByteArray) (options : RenderOptions) : Conversion where
  format := .paginated
  mediaType := Format.paginated.mediaType options.encoding
  extension := Format.paginated.extension options.encoding
  body := .text pdf
  fallback := false

/-- The result of a print.  Whatever a running engine reports other than success
is a failed conversion; a fault that already says so keeps its wording. -/
def printed : Ending ByteArray → Except Fault ByteArray
  | .returned pdf => .ok pdf
  | .failed (.conversion stage text) => .error (.conversion stage text)
  | .failed fault => .error (.conversion .pdf fault.message)
  | .panicked report => .error (.conversion .pdf (abortReport "print" report))

end Conversion

end CanvasPress

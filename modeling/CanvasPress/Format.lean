/-
# Output formats

What a rendering can be delivered as.  A raster picture also has an encoding;
the names that people use for formats may imply one.
-/

import CanvasPress.Text.Ascii
import CanvasPress.Text.Blank

namespace CanvasPress

/-- The encoding of a raster picture. -/
inductive Encoding where
  | png
  | jpeg
deriving DecidableEq, Inhabited

/-- The form in which a rendering is delivered. -/
inductive Format where
  | vector
  | raster
  | paginated
deriving DecidableEq, Inhabited

namespace Encoding

/-- The name used in options. -/
def name : Encoding → String
  | .png => "png"
  | .jpeg => "jpeg"

/-- The extension of file names. -/
def extension : Encoding → String
  | .png => "png"
  | .jpeg => "jpg"

/-- The media type. -/
def mediaType : Encoding → String
  | .png => "image/png"
  | .jpeg => "image/jpeg"

end Encoding

namespace Format

/-- The name used in options. -/
def name : Format → String
  | .vector => "vector"
  | .raster => "raster"
  | .paginated => "paginatedDocument"

/-- The extension of file names. -/
def extension (encoding : Encoding) : Format → String
  | .vector => "svg"
  | .raster => encoding.extension
  | .paginated => "pdf"

/-- The media type. -/
def mediaType (encoding : Encoding) : Format → String
  | .vector => "image/svg+xml"
  | .raster => encoding.mediaType
  | .paginated => "application/pdf"

/-- The names that people use, in lower case, with the encoding they imply. -/
def aliases : List (String × Format × Option Encoding) :=
  [("vector", .vector, none), ("svg", .vector, none), ("raster", .raster, none),
    ("png", .raster, some .png), ("jpeg", .raster, some .jpeg), ("jpg", .raster, some .jpeg),
    ("paginateddocument", .paginated, none), ("pdf", .paginated, none)]

/-- What a name is compared as: trimmed and in lower case. -/
def normalName (name : String) : String :=
  Text.lowerAscii (Text.trim name)

/-- The format with a name, and the encoding that the name implies. -/
def ofName? (name : String) : Option (Format × Option Encoding) :=
  (aliases.find? fun a => a.1 == normalName name).map (·.2)

end Format

end CanvasPress

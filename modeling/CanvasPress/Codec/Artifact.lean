/-
# Artifact records as JSON
-/

import CanvasPress.Artifact
import CanvasPress.Calendar.Reader
import CanvasPress.Codec.Options

namespace CanvasPress

open Json

/-- A timestamp from a draft. -/
def Timestamp.decode : Decoder Timestamp := fun place draft => do
  let text ← stringNamed "an RFC 3339 formatted date and time string" place draft
  match Calendar.readTimestamp text with
  | .ok moment => return moment
  | .error fault => mismatch (.timestamp fault.message)

/-- A timestamp as JSON. -/
def Timestamp.encode (t : Timestamp) : Json :=
  .text t.exactText

namespace Metadata

/-- Metadata whose fields are being collected. -/
structure Partial where
  processingTimeMs : Option Nat := none
  requestedFormat : Option Format := none
  format : Option Format := none
  theme : Option String := none
  width : Option Nat := none
  height : Option Nat := none
  dpi : Option Nat := none
  generatedAt : Option Timestamp := none
  cacheHit : Option Bool := none
  fallback : Option Bool := none

/-- How metadata is written. -/
def shape : Shape Partial Metadata where
  type := "RenderMetadata"
  fields :=
    [field "processingTimeMs" long fun v r => { r with processingTimeMs := some v },
      field "requestedFormat" Format.decode fun v r => { r with requestedFormat := some v },
      field "format" Format.decode fun v r => { r with format := some v },
      field "theme" string fun v r => { r with theme := some v },
      field "width" word fun v r => { r with width := some v },
      field "height" word fun v r => { r with height := some v },
      field "dpi" word fun v r => { r with dpi := some v },
      field "generatedAt" Timestamp.decode fun v r => { r with generatedAt := some v },
      field "cacheHit" boolean fun v r => { r with cacheHit := some v },
      field "fallback" boolean fun v r => { r with fallback := some v }]
  blank := {}
  finish := fun r => do
    return {
      processingTimeMs := ← requireField "processingTimeMs" r.processingTimeMs
      requestedFormat := ← requireField "requestedFormat" r.requestedFormat
      format := ← requireField "format" r.format
      theme := ← requireField "theme" r.theme
      width := ← requireField "width" r.width
      height := ← requireField "height" r.height
      dpi := ← requireField "dpi" r.dpi
      generatedAt := ← requireField "generatedAt" r.generatedAt
      cacheHit := ← requireField "cacheHit" r.cacheHit
      fallback := ← requireField "fallback" r.fallback }

/-- Metadata as JSON. -/
def encode (m : Metadata) : Json :=
  .object
    [("processingTimeMs", .natural m.processingTimeMs),
      ("requestedFormat", m.requestedFormat.encode),
      ("format", m.format.encode),
      ("theme", .text m.theme),
      ("width", .natural m.width),
      ("height", .natural m.height),
      ("dpi", .natural m.dpi),
      ("generatedAt", m.generatedAt.encode),
      ("cacheHit", .bool m.cacheHit),
      ("fallback", .bool m.fallback)]

end Metadata

namespace ArtifactRecord

/-- A record whose fields are being collected. -/
structure Partial where
  format : Option Format := none
  mediaType : Option String := none
  filename : Option String := none
  /-- `none` while the field has not been met. -/
  filepath : Option (Option String) := none
  sizeBytes : Option Nat := none
  metadata : Option Metadata := none

/-- How records are written. -/
def shape : Shape Partial ArtifactRecord where
  type := "RenderedArtifact"
  fields :=
    [field "format" Format.decode fun v r => { r with format := some v },
      field "mimeType" string fun v r => { r with mediaType := some v },
      field "filename" string fun v r => { r with filename := some v },
      field "filepath" (optional path) fun v r => { r with filepath := some v },
      field "sizeBytes" count fun v r => { r with sizeBytes := some v },
      field "metadata" Metadata.shape.decode fun v r => { r with metadata := some v }]
  blank := {}
  finish := fun r => do
    return {
      format := ← requireField "format" r.format
      mediaType := ← requireField "mimeType" r.mediaType
      filename := ← requireField "filename" r.filename
      filepath := r.filepath.getD none
      sizeBytes := ← requireField "sizeBytes" r.sizeBytes
      metadata := ← requireField "metadata" r.metadata }

/-- A record from a draft. -/
def decode : Decoder ArtifactRecord :=
  shape.decode

/-- A record as JSON. -/
def encode (a : ArtifactRecord) : Json :=
  .object
    [("format", a.format.encode),
      ("mimeType", .text a.mediaType),
      ("filename", .text a.filename),
      ("filepath", .optionalText a.filepath),
      ("sizeBytes", .natural a.sizeBytes),
      ("metadata", a.metadata.encode)]

end ArtifactRecord

end CanvasPress

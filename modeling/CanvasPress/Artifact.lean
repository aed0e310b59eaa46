/-
# Artifacts on record

The description of a rendering that accompanies its bytes: what was delivered,
under which name, how large, and how it came about.
-/

import CanvasPress.Calendar.Timestamp
import CanvasPress.Format

namespace CanvasPress

/-- How an artifact came about. -/
structure Metadata where
  processingTimeMs : Nat
  requestedFormat : Format
  format : Format
  theme : String
  width : Nat
  height : Nat
  dpi : Nat
  generatedAt : Timestamp
  /-- Whether the artifact was served from the cache. -/
  cacheHit : Bool
  /-- Whether a paginated document was requested and a picture delivered. -/
  fallback : Bool
deriving DecidableEq, Inhabited

/-- The description of an artifact. -/
structure ArtifactRecord where
  /-- The format delivered, which may differ from the one requested. -/
  format : Format
  mediaType : String
  filename : String
  /-- Where a copy was written, if one was. -/
  filepath : Option String
  sizeBytes : Nat
  metadata : Metadata
deriving DecidableEq, Inhabited

end CanvasPress

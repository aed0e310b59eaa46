/-
# Options and settings as JSON

Render options must name every field but the encoding.  Settings may leave out
any field, which then keeps its default.  Batch options hold the fields of
render options beside their own; those fields are set aside until the whole
object has been read.
-/

import CanvasPress.Json.Decode
import CanvasPress.Options

namespace CanvasPress

open Json

/-- The names of the formats. -/
def Format.decode : Decoder Format :=
  enumeration ([Format.vector, .raster, .paginated].map fun f => (f.name, f))

/-- A format as JSON. -/
def Format.encode (format : Format) : Json :=
  .text format.name

/-- The names of the encodings. -/
def Encoding.decode : Decoder Encoding :=
  enumeration ([Encoding.png, .jpeg].map fun e => (e.name, e))

/-- An encoding as JSON. -/
def Encoding.encode (encoding : Encoding) : Json :=
  .text encoding.name

namespace RenderOptions

/-- Options whose fields are being collected. -/
structure Partial where
  format : Option Format := none
  theme : Option String := none
  width : Option Nat := none
  height : Option Nat := none
  dpi : Option Nat := none
  includeMetadata : Option Bool := none
  encoding : Encoding := .png

/-- How options are written. -/
def shape : Shape Partial RenderOptions where
  type := "RenderOptions"
  fields :=
    [field "format" Format.decode fun v r => { r with format := some v },
      field "theme" string fun v r => { r with theme := some v },
      field "width" word fun v r => { r with width := some v },
      field "height" word fun v r => { r with height := some v },
      field "dpi" word fun v r => { r with dpi := some v },
      field "includeMetadata" boolean fun v r => { r with includeMetadata := some v },
      field "rasterEncoding" Encoding.decode fun v r => { r with encoding := v }]
  blank := {}
  finish := fun r => do
    return {
      format := ← requireField "format" r.format
      theme := ← requireField "theme" r.theme
      width := ← requireField "width" r.width
      height := ← requireField "height" r.height
      dpi := ← requireField "dpi" r.dpi
      includeMetadata := ← requireField "includeMetadata" r.includeMetadata
      encoding := r.encoding }

/-- Options from a draft. -/
def decode : Decoder RenderOptions :=
  shape.decode

/-- The members of options as JSON. -/
def members (options : RenderOptions) : List (String × Json) :=
  [("format", options.format.encode),
    ("theme", .text options.theme),
    ("width", .natural options.width),
    ("height", .natural options.height),
    ("dpi", .natural options.dpi),
    ("includeMetadata", .bool options.includeMetadata),
    ("rasterEncoding", options.encoding.encode)]

/-- Options as JSON. -/
def encode (options : RenderOptions) : Json :=
  .object options.members

end RenderOptions

namespace LaunchSettings

/-- How launch settings are written. -/
def shape : Shape LaunchSettings LaunchSettings where
  type := "LaunchConfig"
  fields :=
    [field "headless" boolean fun v r => { r with headless := v },
      field "sandbox" boolean fun v r => { r with sandbox := v },
      field "singleProcess" boolean fun v r => { r with singleProcess := v },
      field "launchTimeoutMs" long fun v r => { r with launchTimeoutMs := v },
      field "extraArgs" (listOf string) fun v r => { r with extraArgs := v },
      field "chromePath" (optional path) fun v r => { r with chromePath := v }]
  blank := {}
  finish := .ok

/-- Launch settings from a draft. -/
def decode : Decoder LaunchSettings :=
  shape.decode

/-- Launch settings as JSON. -/
def encode (settings : LaunchSettings) : Json :=
  .object
    [("headless", .bool settings.headless),
      ("sandbox", .bool settings.sandbox),
      ("singleProcess", .bool settings.singleProcess),
      ("launchTimeoutMs", .natural settings.launchTimeoutMs),
      ("extraArgs", .array (settings.extraArgs.map .text)),
      ("chromePath", .optionalText settings.chromePath)]

end LaunchSettings

namespace Settings

/-- How settings are written. -/
def shape : Shape Settings Settings where
  type := "RendererConfig"
  fields :=
    [field "templatesPath" (optional path) fun v r => { r with templatesPath := v },
      field "outputPath" (optional path) fun v r => { r with outputPath := v },
      field "defaultTheme" string fun v r => { r with defaultTheme := v },
      field "defaultDpi" word fun v r => { r with defaultDpi := v },
      field "enableCaching" boolean fun v r => { r with enableCaching := v },
      field "cacheExpiryMs" long fun v r => { r with cacheExpiryMs := v },
      field "maxConcurrentRenders" count fun v r => { r with maxConcurrentRenders := v },
      field "rasterQuality" octet fun v r => { r with rasterQuality := v },
      field "maxQueueDepth" (optional count) fun v r => { r with maxQueueDepth := v },
      field "renderTimeoutMs" (optional long) fun v r => { r with renderTimeoutMs := v },
      field "engine" LaunchSettings.decode fun v r => { r with engine := v }]
  blank := {}
  finish := .ok

/-- Settings from a draft. -/
def decode : Decoder Settings :=
  shape.decode

/-- Settings as JSON. -/
def encode (settings : Settings) : Json :=
  .object
    [("templatesPath", .optionalText settings.templatesPath),
      ("outputPath", .optionalText settings.outputPath),
      ("defaultTheme", .text settings.defaultTheme),
      ("defaultDpi", .natural settings.defaultDpi),
      ("enableCaching", .bool settings.enableCaching),
      ("cacheExpiryMs", .natural settings.cacheExpiryMs),
      ("maxConcurrentRenders", .natural settings.maxConcurrentRenders),
      ("rasterQuality", .natural settings.rasterQuality),
      ("maxQueueDepth", .optionalNatural settings.maxQueueDepth),
      ("renderTimeoutMs", .optionalNatural settings.renderTimeoutMs),
      ("engine", settings.engine.encode)]

end Settings

namespace BatchOptions

/-- The size of a group when none is given. -/
def defaultConcurrency : Nat := 3

/-- Read members: the own field at once, the others set aside in order. -/
def readMembers (place : Place) :
    List (Option String × Draft) → Option Nat → List (String × Json) →
      Except Refusal (Option Nat × List (String × Json))
  | [], own, others => .ok (own, others.reverse)
  | (none, _) :: _, _, _ => .error (.unreadable .malformed)
  | (some key, draft) :: rest, own, others =>
    if key = "concurrency" then
      match own with
      | some _ => mismatch (.duplicateField key)
      | none => do
        let n ← count place draft
        readMembers place rest (some n) others
    else do
      let depth := match place with
        | .text depth => depth
        | _ => 0
      let value ← orUnreadable (draft.close depth)
      readMembers place rest own ((key, value) :: others)

/-- Batch options from a draft. -/
def decode : Decoder BatchOptions := fun place draft =>
  match draft with
  | .object members ending => do
    let (own, others) ← readMembers place.inner members none []
    orUnreadable (Draft.endingTrouble ending)
    let options ← RenderOptions.decode .buffered (Draft.ofJson (.object others))
    return ⟨own.getD defaultConcurrency, options⟩
  | other => wrongType "struct BatchOptions" other

/-- Batch options as JSON. -/
def encode (batch : BatchOptions) : Json :=
  .object (("concurrency", .natural batch.concurrency) :: batch.options.members)

end BatchOptions

end CanvasPress

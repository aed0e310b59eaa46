/-
# Render options and renderer settings

`RenderOptions` together with a document determine the output; `Settings`
configure a renderer for its lifetime.  Options taken from settings inherit the
default theme and density.
-/

import CanvasPress.Fault
import CanvasPress.Format

namespace CanvasPress

/-- What one rendering is asked to be. -/
structure RenderOptions where
  format : Format
  theme : String
  width : Nat
  height : Nat
  dpi : Nat
  includeMetadata : Bool
  encoding : Encoding
deriving DecidableEq, Inhabited

/-- How the browser behind the document engine is launched. -/
structure LaunchSettings where
  headless : Bool := true
  sandbox : Bool := false
  singleProcess : Bool := true
  /-- A launch that takes longer counts as failed. -/
  launchTimeoutMs : Nat := 30000
  extraArgs : List String := ["--disable-dev-shm-usage", "--disable-gpu", "--no-zygote"]
  chromePath : Option String := none
deriving DecidableEq, Inhabited

/-- The settings of a renderer. -/
structure Settings where
  /-- Directory of template overrides. -/
  templatesPath : Option String := none
  /-- Directory to which every artifact is also written. -/
  outputPath : Option String := none
  defaultTheme : String := "professional"
  defaultDpi : Nat := 300
  enableCaching : Bool := true
  cacheExpiryMs : Nat := 3600000
  /-- Renders that may hold a slot at once. -/
  maxConcurrentRenders : Nat := 3
  rasterQuality : Nat := 95
  /-- Renders that may wait for a slot; no limit when absent. -/
  maxQueueDepth : Option Nat := none
  /-- Time a render may take once it has its slot; no limit when absent. -/
  renderTimeoutMs : Option Nat := none
  engine : LaunchSettings := {}
deriving DecidableEq, Inhabited

namespace RenderOptions

/-- The options of a caller who asks for nothing in particular. -/
def ofSettings (settings : Settings) : RenderOptions where
  format := .raster
  theme := settings.defaultTheme
  width := 1200
  height := 800
  dpi := settings.defaultDpi
  includeMetadata := true
  encoding := .png

/-- Reject options that cannot produce output. -/
def validate (options : RenderOptions) : Except ConfigFault Unit :=
  if options.width = 0 ∨ options.height = 0 then
    .error (.emptySize options.width options.height)
  else if options.dpi = 0 then .error .zeroDensity
  else .ok ()

end RenderOptions

namespace Settings

/-- Reject settings that no renderer can work with. -/
def validate (settings : Settings) : Except ConfigFault Unit :=
  if settings.maxConcurrentRenders = 0 then .error .noSlots
  else if settings.rasterQuality < 1 ∨ 100 < settings.rasterQuality then
    .error (.qualityOutOfRange settings.rasterQuality)
  else if settings.defaultDpi = 0 then .error .zeroDefaultDensity
  else .ok ()

end Settings

/-- The options of a batch: how many items form a group, and the options that
all items share. -/
structure BatchOptions where
  concurrency : Nat
  options : RenderOptions
deriving DecidableEq, Inhabited

end CanvasPress

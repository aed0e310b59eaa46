/-
# Faults

Every way in which rendering can fail, by cause.  The wording of all messages
is in this module: `ConfigFault.message` for rejected settings and
`Fault.message` for everything.

Work that is handed over may also die.  Whoever waits for it then finds a report.
-/

import CanvasPress.Json.Decode
import CanvasPress.Text.Number
import CanvasPress.Text.Quoted

namespace CanvasPress

open Text

/-- The step of a conversion that failed. -/
inductive Stage where
  | raster
  | pdf
deriving DecidableEq, Inhabited

/-- The name of a stage in messages. -/
def Stage.name : Stage → String
  | .raster => "Raster"
  | .pdf => "PDF"

/-- Settings that are rejected before any work. -/
inductive ConfigFault where
  | unsupportedFormat (name : String)
  | emptySize (width height : Nat)
  | zeroDensity
  | noSlots
  | qualityOutOfRange (quality : Nat)
  | zeroDefaultDensity
  | other (text : String)
deriving DecidableEq

/-- The text of a rejection. -/
def ConfigFault.message : ConfigFault → String
  | .unsupportedFormat name => "Unsupported format: " ++ name
  | .emptySize width height =>
    "Dimensions must be positive, got " ++ decimal width ++ "x" ++ decimal height
  | .zeroDensity => "DPI must be positive"
  | .noSlots => "maxConcurrentRenders must be at least 1"
  | .qualityOutOfRange quality =>
    "rasterQuality must be within 1..=100, got " ++ decimal quality
  | .zeroDefaultDensity => "defaultDPI must be positive"
  | .other text => text

/-- Why the system refused to touch a file. -/
inductive FileFault where
  | notFound
  | alreadyExists
  | notDirectory
  | isDirectory
  | invalidText
  | other (text : String)
deriving DecidableEq

/-- The text of a file fault. -/
def FileFault.message : FileFault → String
  | .notFound => "No such file or directory (os error 2)"
  | .alreadyExists => "File exists (os error 17)"
  | .notDirectory => "Not a directory (os error 20)"
  | .isDirectory => "Is a directory (os error 21)"
  | .invalidText => "stream did not contain valid UTF-8"
  | .other text => text

/-- A failure of rendering. -/
inductive Fault where
  /-- Settings or options that cannot produce output. -/
  | config (cause : ConfigFault)
  /-- A conversion failed; fatal for its call. -/
  | conversion (stage : Stage) (text : String)
  /-- The document engine could not be launched. -/
  | launch (text : String)
  /-- There is no document engine. -/
  | engineUnavailable (reason : String)
  /-- The queue for render slots is full. -/
  | queueFull (waiting limit : Nat)
  | timeout (ms : Nat)
  | file (cause : FileFault)
  /-- A text that does not decode. -/
  | decoding (refusal : Json.Refusal)
  | other (text : String)
deriving DecidableEq

/-- The text of a fault.  A text that is not JSON has no wording of its own. -/
def Fault.message : Fault → String
  | .config cause => "Invalid configuration: " ++ cause.message
  | .conversion stage text => stage.name ++ " conversion failed: " ++ text
  | .launch text => "Engine initialization failed: " ++ text
  | .engineUnavailable reason => "Document engine unavailable: " ++ reason
  | .queueFull waiting limit =>
    "Render queue full: " ++ decimal waiting ++ " waiting (limit " ++ decimal limit ++ ")"
  | .timeout ms => "Operation timed out after " ++ decimal ms ++ "ms"
  | .file cause => "I/O error: " ++ cause.message
  | .decoding (.mismatch what) => "Serialization error: " ++ what.message
  | .decoding (.unreadable _) => "Serialization error"
  | .other text => text

/-! ## Work that is handed over -/

/-- The report on a task that died. -/
structure Report where
  /-- The number of the task among all that were begun. -/
  task : Nat
  /-- What it said last, if that was text. -/
  said : Option String
deriving DecidableEq, Inhabited

/-- What is known of a task is often only what it said. -/
scoped instance : Coe String Report :=
  ⟨fun words => ⟨0, some words⟩⟩

/-- The text of a report. -/
def Report.text (report : Report) : String :=
  "task " ++ decimal report.task ++ " panicked" ++
    match report.said with
    | some words => " with message " ++ quoted words
    | none => ""

/-- The message on a task that died. -/
def abortReport (name : String) (report : Report) : String :=
  name ++ " task aborted: " ++ report.text

/-- How work that was handed over ends. -/
inductive Ending (α : Type) where
  | returned (value : α)
  | failed (fault : Fault)
  /-- The work died. -/
  | panicked (report : Report)
deriving Inhabited

end CanvasPress

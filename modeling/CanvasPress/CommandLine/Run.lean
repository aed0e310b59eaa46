/-
# Running commands

A command reads its files, resolves its settings and options, works, and keeps
what it made.  Settings and options come from three sources: a switch counts
before the configuration, and the configuration before what is built in.

All that a command does outside goes through a `Disk`, so that the order of its
effects can be observed: nothing is written before everything that can be rejected
has been accepted.
-/

import CanvasPress.Codec.Document
import CanvasPress.Codec.Artifact
import CanvasPress.CommandLine.Help
import CanvasPress.CommandLine.Invocation
import CanvasPress.Press.Batch
import CanvasPress.Press.Open

namespace CanvasPress.CommandLine

/-! ## Which setting counts -/

/-- Where artifacts go when nothing else is said. -/
def standardOutput : String := "output"

/-- The settings of a command that writes artifacts. -/
def settingsWith (outputDir : Option String) (loaded : Settings) : Settings :=
  { loaded with outputPath := some ((outputDir <|> loaded.outputPath).getD standardOutput) }

/-- The options that overrides make of those before.  Metadata is included unless
a switch says otherwise. -/
def Overrides.applyTo (o : Overrides) (options : RenderOptions) :
    Except ConfigFault RenderOptions := do
  let options ←
    match o.format with
    | none => pure options
    | some name =>
      match Format.ofName? name with
      | none => throw (.unsupportedFormat (Format.normalName name))
      | some (format, encoding) =>
        pure { options with format := format, encoding := encoding.getD options.encoding }
  let options := { options with
    theme := o.theme.getD options.theme
    width := o.width.getD options.width
    height := o.height.getD options.height
    dpi := o.dpi.getD options.dpi
    includeMetadata := !o.noMetadata }
  options.validate
  return options

/-- The options of a command under some settings. -/
def Overrides.resolve (o : Overrides) (settings : Settings) : Except ConfigFault RenderOptions :=
  o.applyTo (.ofSettings settings)

/-! ## Commands -/

/-- What a command can do outside. -/
structure Disk (m : Type → Type) where
  /-- The text of a file. -/
  read : String → m (Except FileFault String)
  /-- What is found under the path of a directory. -/
  list : String → m Listing
  /-- Why nothing can be written into a directory, which may have to be made. -/
  obstacle : String → m (Option FileFault)
  /-- Write a file, and make the directories that it needs. -/
  write : String → Body → m Unit
  /-- Report what is going on. -/
  report : List LogLine → m Unit

/-- The machine that a command runs on. -/
structure Host extends Tools where
  /-- The time at which the command begins. -/
  time : Timestamp
  processors : Nat

/-- Why a command failed. -/
inductive Complaint where
  | unreadableConfig (path : String) (cause : FileFault)
  | undecodableConfig (path : String) (cause : Json.Refusal)
  | unreadable (path : String) (cause : FileFault)
  | undecodable (path : String) (cause : Json.Refusal)
  | fault (cause : Fault)
  /-- The work died with this report. -/
  | panic (report : String)
deriving DecidableEq

namespace Complaint

/-- The text of a complaint. -/
def message : Complaint → String
  | unreadableConfig path _ => "reading config " ++ Text.quoted path
  | undecodableConfig path _ => "parsing config " ++ Text.quoted path
  | unreadable path _ => "reading " ++ Text.quoted path
  | undecodable path _ => "parsing " ++ Text.quoted path
  | fault cause => cause.message
  | panic report => report

/-- What is behind a complaint. -/
def cause? : Complaint → Option String
  | unreadableConfig _ cause => some cause.message
  | unreadable _ cause => some cause.message
  | undecodableConfig _ (.mismatch what) => some what.message
  | undecodable _ (.mismatch what) => some what.message
  | _ => none

/-- The exit code. -/
def exitCode : Complaint → Nat
  | panic _ => 101
  | _ => 1

end Complaint

/-- What a command prints. -/
inductive Output where
  | artifact (rendering : Rendering)
  | report (items : List BatchItem)
  | text (content : String)

/-- One entry of the report on a batch. -/
def entryOf (item : BatchItem) : Json :=
  match item.outcome with
  | .ok rendering =>
    .object [("index", .natural item.index), ("success", .bool true),
      ("result", rendering.record.encode)]
  | .error fault =>
    .object [("index", .natural item.index), ("success", .bool false),
      ("canvasId", .text item.canvasId), ("error", .text fault.message)]

/-- The text that is printed. -/
def Output.written : Output → String
  | artifact rendering => rendering.record.encode.pretty ++ "\n"
  | report items => (Json.array (items.map entryOf)).sorted.pretty ++ "\n"
  | text content => content

variable {m : Type → Type} [Monad m]

/-- Something that may fail with a complaint. -/
abbrev Attempt (m : Type → Type) := ExceptT Complaint m

/-- Fail with what prevents something, if it failed. -/
def accept {ε α : Type} (complain : ε → Complaint) (result : Except ε α) : Attempt m α :=
  match result with
  | .ok value => pure value
  | .error cause => throw (complain cause)

/-- Read a file and decode it. -/
def load {α : Type} (disk : Disk m) (decode : Json.Decoder α)
    (unreadable : FileFault → Complaint) (undecodable : Json.Refusal → Complaint)
    (path : String) : Attempt m α := do
  let text ← accept unreadable (← disk.read path)
  accept undecodable (Json.decodeText decode text)

/-- The configuration, or the standard one if none is named. -/
def loadConfig (disk : Disk m) (unreadable : String → FileFault → Complaint)
    (undecodable : String → Json.Refusal → Complaint) : Option String → Attempt m Settings
  | none => pure {}
  | some path => load disk Settings.decode (unreadable path) (undecodable path) path

/-- The settings and the options of a command that writes artifacts. -/
def prepare (disk : Disk m) (config outputDir : Option String) (overrides : Overrides) :
    Attempt m (Settings × RenderOptions) := do
  let loaded ← loadConfig disk .unreadableConfig .undecodableConfig config
  let settings := settingsWith outputDir loaded
  accept (fun cause => .fault (.config cause)) settings.validate
  let options ← accept (fun cause => .fault (.config cause)) (overrides.resolve settings)
  return (settings, options)

/-- Read the input of a command. -/
def loadInput {α : Type} (disk : Disk m) (decode : Json.Decoder α) (path : String) :
    Attempt m α :=
  load disk decode (.unreadable path) (.undecodable path) path

/-- What is found under the path of the templates, if there is one. -/
def listTemplates (disk : Disk m) (settings : Settings) : Attempt m Listing :=
  match settings.templatesPath with
  | some path => do return ← disk.list path
  | none => pure .missing

/-- Open a press. -/
def openPress (disk : Disk m) (host : Host) (settings : Settings) :
    Attempt m (Press.Studio × Press.State) := do
  let templates ← listTemplates disk settings
  let shelfFault ← disk.obstacle (settings.outputPath.getD standardOutput)
  let around : Press.Surroundings := ⟨host.toTools, templates, shelfFault, host.time⟩
  disk.report (Press.openLog settings around)
  match Press.openWith settings around with
  | .ok opened => return opened
  | .error (.fault cause) => throw (.fault cause)
  | .error (.panic report) => throw (.panic report)

/-- Write the copies of renderings that have a place. -/
def keep (disk : Disk m) : List Rendering → Attempt m Unit
  | [] => pure ()
  | rendering :: rest => do
    match rendering.filepath with
    | some path => disk.write path rendering.body
    | none => pure ()
    keep disk rest

/-- Render one document. -/
def render (disk : Disk m) (host : Host) (config : Option String) (input : String)
    (outputDir : Option String) (overrides : Overrides) : Attempt m Output := do
  let (settings, options) ← prepare disk config outputDir overrides
  let document ← loadInput disk Document.decode input
  let (studio, state) ← openPress disk host settings
  let (outcome, state) := state.render studio document options none
  disk.report (state.shutDown studio).log
  match outcome with
  | some (.ok rendering) =>
    keep disk [rendering]
    return .artifact rendering
  | some (.error cause) => throw (.fault cause)
  | none => throw (.fault (.other "the rendering did not end"))

/-- The number of items in a group: as many as can be rendered at once, but no
more than there are processors. -/
def groupSize (host : Host) (settings : Settings) (concurrency : Option Nat) : Nat :=
  concurrency.getD (min host.processors settings.maxConcurrentRenders)

/-- Render a list of documents. -/
def renderAll (disk : Disk m) (host : Host) (config : Option String) (input : String)
    (outputDir : Option String) (concurrency : Option Nat) (overrides : Overrides) :
    Attempt m Output := do
  let (settings, options) ← prepare disk config outputDir overrides
  let documents ← loadInput disk (Json.listOf Document.decode) input
  let (studio, state) ← openPress disk host settings
  let (items, state) :=
    state.renderBatch studio documents ⟨groupSize host settings concurrency, options⟩
  disk.report (state.shutDown studio).log
  keep disk (items.filterMap fun item => item.outcome.toOption)
  return .report items

/-- Print a template. -/
def printTemplate (disk : Disk m) (config : Option String) (kindName : String)
    (theme : Option String) : Attempt m Output := do
  let settings ← loadConfig disk .unreadable .undecodable config
  let templates ← listTemplates disk settings
  disk.report (Press.storeLog settings templates)
  let store ← accept .fault (Press.storeFor settings templates)
  return .text (store.getByName kindName (theme.getD settings.defaultTheme))

/-- Perform an invocation. -/
def perform (disk : Disk m) (host : Host) (invocation : Invocation) : Attempt m Output :=
  match invocation.command with
  | .render input outputDir overrides =>
    render disk host invocation.config input outputDir overrides
  | .batch input outputDir concurrency overrides =>
    renderAll disk host invocation.config input outputDir concurrency overrides
  | .templates kindName theme => printTemplate disk invocation.config kindName theme

/-- How a run ends: what is printed, or why nothing is. -/
inductive Ending where
  | done (output : Output)
  | failed (complaint : Complaint)
  /-- The words of the command line make no sense. -/
  | misused

/-- The exit code of a run. -/
def Ending.exitCode : Ending → Nat
  | done _ => 0
  | failed complaint => complaint.exitCode
  | misused => 2

/-- Do what the words of a command line ask for. -/
def run (disk : Disk m) (host : Host) (words : List String) : m Ending :=
  match Wish.ofWords words with
  | .misuse => pure .misused
  | .tellVersion => pure (.done (.text versionText))
  | .explain subject => pure (.done (.text (helpText subject)))
  | .perform invocation => do
    match ← (perform disk host invocation).run with
    | .ok output => return .done output
    | .error complaint => return .failed complaint

end CanvasPress.CommandLine

/-
# The press

The press renders documents.  A call is validated, takes a slot of the governor
and then works through the cache, the composition and the conversion; raster
work, the document engine and the writing of copies make it wait, and other
calls proceed meanwhile.  The press holds everything that calls share.

`State.step` says what one event does.  Any order of events is allowed here;
which event comes next at which time is the business of `CanvasPress.Press.Clock`.
-/

import CanvasPress.Artifact
import CanvasPress.Cache
import CanvasPress.Compose
import CanvasPress.Conversion
import CanvasPress.Engine.Session
import CanvasPress.Governor
import CanvasPress.Storage.Path
import CanvasPress.Template.Store

namespace CanvasPress

/-! ## Rendered artifacts

A rendering as it is handed to the caller and kept in the cache: its content, a
file name that tells when and for which request it was made, and metadata.
-/

/-- A rendering with its content. -/
structure Rendering where
  format : Format
  mediaType : String
  body : Body
  filename : String
  filepath : Option String
  /-- The number of bytes of the content, counted when it is looked at. -/
  size : Thunk Nat
  metadata : Metadata

namespace Rendering

/-- The number of bytes that are on record. -/
def sizeBytes (r : Rendering) : Nat :=
  r.size.get

/-- The description of a rendering, given its size. -/
def recordOfSize (size : Nat) (r : Rendering) : ArtifactRecord :=
  ⟨r.format, r.mediaType, r.filename, r.filepath, size, r.metadata⟩

/-- The description of a rendering. -/
def record (r : Rendering) : ArtifactRecord :=
  r.recordOfSize r.sizeBytes

/-- The same rendering, marked as served from the cache. -/
def asHit (r : Rendering) : Rendering :=
  { r with metadata := { r.metadata with cacheHit := true } }

end Rendering

/-- The name of an artifact's file: when it was made, the beginning of the
request's key, a mark on fallbacks, and the extension. -/
def artifactName (generatedAt : Timestamp) (key : String) (conversion : Conversion) : String :=
  "canvas_" ++ generatedAt.stamp ++ "_" ++ shortKey key ++
    (if conversion.fallback then "_fallback" else "") ++ "." ++ conversion.extension

/-! ## What calls share -/

/-- What a press makes documents and pictures with. -/
structure Tools where
  browser : Browser
  /-- Who paints the picture of a call, by the number of the call. -/
  painter : Nat → Picture.Painter

/-- Nothing gets in the way of pictures, if nothing else is said. -/
scoped instance : Coe Browser Tools :=
  ⟨fun browser => ⟨browser, fun _ => .sound⟩⟩

/-- The tools with which everything is made at once. -/
def Tools.obliging : Tools :=
  Browser.obliging

/-- The tools without a browser. -/
def Tools.missing : Tools :=
  Browser.missing

open Text

namespace Press

/-- What stays the same while a press works. -/
structure Studio extends Tools where
  settings : Settings
  templates : Template.Store
  /-- Why copies of artifacts cannot be written, if they cannot. -/
  shelfFault : Option FileFault
  /-- The time at which the clock of the press reads zero. -/
  epoch : Timestamp

/-- A rendering under way, from its composition on. -/
structure Work where
  key : String
  generatedAt : Timestamp
  /-- The composed markup. -/
  svg : String
  /-- When the call began to work. -/
  started : Nat

/-- Where a call stands.  Times are those at which waiting ends. -/
inductive Phase where
  /-- Waiting for a slot. -/
  | queued
  | rastering (work : Work) (ends : Nat)
  /-- Waiting for the document engine. -/
  | paginating (work : Work)
  | saving (work : Work) (conversion : Conversion) (ends : Nat)

/-- A call in progress. -/
structure Job where
  id : Nat
  /-- The governor's ticket. -/
  ticket : Nat
  document : Document
  options : RenderOptions
  /-- When the call times out, once it works. -/
  deadline : Option Nat
  phase : Phase

/-- A call that has ended. -/
structure Finished where
  id : Nat
  document : Document
  options : RenderOptions
  /-- When it ended. -/
  time : Nat
  outcome : Except Fault Rendering

/-- Everything that calls share, and the calls in progress. -/
structure State where
  /-- Nanoseconds on the clock of the press. -/
  now : Nat
  governor : Governor
  cache : Option (Cache Rendering)
  /-- Renderings made. -/
  renders : Nat
  /-- Calls served from the cache. -/
  hits : Nat
  /-- Calls that failed with a slot. -/
  failures : Nat
  engine : Engine
  /-- Calls in progress, in order of arrival. -/
  jobs : List Job
  /-- The number of the next call. -/
  nextId : Nat
  /-- Calls that have ended, the latest first. -/
  finished : List Finished
  /-- What has been reported, in order. -/
  log : List LogLine

namespace State

/-- A press that has done nothing. -/
def fresh (settings : Settings) (governor : Governor) : State where
  now := 0
  governor := governor
  cache :=
    if settings.enableCaching then some (.empty (millis settings.cacheExpiryMs)) else none
  renders := 0
  hits := 0
  failures := 0
  engine := .fresh
  jobs := []
  nextId := 0
  finished := []
  log := []

/-- Report something. -/
def report (lines : List LogLine) (s : State) : State :=
  { s with log := s.log ++ lines }

/-- The call with a number. -/
def job? (s : State) (id : Nat) : Option Job :=
  s.jobs.find? fun j => j.id == id

/-- The calls other than the one with a number. -/
def othersThan (s : State) (id : Nat) : List Job :=
  s.jobs.filter fun j => j.id != id

/-- Let a call wait in a phase; it keeps its place among the calls. -/
def wait (job : Job) (phase : Phase) (s : State) : State :=
  { s with
    jobs := s.jobs.map fun j => if j.id = job.id then { job with phase := phase } else j }

/-- The result of a call. -/
def result? (s : State) (id : Nat) : Option (Except Fault Rendering) :=
  (s.finished.find? fun f => f.id == id).map (·.outcome)

/-- The time of day. -/
def timeOfDay (studio : Studio) (s : State) : Timestamp :=
  let nanos := studio.epoch.nanos + s.now
  ⟨studio.epoch.seconds + (nanos / 1000000000 : Nat), nanos % 1000000000⟩

end State

/-- How long raster work takes. -/
def rasterTime : Nat := 200000

/-- How long writing a copy takes. -/
def saveTime : Nat := 50000

/-- How long handing work to the browser takes. -/
def handoverTime : Nat := 50000

/-- What a failed call reports. -/
def failureLog (document : Document) (fault : Fault) : List LogLine :=
  [⟨.warn, document.kind.name ++ " render failed: " ++ fault.message⟩]

namespace State

/-- A call that works comes to its end: its slot comes back, and a failure is
counted and reported. -/
def finish (job : Job) (outcome : Except Fault Rendering) (s : State) : State :=
  let s := { s with
    jobs := s.othersThan job.id
    governor := s.governor.release job.ticket
    finished := ⟨job.id, job.document, job.options, s.now, outcome⟩ :: s.finished }
  match outcome with
  | .ok _ => s
  | .error fault =>
    { s with failures := s.failures + 1 }.report (failureLog job.document fault)

/-- The rendering that a conversion makes. -/
def renderingOf (job : Job) (work : Work) (conversion : Conversion) (filepath : Option String)
    (s : State) : Rendering where
  format := conversion.format
  mediaType := conversion.mediaType
  body := conversion.body
  filename := artifactName work.generatedAt work.key conversion
  filepath := filepath
  size := Thunk.mk fun _ => conversion.body.size
  metadata :=
    { processingTimeMs := (s.now - work.started) / 1000000
      requestedFormat := job.options.format
      format := conversion.format
      theme := job.options.theme
      width := job.options.width
      height := job.options.height
      dpi := job.options.dpi
      generatedAt := work.generatedAt
      cacheHit := false
      fallback := conversion.fallback }

/-- A conversion is done and its copy written or given up: store and deliver. -/
def deliver (job : Job) (work : Work) (conversion : Conversion) (filepath : Option String)
    (s : State) : State :=
  let rendering := s.renderingOf job work conversion filepath
  let s : State := { s with
    renders := s.renders + 1
    cache := s.cache.map fun cache => cache.put s.now work.key rendering }
  s.finish job (.ok rendering)

/-- A conversion has ended: write a copy if there is a place for it. -/
def converted (studio : Studio) (job : Job) (work : Work)
    (outcome : Except Fault Conversion) (s : State) : State :=
  match outcome with
  | .error fault => s.finish job (.error fault)
  | .ok conversion =>
    match studio.settings.outputPath with
    | none => s.deliver job work conversion none
    | some _ => s.wait job (.saving work conversion (s.now + saveTime))

/-- The engine has answered a call that waits for it. -/
def answered (studio : Studio) (job : Job) (work : Work) (answer : Engine.Reply) (s : State) :
    State :=
  match answer with
  | .unavailable reason =>
    (s.report (Engine.fallbackLog reason)).converted studio job work (.ok (.vector work.svg true))
  | .printed pdf => s.converted studio job work (.ok (.paginated pdf job.options))
  | .misprinted fault => s.converted studio job work (.error fault)
  | _ => s

/-- Pass an answer of the engine on to the call that waits for it. -/
def passOn (studio : Studio) (s : State) (answer : Nat × Engine.Reply) : State :=
  match s.job? answer.1 with
  | some job =>
    match job.phase with
    | .paginating work => s.answered studio job work answer.2
    | _ => s
  | none => s

/-- Let the engine take a step and pass its answers on, in the order in which it
gave them. -/
def withEngine (studio : Studio) (engine : Engine) (lines : List LogLine) (s : State) : State :=
  let answers := (engine.replies.take (engine.replies.length - s.engine.replies.length)).reverse
  answers.foldl (passOn studio) ({ s with engine := engine }.report lines)

/-- Convert the composed markup of a call. -/
def convert (studio : Studio) (job : Job) (work : Work) (s : State) : State :=
  match job.options.format with
  | .vector => s.converted studio job work (.ok (.vector work.svg false))
  | .raster => s.wait job (.rastering work (s.now + rasterTime))
  | .paginated =>
    let s := s.wait job (.paginating work)
    let request := Engine.Request.print (Page.around work.svg) .a4Landscape
    s.withEngine studio (s.engine.ask s.now job.id request)
      (s.engine.askLog studio.settings.engine request)

/-- Compose the document of a call. -/
def composed (studio : Studio) (job : Job) (key : String) (s : State) : State :=
  let generatedAt := s.timeOfDay studio
  let template := studio.templates.get job.document.kind job.options.theme
  let svg := job.document.compose template job.options generatedAt
  (s.report (job.document.composeLog svg)).convert studio job ⟨key, generatedAt, svg, s.now⟩

/-- A call with a slot begins to work. -/
def begin (studio : Studio) (job : Job) (s : State) : State :=
  let job := { job with
    deadline := studio.settings.renderTimeoutMs.map fun ms => s.now + millis ms }
  let key := cacheKey job.document job.options
  match s.cache with
  | none => s.composed studio job key
  | some cache =>
    let (found, next) := cache.get s.now key
    let s := { s with cache := some next }.report (cache.getLog s.now key)
    match found with
    | .hit rendering =>
      { s with hits := s.hits + 1 }.report [⟨.debug, "Cache hit for " ++ shortKey key⟩]
        |>.finish job (.ok rendering.asHit)
    | _ => (s.report [⟨.debug, "Cache miss for " ++ shortKey key⟩]).composed studio job key

/-- A call ends before it has a slot. -/
def reject (document : Document) (options : RenderOptions) (fault : Fault) (s : State) : State :=
  { s with
    nextId := s.nextId + 1
    finished := ⟨s.nextId, document, options, s.now, .error fault⟩ :: s.finished }

/-- A call arrives. -/
def arrive (studio : Studio) (document : Document) (options : RenderOptions) (s : State) :
    State :=
  match options.validate with
  | .error cause => s.reject document options (.config cause)
  | .ok () =>
    let (grant, governor) := s.governor.acquire
    let job : Job := ⟨s.nextId, s.governor.nextTicket, document, options, none, .queued⟩
    let entered (s : State) : State :=
      { s with governor := governor, jobs := s.jobs ++ [job], nextId := s.nextId + 1 }
    match grant with
    | .refused waiting limit =>
      { s with governor := governor }.reject document options (.queueFull waiting limit)
    | .queued => (entered s).report s.governor.acquireLog
    | .granted => (entered s).begin studio job

/-- A waiting call looks whether a slot has been set aside for it. -/
def look (studio : Studio) (id : Nat) (s : State) : State :=
  match s.job? id with
  | some job =>
    match job.phase with
    | .queued =>
      if job.ticket ∈ s.governor.promised then
        { s with governor := s.governor.poll job.ticket }.begin studio job
      else s
    | _ => s
  | none => s

/-- The path of a call's copy. -/
def copyPath (studio : Studio) (work : Work) (conversion : Conversion) : String :=
  Path.join (studio.settings.outputPath.getD "")
    (artifactName work.generatedAt work.key conversion)

/-- What a call waits for on its own comes to an end. -/
def proceed (studio : Studio) (id : Nat) (s : State) : State :=
  match s.job? id with
  | some job =>
    match job.phase with
    | .rastering work _ =>
      s.converted studio job work
        (Conversion.raster (studio.painter job.id) work.svg job.options
          studio.settings.rasterQuality)
    | .saving work conversion _ =>
      let path := copyPath studio work conversion
      match studio.shelfFault with
      | none => s.deliver job work conversion (some path)
      | some fault =>
        (s.report [⟨.warn, "Failed to write artifact " ++ quoted path ++ ": " ++ fault.message⟩])
          |>.deliver job work conversion none
    | _ => s
  | none => s

/-- A working call has used up its time. -/
def expire (studio : Studio) (id : Nat) (s : State) : State :=
  match s.job? id, studio.settings.renderTimeoutMs with
  | some job, some ms =>
    match job.phase with
    | .queued => s
    | _ => { s with engine := s.engine.leave id }.finish job (.error (.timeout ms))
  | _, _ => s

/-- A caller gives up, be it of the press or of its engine: his call is dropped, and
nothing is counted. -/
def leave (id : Nat) (s : State) : State :=
  match s.job? id with
  | some job =>
    { s with
      jobs := s.othersThan id
      governor := (s.governor.release job.ticket).cancel job.ticket
      engine := s.engine.leave id }
  | none => { s with engine := s.engine.leave id }

/-- What keeps the engine busy comes to its end. -/
def settle (studio : Studio) (s : State) : State :=
  s.withEngine studio (s.engine.settle studio.settings.engine studio.browser s.now)
    (s.engine.settleLog studio.settings.engine studio.browser)

/-- The first of those who wait for the engine has his turn. -/
def serveNext (studio : Studio) (s : State) : State :=
  s.withEngine studio (s.engine.serveNext s.now)
    (s.engine.serveNextLog studio.settings.engine)

/-- A print comes to its end. -/
def endPrint (studio : Studio) (who : Nat) (s : State) : State :=
  s.withEngine studio (s.engine.endPrint studio.browser who) []

/-- Somebody asks the engine for something, apart from the calls of the press. -/
def askEngine (studio : Studio) (request : Engine.Request) (s : State) : State :=
  { s with nextId := s.nextId + 1 }.withEngine studio (s.engine.ask s.now s.nextId request)
    (s.engine.askLog studio.settings.engine request)

/-- Let time pass. -/
def advance (nanos : Nat) (s : State) : State :=
  { s with now := s.now + nanos }

/-- Take a slot without rendering anything.  A caller who would have to wait leaves
at once. -/
def hold (s : State) : Grant × State :=
  let (grant, governor) := s.governor.acquire
  match grant with
  | .queued => (.queued, { s with governor := governor.cancel s.governor.nextTicket })
  | grant => (grant, { s with governor := governor })

/-- Give up a slot taken by `hold`. -/
def unhold (ticket : Nat) (s : State) : State :=
  { s with governor := s.governor.release ticket }

/-- Drop everything from the cache. -/
def clearCache (s : State) : State :=
  { s with cache := s.cache.map Cache.clear }

/-- Drop what is stale from the cache. -/
def purgeCache (s : State) : State :=
  { s with cache := s.cache.map fun c => c.purge s.now }

/-- The number of entries in the cache. -/
def cached (s : State) : Nat :=
  (s.cache.map Cache.size).getD 0

end State

/-- Something that happens to a press. -/
inductive Event where
  | arrive (document : Document) (options : RenderOptions)
  | look (id : Nat)
  | proceed (id : Nat)
  | expire (id : Nat)
  | leave (id : Nat)
  | settle
  | serveNext
  | endPrint (who : Nat)
  | askEngine (request : Engine.Request)
  | hold
  | unhold (ticket : Nat)
  | advance (nanos : Nat)
  | clearCache
  | purgeCache
  /-- Somebody else reports something. -/
  | report (lines : List LogLine)

/-- The press after an event. -/
def State.step (studio : Studio) (s : State) : Event → State
  | .arrive document options => s.arrive studio document options
  | .look id => s.look studio id
  | .proceed id => s.proceed studio id
  | .expire id => s.expire studio id
  | .leave id => s.leave id
  | .settle => s.settle studio
  | .serveNext => s.serveNext studio
  | .endPrint who => s.endPrint studio who
  | .askEngine request => s.askEngine studio request
  | .hold => s.hold.2
  | .unhold ticket => s.unhold ticket
  | .advance nanos => s.advance nanos
  | .clearCache => s.clearCache
  | .purgeCache => s.purgeCache
  | .report lines => s.report lines

/-- The press after events in order. -/
def State.run (studio : Studio) (s : State) (events : List Event) : State :=
  events.foldl (State.step studio) s

end Press

end CanvasPress

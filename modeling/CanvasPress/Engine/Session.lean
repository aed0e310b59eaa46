/-
# Using the engine from one place

A session takes engine operations one after the other and waits for each of
them.  Its clock moves only while it waits, in nanoseconds.
-/

import CanvasPress.Engine.Basic

namespace CanvasPress

/-- Nanoseconds of a number of milliseconds. -/
def millis (ms : Nat) : Nat := ms * 1000000

namespace Engine

/-- When a task will come to its end. -/
def Task.ends (settings : LaunchSettings) (browser : Browser) : Task → Nat
  | .launch l =>
    if isTooSlow settings browser l.number then l.started + millis settings.launchTimeoutMs
    else l.started + millis (browser.launch l.number).delayMs
  | .close c => c.started + millis (browser.close c.number).delayMs

/-- When a print will come to its end. -/
def Printing.ends (browser : Browser) (p : Printing) : Nat :=
  p.started + millis (browser.print p.number p.html p.page).delayMs

/-- An engine in use from one place. -/
structure Session where
  settings : LaunchSettings
  browser : Browser
  painter : Picture.Painter
  now : Nat
  engine : Engine
  /-- The number of the next request. -/
  next : Nat
  /-- What has been reported, in order. -/
  log : List LogLine

namespace Session

/-- A session with an engine that nobody has used. -/
def start (settings : LaunchSettings) (browser : Browser)
    (painter : Picture.Painter := .sound) : Session :=
  ⟨settings, browser, painter, 0, .fresh, 0, []⟩

/-- Let those who wait have their turns until the engine is busy. -/
def serveAll : Nat → Session → Session
  | 0, s => s
  | turns + 1, s =>
    serveAll turns { s with
      engine := s.engine.serveNext s.now
      log := s.log ++ s.engine.serveNextLog s.settings }

/-- Wait for the end of what keeps the engine busy, or else for the end of the
first print. -/
def await (s : Session) : Session :=
  match s.engine.busy, s.engine.printing with
  | some task, _ =>
    let now := max s.now (task.ends s.settings s.browser)
    serveAll s.engine.queue.length { s with
      now := now
      engine := s.engine.settle s.settings s.browser now
      log := s.log ++ s.engine.settleLog s.settings s.browser }
  | none, p :: _ =>
    { s with
      now := max s.now (p.ends s.browser)
      engine := s.engine.endPrint s.browser p.caller }
  | none, [] => s

/-- Send a request off without waiting for its answer. -/
def send (request : Request) (s : Session) : Session :=
  { s with
    engine := s.engine.ask s.now s.next request
    next := s.next + 1
    log := s.log ++ s.engine.askLog s.settings request }

/-- Wait for the answer to a request, through at most so many ends. -/
def awaitReply (number : Nat) : Nat → Session → Reply × Session
  | 0, s => ((s.engine.replyTo number).getD .done, s)
  | ends + 1, s =>
    match s.engine.replyTo number with
    | some answer => (answer, s)
    | none => awaitReply number ends s.await

/-- Send a request and wait for its answer.  Before it there may be the end of an
earlier launch, of its own launch or closing, and of its print. -/
def call (request : Request) (s : Session) : Reply × Session :=
  (s.send request).awaitReply s.next 3

/-- Send several requests for the engine at once and wait for all answers. -/
def callMany (count : Nat) (s : Session) : List Reply × Session :=
  let first := s.next
  let s := (List.range count).foldl (fun s _ => s.send .obtain) s
  let s := s.await
  let s := s.await
  ((List.range count).map fun i => (s.engine.replyTo (first + i)).getD .done, s)

/-- Ask for the engine and leave at once.  The result tells whether an answer was
given before that. -/
def abandon (s : Session) : Option Reply × Session :=
  let number := s.next
  let s := s.send .obtain
  match s.engine.replyTo number with
  | some answer => (some answer, s)
  | none => (none, { s with engine := s.engine.leave number })

/-- Print a page. -/
def printBytes (html : String) (size : PageSize) (s : Session) :
    Except Fault ByteArray × Session :=
  match s.call (.print html size) with
  | (.printed pdf, s) => (.ok pdf, s)
  | (.misprinted fault, s) => (.error fault, s)
  | (.unavailable reason, s) => (.error (.engineUnavailable reason), s)
  | (_, s) => (.error (.other ""), s)

/-- A picture printed on a page, or the reason why there is no engine. -/
def paginateBytes (svg : String) (s : Session) :
    Except Fault (Except String ByteArray) × Session :=
  match s.printBytes (Page.around svg) .a4Landscape with
  | (.ok pdf, s) => (.ok (.ok pdf), s)
  | (.error (.engineUnavailable reason), s) =>
    (.ok (.error reason), { s with log := s.log ++ fallbackLog reason })
  | (.error fault, s) => (.error fault, s)

/-- Print a page and read what comes of it. -/
def print (html : String) (size : PageSize) (s : Session) : Except Fault String × Session :=
  (s.printBytes html size).map (Except.map readable) id

/-- Print a picture on a page and read what comes of it. -/
def paginate (svg : String) (s : Session) : Except Fault (Except String String) × Session :=
  (s.paginateBytes svg).map (Except.map (Except.map readable)) id

/-- Convert composed markup into the requested format. -/
def convert (svg : String) (options : RenderOptions) (quality : Nat) (s : Session) :
    Except Fault Conversion × Session :=
  match options.format with
  | .vector => (.ok (.vector svg false), s)
  | .raster => (Conversion.raster s.painter svg options quality, s)
  | .paginated =>
    match s.paginateBytes svg with
    | (.ok (.ok pdf), s) => (.ok (.paginated pdf options), s)
    | (.ok (.error _), s) => (.ok (.vector svg true), s)
    | (.error fault, s) => (.error fault, s)

end Session

end Engine

end CanvasPress

/-
# The document engine

The engine is a browser that is launched at its first use and shared from then
on.  There is one launch attempt; after a failure every caller is told the same
reason and the browser is left alone.  Only one thing happens to the engine at
a time: while a launch is under way or a browser is being closed, everything
else queues behind it, and those who queue have their turns in order of
arrival.  Prints do not keep the engine busy; any number may be under way.

A caller who leaves stops waiting, but the launch he started goes on.  One who
leaves while the browser is closed for him frees the engine, and what was to be
recorded afterwards is not.

The functions here say what each step does to the engine; the clock, and who
takes which step when, belong to the caller.
-/

import CanvasPress.Conversion
import CanvasPress.Log

namespace CanvasPress

/-! ## The browser behind the document engine

What is known about a browser is how its calls end and how long they take.
Calls of one sort are numbered from zero, so a browser may answer differently
each time.  All statements about the engine hold for every browser.
-/

/-- A call to the browser: its duration in milliseconds and its end. -/
structure Call (α : Type) where
  delayMs : Nat
  ending : Ending α
deriving Inhabited

/-- A browser that can be launched, print and be closed. -/
structure Browser where
  launch : Nat → Call Unit
  /-- While a browser is held back its launch does not come to an end. -/
  heldBack : Bool
  print : Nat → String → PageSize → Call ByteArray
  close : Nat → Call Unit

namespace Browser

/-- A browser whose launch always fails in this way. -/
def unlaunchable (fault : Fault) : Browser where
  launch := fun _ => ⟨0, .failed fault⟩
  heldBack := false
  print := fun _ _ _ => ⟨0, .failed fault⟩
  close := fun _ => ⟨0, .returned ()⟩

/-- A browser that does everything at once. -/
def obliging : Browser where
  launch := fun _ => ⟨0, .returned ()⟩
  heldBack := false
  print := fun _ html _ => ⟨0, .returned html.toUTF8⟩
  close := fun _ => ⟨0, .returned ()⟩

/-- No browser is part of the installation. -/
def unavailable (reason : String) : Browser :=
  unlaunchable (.launch reason)

/-- The browser's program cannot be started. -/
def missing : Browser :=
  unlaunchable (.launch "Failed to launch browser")

end Browser

/-! ## The engine -/

open Text

namespace Engine

/-- What is known about the engine between two steps. -/
inductive Status where
  | uninitialized
  | ready
  /-- Final: nothing is tried again. -/
  | failed (reason : String)
deriving DecidableEq, Inhabited

/-- What a running engine is wanted for. -/
inductive Purpose where
  /-- To know that it runs. -/
  | readiness
  | print (html : String) (page : PageSize)
deriving DecidableEq

/-- What can be asked of the engine. -/
inductive Request where
  /-- Obtain the engine, launching it if that was never tried. -/
  | use (purpose : Purpose)
  /-- Fail for good. -/
  | disable (reason : String)
  | shutDown
  /-- Look at the status. -/
  | inspect
deriving DecidableEq

/-- Obtain the engine without printing anything. -/
def Request.obtain : Request :=
  .use .readiness

/-- Print a page. -/
def Request.print (html : String) (page : PageSize) : Request :=
  .use (.print html page)

section

/-- Bytes are equal if they are the same one after the other. -/
local instance decidableEqBytes : DecidableEq ByteArray :=
  fun bytes bytes' => decidable_of_iff (bytes.data = bytes'.data) ByteArray.ext_iff.symm

/-- The answer to a request. -/
inductive Reply where
  | ready
  | unavailable (reason : String)
  | printed (pdf : ByteArray)
  | misprinted (fault : Fault)
  | done
  | status (found : Status) (attempts printed : Nat)
deriving DecidableEq

end

/-- A launch under way. -/
structure Launch where
  started : Nat
  /-- The number of this call to the launcher. -/
  number : Nat
  /-- Who asked for it and why, unless he has left. -/
  caller : Option (Nat × Purpose)
deriving DecidableEq

/-- Why a browser is closed. -/
inductive Cause where
  | disabled (reason : String)
  | shutDown
deriving DecidableEq

/-- A browser being closed. -/
structure Closing where
  started : Nat
  /-- The number of this call to close. -/
  number : Nat
  caller : Nat
  cause : Cause
deriving DecidableEq

/-- What keeps the engine busy. -/
inductive Task where
  | launch (l : Launch)
  | close (c : Closing)
deriving DecidableEq

/-- A print under way. -/
structure Printing where
  started : Nat
  /-- The number of this call to print. -/
  number : Nat
  caller : Nat
  html : String
  page : PageSize
deriving DecidableEq

end Engine

/-- The document engine with its callers. -/
structure Engine where
  status : Engine.Status
  /-- What can be read of the status without waiting: whether a browser runs. -/
  available : Bool
  /-- Launch attempts since the last shutdown. -/
  attempts : Nat
  /-- Documents printed since the last shutdown. -/
  printed : Nat
  busy : Option Engine.Task
  /-- Requests that wait for their turn, in order of arrival. -/
  queue : List (Nat × Engine.Request)
  printing : List Engine.Printing
  /-- Calls made to the launcher. -/
  launches : Nat
  /-- Calls made to print. -/
  prints : Nat
  /-- Calls made to close a browser. -/
  closes : Nat
  /-- Answers given, the latest first. -/
  replies : List (Nat × Engine.Reply)
deriving DecidableEq

namespace Engine

/-- An engine that nobody has used. -/
def fresh : Engine :=
  ⟨.uninitialized, false, 0, 0, none, [], [], 0, 0, 0, []⟩

/-- Whether the engine is launched and not shut down. -/
def isAvailable (e : Engine) : Bool :=
  e.available

/-- Answer a caller. -/
def reply (e : Engine) (who : Nat) (answer : Reply) : Engine :=
  { e with replies := (who, answer) :: e.replies }

/-- The latest answer to a caller. -/
def replyTo (e : Engine) (who : Nat) : Option Reply :=
  (e.replies.find? fun r => r.1 == who).map (·.2)

/-- Hand the running engine to a caller. -/
def grant (now who : Nat) (purpose : Purpose) (e : Engine) : Engine :=
  match purpose with
  | .readiness => e.reply who .ready
  | .print html page =>
    { e with
      printing := e.printing ++ [⟨now, e.prints, who, html, page⟩]
      prints := e.prints + 1 }

/-- Begin to launch the browser. -/
def beginLaunch (now who : Nat) (purpose : Purpose) (e : Engine) : Engine :=
  { e with
    busy := some (.launch ⟨now, e.launches, some (who, purpose)⟩)
    attempts := e.attempts + 1
    launches := e.launches + 1 }

/-- Begin to close the running browser.  The status changes at once. -/
def beginClose (now who : Nat) (cause : Cause) (status : Status) (e : Engine) : Engine :=
  { e with
    status := status
    busy := some (.close ⟨now, e.closes, who, cause⟩)
    closes := e.closes + 1 }

/-- What is recorded, and answered, once no browser runs any more. -/
def conclude (who : Nat) (cause : Cause) (e : Engine) : Engine :=
  match cause with
  | .disabled _ => { e with available := false }.reply who .done
  | .shutDown => { e with attempts := 0, printed := 0 }.reply who .done

/-- Serve a request when the engine is not busy. -/
def serve (now who : Nat) (request : Request) (e : Engine) : Engine :=
  match request with
  | .use purpose =>
    match e.status with
    | .ready => e.grant now who purpose
    | .failed reason => e.reply who (.unavailable reason)
    | .uninitialized => e.beginLaunch now who purpose
  | .disable reason =>
    if e.status = .ready then e.beginClose now who (.disabled reason) (.failed reason)
    else { e with status := .failed reason }.conclude who (.disabled reason)
  | .shutDown =>
    if e.status = .ready then e.beginClose now who .shutDown .uninitialized
    else e.conclude who .shutDown
  | .inspect => e.reply who (.status e.status e.attempts e.printed)

/-- What the end of the browser reports. -/
def Cause.log : Cause → List LogLine
  | .disabled reason => [⟨.warn, "Document engine disabled: " ++ reason⟩]
  | .shutDown => [⟨.info, "Document engine shut down"⟩]

/-- What serving a request reports. -/
def serveLog (settings : LaunchSettings) (request : Request) (e : Engine) : List LogLine :=
  match request with
  | .use _ =>
    if e.status = .uninitialized then
      [⟨.info, "Launching document engine (timeout " ++ decimal settings.launchTimeoutMs ++
        "ms)"⟩]
    else []
  | .disable reason => if e.status = .ready then [] else (Cause.disabled reason).log
  | .shutDown => []
  | .inspect => []

/-- Whether a request that arrives is served at once. -/
def isIdle (e : Engine) : Bool :=
  e.busy.isNone && e.queue.isEmpty

/-- A request arrives.  It waits if the engine is busy or others wait. -/
def ask (now who : Nat) (request : Request) (e : Engine) : Engine :=
  if e.isIdle then e.serve now who request
  else { e with queue := e.queue ++ [(who, request)] }

/-- What the arrival of a request reports. -/
def askLog (settings : LaunchSettings) (request : Request) (e : Engine) : List LogLine :=
  if e.isIdle then e.serveLog settings request else []

/-- The first of those who wait has his turn, if the engine is not busy. -/
def serveNext (now : Nat) (e : Engine) : Engine :=
  match e.busy, e.queue with
  | none, (who, request) :: rest => { e with queue := rest }.serve now who request
  | _, _ => e

/-- What the turn of the first who waits reports. -/
def serveNextLog (settings : LaunchSettings) (e : Engine) : List LogLine :=
  match e.busy, e.queue with
  | none, (_, request) :: _ => e.serveLog settings request
  | _, _ => []

/-- A task that its caller has left.  Nobody stops a launch, but a browser that is
being closed keeps the engine busy only for as long as somebody waits. -/
def Task.withoutCaller (who : Nat) : Task → Option Task
  | .launch l => some (.launch { l with caller := l.caller.filter fun c => c.1 != who })
  | .close c => if c.caller = who then none else some (.close c)

/-- A caller leaves: his requests are dropped. -/
def leave (who : Nat) (e : Engine) : Engine :=
  { e with
    queue := e.queue.filter fun r => r.1 != who
    printing := e.printing.filter fun p => p.caller != who
    busy := e.busy.bind (Task.withoutCaller who) }

/-- Whether a launch takes longer than it may. -/
def isTooSlow (settings : LaunchSettings) (browser : Browser) (number : Nat) : Bool :=
  browser.heldBack || settings.launchTimeoutMs < (browser.launch number).delayMs

/-- The status that a launch leads to. -/
def launchStatus (settings : LaunchSettings) (browser : Browser) (number : Nat) : Status :=
  if isTooSlow settings browser number then
    .failed (Fault.timeout settings.launchTimeoutMs).message
  else
    match (browser.launch number).ending with
    | .returned () => .ready
    | .failed fault => .failed fault.message
    | .panicked report => .failed (abortReport "launch" report)

/-- What a status reports when a launch leads to it. -/
def Status.launchLog : Status → List LogLine
  | .ready => [⟨.info, "Document engine ready"⟩]
  | .failed reason =>
    [⟨.error, "Document engine unavailable, paginated output will fall back to SVG: " ++ reason⟩]
  | .uninitialized => []

/-- What a launch that has ended means for its caller. -/
def landFor (now : Nat) (caller : Option (Nat × Purpose)) (e : Engine) : Engine :=
  match caller, e.status with
  | some (who, purpose), .ready => e.grant now who purpose
  | some (who, _), .failed reason => e.reply who (.unavailable reason)
  | _, _ => e

/-- A launch has ended. -/
def endLaunch (settings : LaunchSettings) (browser : Browser) (now : Nat) (l : Launch)
    (e : Engine) : Engine :=
  let status := launchStatus settings browser l.number
  { e with status := status, available := status = Status.ready, busy := none }.landFor now l.caller

/-- A browser has been closed. -/
def endClose (c : Closing) (e : Engine) : Engine :=
  { e with available := false, busy := none }.conclude c.caller c.cause

/-- What keeps the engine busy comes to its end. -/
def settle (settings : LaunchSettings) (browser : Browser) (now : Nat) (e : Engine) : Engine :=
  match e.busy with
  | none => e
  | some (.launch l) => e.endLaunch settings browser now l
  | some (.close c) => e.endClose c

/-- What the closing of a browser reports. -/
def Closing.log (browser : Browser) (c : Closing) : List LogLine :=
  (match (browser.close c.number).ending with
    | .returned () => []
    | .failed fault => [⟨.warn, "Error while closing document engine: " ++ fault.message⟩]
    | .panicked report => [⟨.warn, abortReport "Close" report⟩]) ++ c.cause.log

/-- What the end of a task reports. -/
def settleLog (settings : LaunchSettings) (browser : Browser) (e : Engine) : List LogLine :=
  match e.busy with
  | none => []
  | some (.launch l) => (launchStatus settings browser l.number).launchLog
  | some (.close c) => c.log browser

/-- The result of a print. -/
def Printing.result (browser : Browser) (p : Printing) : Except Fault ByteArray :=
  Conversion.printed (browser.print p.number p.html p.page).ending

/-- The first print of a caller comes to its end. -/
def endPrint (browser : Browser) (who : Nat) (e : Engine) : Engine :=
  match e.printing.find? fun p => p.caller == who with
  | none => e
  | some p =>
    let e := { e with printing := e.printing.erase p }
    match p.result browser with
    | .ok pdf => { e with printed := e.printed + 1 }.reply who (.printed pdf)
    | .error fault => e.reply who (.misprinted fault)

/-- What the lack of an engine reports when a page was to be printed. -/
def fallbackLog (reason : String) : List LogLine :=
  [⟨.warn, "PDF requested but document engine unavailable (" ++ reason ++ "); returning SVG"⟩]

/-- A step of a run. -/
inductive Step where
  | ask (who : Nat) (request : Request)
  | leave (who : Nat)
  | settle
  | serveNext
  | endPrint (who : Nat)
deriving DecidableEq

/-- The engine after a step at some time. -/
def apply (settings : LaunchSettings) (browser : Browser) (now : Nat) (e : Engine) :
    Step → Engine
  | .ask who request => e.ask now who request
  | .leave who => e.leave who
  | .settle => e.settle settings browser now
  | .serveNext => e.serveNext now
  | .endPrint who => e.endPrint browser who

/-- The engine after steps in order.  Times are left out; they only tell when tasks
and prints began. -/
def run (settings : LaunchSettings) (browser : Browser) (e : Engine) (steps : List Step) :
    Engine :=
  steps.foldl (apply settings browser 0) e

end Engine

end CanvasPress

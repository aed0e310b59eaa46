/-
# The clock of a press

Which event comes next, and when.  Whoever has his turn with the engine goes
first, then a call for whom a slot has been set aside; then events come by the
time at which they are due, and of those due at one time the work comes before
the end of a launch, and that before the end of a call's time.  Every event
takes a moment itself.
-/

import CanvasPress.Press.Basic

namespace CanvasPress.Press

/-- How long an event itself takes. -/
def moment : Nat := 1000

/-- When the waiting of a phase ends by itself. -/
def Phase.ends? : Phase → Option Nat
  | .rastering _ time => some time
  | .saving _ _ time => some time
  | .queued => none
  | .paginating _ => none

namespace State

/-- Calls for whom a slot has been set aside. -/
def lookers (s : State) : List (Nat × Event) :=
  s.jobs.filterMap fun j =>
    match j.phase with
    | .queued => if j.ticket ∈ s.governor.promised then some (s.now, .look j.id) else none
    | _ => none

/-- Work that ends by itself. -/
def workers (s : State) : List (Nat × Event) :=
  s.jobs.filterMap fun j => j.phase.ends?.map fun time => (time, .proceed j.id)

/-- Prints that end by themselves. -/
def printers (studio : Studio) (s : State) : List (Nat × Event) :=
  s.engine.printing.map fun p => (p.ends studio.browser + handoverTime, .endPrint p.caller)

/-- The end of what keeps the engine busy. -/
def lander (studio : Studio) (s : State) : List (Nat × Event) :=
  match s.engine.busy with
  | some task => [(task.ends studio.settings.engine studio.browser + handoverTime, .settle)]
  | none => []

/-- Calls whose time is limited. -/
def expirers (s : State) : List (Nat × Event) :=
  s.jobs.filterMap fun j => j.deadline.map fun time => (time, .expire j.id)

/-- The first of the events that are due earliest. -/
def earliest : List (Nat × Event) → Option (Nat × Event)
  | [] => none
  | first :: rest =>
    match earliest rest with
    | none => some first
    | some other => if first.1 ≤ other.1 then some first else some other

/-- Whether somebody's turn with the engine has come. -/
def isTurn (s : State) : Bool :=
  s.engine.busy.isNone && !s.engine.queue.isEmpty

/-- The next event and its time. -/
def next? (studio : Studio) (s : State) : Option (Nat × Event) :=
  if s.isTurn then some (s.now, .serveNext)
  else
    match s.lookers with
    | first :: _ => some first
    | [] => earliest (s.workers ++ s.printers studio ++ s.lander studio ++ s.expirers)

/-- Let an event happen at its time, or now if that has passed. -/
def happen (studio : Studio) (time : Nat) (event : Event) (s : State) : State :=
  ({ s with now := max s.now time }.step studio event).advance moment

/-- Whether a time lies behind a limit. -/
def isBeyond (limit : Option Nat) (time : Nat) : Bool :=
  match limit with
  | some last => last < time
  | none => false

/-- Let events happen while a condition holds and the next one is due in time. -/
def driveWhile (studio : Studio) (goes : State → Bool) (limit : Option Nat) :
    Nat → State → State
  | 0, s => s
  | fuel + 1, s =>
    if goes s then
      match s.next? studio with
      | none => s
      | some (time, event) =>
        if isBeyond limit time then s
        else driveWhile studio goes limit fuel (s.happen studio time event)
    else s

/-- A bound on the number of events until all calls in progress are done. -/
def eventBound (s : State) : Nat :=
  8 * (s.jobs.length + s.engine.queue.length + s.engine.printing.length) + 8

/-- Let events happen while a condition holds. -/
def drive (studio : Studio) (goes : State → Bool) (s : State) : State :=
  driveWhile studio goes none s.eventBound s

/-- Let events happen until a time. -/
def driveUntil (studio : Studio) (time : Nat) (goes : State → Bool) (s : State) : State :=
  driveWhile studio goes (some time) s.eventBound s

/-- Wait until the engine can be spoken to. -/
def awaitEngine (studio : Studio) (s : State) : State :=
  s.drive studio fun s => !s.engine.isIdle

/-- One rendering from its call to its result.  `none` means that the caller gave
up before, after the given time. -/
def render (studio : Studio) (document : Document) (options : RenderOptions)
    (patience : Option Nat) (s : State) : Option (Except Fault Rendering) × State :=
  let id := s.nextId
  let unfinished (s : State) : Bool := (s.result? id).isNone
  let start := s.now
  let s := (s.arrive studio document options).advance moment
  match patience with
  | none =>
    let s := s.drive studio unfinished
    (s.result? id, s)
  | some time =>
    let s := s.driveUntil studio (start + time) unfinished
    match s.result? id with
    | some outcome => (some outcome, s)
    | none => (none, { s with now := max s.now (start + time) }.leave id)

/-- Let time pass, and what is due in it happen. -/
def sleep (studio : Studio) (nanos : Nat) (s : State) : State :=
  let time := s.now + nanos
  let s := s.driveUntil studio time fun _ => true
  { s with now := max s.now time }

/-- Ask the engine for something and wait for the answer. -/
def callEngine (studio : Studio) (request : Engine.Request) (s : State) :
    Option Engine.Reply × State :=
  let s := s.awaitEngine studio
  let id := s.nextId
  let s := (s.askEngine studio request).advance moment
  let s := s.drive studio fun s => (s.engine.replyTo id).isNone
  (s.engine.replyTo id, s)

/-- Close the press: shut its engine down. -/
def shutDown (studio : Studio) (s : State) : State :=
  ((s.report [⟨.info, "Shutting down canvas renderer"⟩]).callEngine studio .shutDown).2

end State

end CanvasPress.Press

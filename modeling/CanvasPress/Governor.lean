/-
# The governor of render slots

A governor lends a fixed number of slots.  Callers who find none free wait in
the order of their arrival, unless the queue has reached its limit.  A slot
that comes back goes to the first caller who has none promised; the caller
holds it once he looks, and until then counts as waiting.

Every call of `acquire` has a ticket of its own.  `promised` and `waiting` hold
tickets in order of arrival; together they are the queue.  The number of those
who wait is kept apart from the queue: a caller who finds no free slot counts
himself in before he looks at the limit, and counts himself out whenever he
stops waiting, be it because he is refused, because he leaves or because he has
got his slot.
-/

import CanvasPress.Decimal.Power
import CanvasPress.Fault
import CanvasPress.Log

namespace CanvasPress

open Text

/-- A governor and the callers it knows. -/
structure Governor where
  /-- The number of slots. -/
  capacity : Nat
  /-- How many callers may wait; no limit when absent. -/
  limit : Option Nat
  /-- Slots that nobody has. -/
  free : Nat
  /-- Callers who hold a slot. -/
  held : List Nat
  /-- Waiting callers for whom a slot has been set aside. -/
  promised : List Nat
  /-- Waiting callers without a slot. -/
  waiting : List Nat
  /-- How many callers have counted themselves in and not out. -/
  queued : Nat
  /-- The ticket of the next caller. -/
  nextTicket : Nat
deriving DecidableEq, Inhabited

/-- The answer to a caller. -/
inductive Grant where
  | granted
  | queued
  | refused (waiting limit : Nat)
deriving DecidableEq

namespace Governor

/-- The greatest number of slots that a governor can count. -/
def maxCapacity : Nat := twoTo 61 - 1

/-- The report when more slots are asked for than can be counted. -/
def capacityReport : String :=
  "a semaphore may not have more than MAX_PERMITS permits (" ++ decimal maxCapacity ++ ")"

/-- A governor of at least one slot. -/
def ofCapacity (slots : Nat) (limit : Option Nat) : Governor :=
  let capacity := max slots 1
  ⟨capacity, limit, capacity, [], [], [], 0, 0⟩

/-- A governor, unless there are too many slots to count. -/
def make (slots : Nat) (limit : Option Nat) : Except String Governor :=
  if maxCapacity < slots then .error capacityReport else .ok (ofCapacity slots limit)

/-- Slots that are held or promised. -/
def active (g : Governor) : Nat :=
  g.capacity - g.free

/-- The callers who wait, in order of arrival. -/
def queue (g : Governor) : List Nat :=
  g.promised ++ g.waiting

/-- A caller counts himself in. -/
def countIn (g : Governor) : Governor :=
  { g with queued := g.queued + 1 }

/-- A caller counts himself out. -/
def countOut (g : Governor) : Governor :=
  { g with queued := g.queued - 1 }

/-- The limit that so many callers ahead have reached, if there is one. -/
def limitReached? (g : Governor) (ahead : Nat) : Option Nat :=
  g.limit.filter fun limit => limit ≤ ahead

/-- Ask for a slot under the next ticket. -/
def acquire (g : Governor) : Grant × Governor :=
  if 0 < g.free then
    (.granted, { g with
      free := g.free - 1
      held := g.nextTicket :: g.held
      nextTicket := g.nextTicket + 1 })
  else
    let ahead := g.queued
    let counted := g.countIn
    match g.limitReached? ahead with
    | some limit => (.refused ahead limit, { counted.countOut with nextTicket := g.nextTicket + 1 })
    | none =>
      (.queued, { counted with
        waiting := g.waiting ++ [g.nextTicket]
        nextTicket := g.nextTicket + 1 })

/-- What `acquire` reports. -/
def acquireLog (g : Governor) : List LogLine :=
  match g.acquire.1 with
  | .queued =>
    [⟨.debug, "All " ++ decimal g.capacity ++ " render slots busy; queued behind " ++
      decimal g.queued ++ " waiter(s)"⟩]
  | _ => []

/-- A slot comes back: it is promised to the first caller without one, or free. -/
def returnSlot (g : Governor) : Governor :=
  match g.waiting with
  | [] => { g with free := g.free + 1 }
  | first :: rest => { g with promised := g.promised ++ [first], waiting := rest }

/-- Give up the slot held under a ticket. -/
def release (g : Governor) (ticket : Nat) : Governor :=
  if ticket ∈ g.held then returnSlot { g with held := g.held.erase ticket } else g

/-- Stop waiting.  A slot that was promised comes back. -/
def cancel (g : Governor) (ticket : Nat) : Governor :=
  if ticket ∈ g.promised then
    (returnSlot { g with promised := g.promised.erase ticket }).countOut
  else if ticket ∈ g.waiting then
    { g with waiting := g.waiting.erase ticket }.countOut
  else g

/-- A waiting caller looks: a promised slot becomes his. -/
def poll (g : Governor) (ticket : Nat) : Governor :=
  if ticket ∈ g.promised then
    { g with promised := g.promised.erase ticket, held := ticket :: g.held }.countOut
  else g

/-- Whether a ticket holds a slot. -/
def holds (g : Governor) (ticket : Nat) : Bool :=
  g.held.contains ticket

/-- A step of a run. -/
inductive Step where
  | acquire
  | release (ticket : Nat)
  | cancel (ticket : Nat)
  | poll (ticket : Nat)
deriving DecidableEq

/-- The governor after a step. -/
def apply (g : Governor) : Step → Governor
  | .acquire => g.acquire.2
  | .release ticket => g.release ticket
  | .cancel ticket => g.cancel ticket
  | .poll ticket => g.poll ticket

/-- The governor after steps in order. -/
def run (g : Governor) (steps : List Step) : Governor :=
  steps.foldl apply g

end Governor

end CanvasPress

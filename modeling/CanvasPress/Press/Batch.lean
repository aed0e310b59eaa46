/-
# Batches

A batch renders many documents in groups of a fixed size.  All calls of a group
begin in order before any of them waits; the next group begins when every call
of the group has ended.  Each item succeeds or fails on its own.
-/

import CanvasPress.Press.Clock

namespace CanvasPress

open Text

/-- The result of one item of a batch. -/
structure BatchItem where
  index : Nat
  document : Document
  outcome : Except Fault Rendering

namespace BatchItem

/-- The reference of a document in a batch. -/
def reference (document : Document) (index : Nat) : String :=
  document.id.getD ("canvas-" ++ decimal index)

/-- The reference of an item's document. -/
def canvasId (item : BatchItem) : String :=
  reference item.document item.index

/-- Whether the item succeeded. -/
def isSuccess (item : BatchItem) : Bool :=
  item.outcome.isOk

/-- What a failed item reports. -/
def log (item : BatchItem) : List LogLine :=
  match item.outcome with
  | .ok _ => []
  | .error fault =>
    [⟨.warn, "Batch item " ++ decimal item.index ++ " (" ++ item.canvasId ++ ") failed: " ++
      fault.message⟩]

end BatchItem

/-- Cut a list into groups of `size + 1` elements. -/
def groupsOf {α : Type} (size : Nat) (items : List α) : List (List α) :=
  match items with
  | [] => []
  | first :: rest => (first :: rest.take size) :: groupsOf size (rest.drop size)
termination_by items.length
decreasing_by
  have : (rest.drop size).length ≤ rest.length := by
    rw [List.length_drop]
    exact Nat.sub_le _ _
  exact Nat.lt_succ_of_le this

namespace Press.State

/-- Begin all calls of a group in order.  The result lists their numbers. -/
def beginAll (studio : Studio) (options : RenderOptions) :
    List Document → State → List (Nat × Document) × State
  | [], s => ([], s)
  | document :: rest, s =>
    let id := s.nextId
    let (ids, s) := beginAll studio options rest
      ((s.arrive studio document options).advance moment)
    ((id, document) :: ids, s)

/-- Whether a call has not ended. -/
def isOpen (s : State) (id : Nat) : Bool :=
  (s.result? id).isNone

/-- The items of a group whose calls have ended, numbered from an index on. -/
def itemsOf (s : State) : Nat → List (Nat × Document) → List BatchItem
  | _, [] => []
  | index, (id, document) :: rest =>
    match s.result? id with
    | some outcome => ⟨index, document, outcome⟩ :: s.itemsOf (index + 1) rest
    | none => s.itemsOf (index + 1) rest

/-- Render a group to its end. -/
def renderGroup (studio : Studio) (options : RenderOptions) (base : Nat)
    (documents : List Document) (s : State) : List BatchItem × State :=
  let (calls, s) := beginAll studio options documents s
  let s := s.drive studio fun s => calls.any fun c => s.isOpen c.1
  let items := s.itemsOf base calls
  (items, s.report (items.flatMap BatchItem.log))

/-- Render groups one after the other. -/
def renderGroups (studio : Studio) (options : RenderOptions) :
    Nat → List (List Document) → State → List BatchItem × State
  | _, [], s => ([], s)
  | base, group :: rest, s =>
    let (items, s) := renderGroup studio options base group s
    let (more, s) := renderGroups studio options (base + group.length) rest s
    (items ++ more, s)

/-- Render documents in groups of the given size, at least one. -/
def renderBatch (studio : Studio) (documents : List Document) (batch : BatchOptions)
    (s : State) : List BatchItem × State :=
  let (items, s) :=
    renderGroups studio batch.options 0 (groupsOf (batch.concurrency - 1) documents) s
  let failed := (items.filter fun item => !item.isSuccess).length
  (items, s.report [⟨.info, "Batch of " ++ decimal documents.length ++ " finished: " ++
    decimal (documents.length - failed) ++ " succeeded, " ++ decimal failed ++ " failed"⟩])

end Press.State

end CanvasPress

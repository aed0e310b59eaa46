/-
# What a batch returns

A batch is a run in which its documents arrive one after the other, group by group, with
what the clock brings about between the groups and after the last.  Its calls are numbered
in the order of the documents and each of them gets its result, so the items of a batch are
the results of its documents in order, whatever becomes of each.

If nothing but its own course decides what becomes of a call, the result of an item does not
depend on the other documents, except that they may put off the time at which it begins.  It
does not depend on the order of events either, which is the clock's in `renderBatch` and may be
any in a batch.
-/

import CanvasPress.Proofs.Press.Faults
import CanvasPress.Proofs.Press.Isolation
import CanvasPress.Proofs.Press.Slots

namespace CanvasPress

/-! ## Groups -/

theorem flatten_groupsOf {α : Type} (size : Nat) (items : List α) :
    (groupsOf size items).flatten = items := by
  induction items using groupsOf.induct size with
  | case1 => simp [groupsOf]
  | case2 first rest ih =>
      rw [groupsOf, List.flatten_cons, ih, List.cons_append, List.take_append_drop]

/-- All groups are full but the last, so a group begins at a multiple of their size. -/
theorem getElem?_groupsOf {α : Type} (size : Nat) (items : List α) (number : Nat) :
    (groupsOf size items)[number]? =
      if number * (size + 1) < items.length then
        some ((items.drop (number * (size + 1))).take (size + 1))
      else none := by
  induction number generalizing items with
  | zero =>
      cases items with
      | nil => simp [groupsOf]
      | cons first rest => simp [groupsOf]
  | succ number ih =>
      cases items with
      | nil => simp [groupsOf]
      | cons first rest =>
          have hstart : (number + 1) * (size + 1) = size + number * (size + 1) + 1 := by
            rw [Nat.succ_mul]
            omega
          rw [groupsOf, List.getElem?_cons_succ, ih, List.length_drop, List.drop_drop, hstart,
            List.drop_succ_cons, List.length_cons]
          refine if_congr ?_ rfl rfl
          omega

namespace Press

variable {studio : Studio} {s last : State} {id index : Nat} {event : Event}
  {documents : List Document} {items : List BatchItem} {out : List Nat}

/-! ## The events of a batch -/

/-- The document and the options of a call that arrives. -/
def Event.request? : Event → Option (Document × RenderOptions)
  | .arrive document options => some (document, options)
  | _ => none

/-- Whether an event may be part of a batch. -/
def Event.isBatchwork : Event → Bool
  | .arrive _ _ => true
  | .report _ => true
  | event => event.isClockwork

theorem Event.isBatchwork_of_isClockwork (h : event.isClockwork = true) :
    event.isBatchwork = true := by
  cases event with
  | arrive document options => rfl
  | report lines => rfl
  | _ => exact h

theorem Event.request?_of_isClockwork (h : event.isClockwork = true) : event.request? = none := by
  cases event with
  | arrive document options => cases h
  | _ => rfl

theorem Event.isGentle_of_isBatchwork (h : event.isBatchwork = true) : event.isGentle = true := by
  cases event with
  | hold => cases h
  | leave id => cases h
  | _ => rfl

theorem Event.isMild_of_isBatchwork (h : event.isBatchwork = true) : event.IsMild := by
  cases event with
  | askEngine request => cases h
  | _ => trivial

namespace State

/-- The documents of a group arrive. -/
def arrivals (options : RenderOptions) (documents : List Document) : List Event :=
  documents.flatMap fun document => [.arrive document options, .advance moment]

/-- Calls that are numbered from a number on. -/
def callsFrom (id : Nat) (documents : List Document) : List (Nat × Document) :=
  (List.range' id documents.length).zip documents

/-- What happens until all calls of a group have ended. -/
def awaitEvents (studio : Studio) (calls : List (Nat × Document)) (s : State) : List Event :=
  s.driveEvents studio (fun later => calls.any fun c => later.isOpen c.1) none s.eventBound

/-- What happens while a group is rendered, up to the report on it. -/
def workEvents (studio : Studio) (options : RenderOptions) (documents : List Document) (s : State) :
    List Event :=
  arrivals options documents ++
    (s.run studio (arrivals options documents)).awaitEvents studio (callsFrom s.nextId documents)

/-- What happens while a group is rendered. -/
def groupEvents (studio : Studio) (options : RenderOptions) (base : Nat)
    (documents : List Document) (s : State) : List Event :=
  s.workEvents studio options documents ++
    [.report ((s.renderGroup studio options base documents).1.flatMap BatchItem.log)]

/-- What happens while groups are rendered one after the other. -/
def groupsEvents (studio : Studio) (options : RenderOptions) :
    Nat → List (List Document) → State → List Event
  | _, [], _ => []
  | base, group :: rest, s =>
    s.groupEvents studio options base group ++
      groupsEvents studio options (base + group.length) rest
        (s.renderGroup studio options base group).2

/-- What happens in a batch, up to the report on the whole. -/
def batchEvents (studio : Studio) (documents : List Document) (batch : BatchOptions) (s : State) :
    List Event :=
  s.groupsEvents studio batch.options 0 (groupsOf (batch.concurrency - 1) documents)

theorem nextId_stirred {s' : State} {engine : Engine} (hstirred : s.Stirred studio engine s') :
    s'.nextId = s.nextId := by
  cases hstirred with
  | unheard lines => rfl
  | heard lines => exact nextId_fulfil _ _ _

theorem nextId_started {s' : State} {job : Job} (hstarted : s.Started studio job s') :
    s'.nextId = s.nextId := by
  cases hstarted with
  | opens lines hfate => exact nextId_fulfil _ _ _
  | asks lines hformat hstirred => exact (nextId_stirred hstirred).trans (nextId_fulfil _ _ _)

/-- In a batch, whoever arrives is given the next number, and nobody else is given one. -/
theorem nextId_step (hbatchwork : event.isBatchwork = true) (studio : Studio) (s : State) :
    (s.step studio event).nextId = s.nextId + event.request?.toList.length := by
  have hhappens := happens_step studio s event
  generalize s.step studio event = s' at hhappens ⊢
  cases hhappens with
  | idle hidle hlooks =>
      cases event with
      | arrive document options => exact absurd rfl (hlooks document options)
      | _ => rfl
  | admitted hvalid hgranted hstarted => exact nextId_started hstarted
  | called hjob hphase hpromised hstarted =>
      have hsame := nextId_started hstarted
      exact hsame
  | rasterized hjob hphase => exact nextId_fulfil _ _ _
  | saved lines filepath hjob hphase => exact nextId_fulfil _ _ _
  | expired hjob hlimit hphase => exact nextId_fulfil _ _ _
  | stirred hstep hstirred =>
      rw [nextId_stirred hstirred]
      cases event with
      | arrive document options => cases hstep
      | _ => rfl
  | asked => cases hbatchwork
  | held => cases hbatchwork
  | _ => rfl

theorem nextId_run {events : List Event} (hbatchwork : ∀ event ∈ events, event.isBatchwork = true) :
    (s.run studio events).nextId = s.nextId + (events.filterMap Event.request?).length := by
  induction events generalizing s with
  | nil => rfl
  | cons event rest ih =>
      have hfirst := nextId_step (hbatchwork event List.mem_cons_self) studio s
      have hrest := @ih (s.step studio event) fun other hother =>
        hbatchwork other (List.mem_cons_of_mem _ hother)
      have hsplit : ((event :: rest).filterMap Event.request?).length =
          event.request?.toList.length + (rest.filterMap Event.request?).length := by
        rw [List.filterMap_cons]
        cases event.request? <;> simp [Nat.add_comm]
      rw [hfirst] at hrest
      rw [hsplit, ← Nat.add_assoc]
      exact hrest

theorem nextId_arrive (studio : Studio) (s : State) (document : Document)
    (options : RenderOptions) :
    (s.step studio (.arrive document options)).nextId = s.nextId + 1 :=
  nextId_step (show (Event.arrive document options).isBatchwork = true from rfl) studio s

theorem beginAll_eq (studio : Studio) (options : RenderOptions) (documents : List Document)
    (s : State) : s.beginAll studio options documents =
      (callsFrom s.nextId documents, s.run studio (arrivals options documents)) := by
  induction documents generalizing s with
  | nil => rfl
  | cons document rest ih =>
      have hnext : ((s.arrive studio document options).advance moment).nextId = s.nextId + 1 :=
        nextId_arrive studio s document options
      simp only [beginAll, ih, hnext]
      rfl

theorem renderGroup_eq (studio : Studio) (options : RenderOptions) (base : Nat)
    (documents : List Document) (s : State) :
    s.renderGroup studio options base documents =
      ((s.run studio (s.workEvents studio options documents)).itemsOf base
          (callsFrom s.nextId documents),
        s.run studio (s.groupEvents studio options base documents)) := by
  have hwork : (s.run studio (arrivals options documents)).drive studio
      (fun later => (callsFrom s.nextId documents).any fun c => later.isOpen c.1) =
        s.run studio (s.workEvents studio options documents) := by
    rw [drive, driveWhile_eq_run, workEvents, run_append]
    rfl
  have hgroup : s.renderGroup studio options base documents =
      let worked := s.run studio (s.workEvents studio options documents)
      let items := worked.itemsOf base (callsFrom s.nextId documents)
      (items, worked.report (items.flatMap BatchItem.log)) := by
    simp only [renderGroup, beginAll_eq, hwork]
  rw [groupEvents, run_append, hgroup]
  rfl

theorem renderGroup_eq_run (studio : Studio) (options : RenderOptions) (base : Nat)
    (documents : List Document) (s : State) :
    (s.renderGroup studio options base documents).2 =
      s.run studio (s.groupEvents studio options base documents) :=
  congrArg Prod.snd (renderGroup_eq studio options base documents s)

theorem renderGroups_eq_run (studio : Studio) (options : RenderOptions) (base : Nat)
    (groups : List (List Document)) (s : State) :
    (s.renderGroups studio options base groups).2 =
      s.run studio (s.groupsEvents studio options base groups) := by
  induction groups generalizing s base with
  | nil => rfl
  | cons group rest ih =>
      rw [groupsEvents, run_append]
      simp only [renderGroups, ih]
      rw [renderGroup_eq]

/-! ## What these events are -/

theorem request?_arrivals (options : RenderOptions) (documents : List Document) :
    (arrivals options documents).filterMap Event.request? =
      documents.map fun document => (document, options) := by
  induction documents with
  | nil => rfl
  | cons document rest ih =>
      rw [List.map_cons, ← ih]
      rfl

theorem isBatchwork_arrivals (options : RenderOptions) (documents : List Document) :
    ∀ event ∈ arrivals options documents, event.isBatchwork = true := by
  intro event hevent
  obtain ⟨document, -, hmem⟩ := List.mem_flatMap.1 hevent
  simp only [List.mem_cons, List.not_mem_nil, or_false] at hmem
  rcases hmem with rfl | rfl <;> rfl

theorem isClockwork_awaitEvents (studio : Studio) (calls : List (Nat × Document)) (s : State) :
    ∀ event ∈ s.awaitEvents studio calls, event.isClockwork = true :=
  isClockwork_driveEvents _ none s.eventBound s

/-- A run whose calls are for documents in order. -/
structure IsRunFor (options : RenderOptions) (documents : List Document) (events : List Event) :
    Prop where
  batchwork : ∀ event ∈ events, event.isBatchwork = true
  requests : events.filterMap Event.request? = documents.map fun document => (document, options)

theorem IsRunFor.append {options : RenderOptions} {more : List Document}
    {events others : List Event} (h : IsRunFor options documents events)
    (h' : IsRunFor options more others) :
    IsRunFor options (documents ++ more) (events ++ others) where
  batchwork event hevent :=
    (List.mem_append.1 hevent).elim (h.batchwork event) (h'.batchwork event)
  requests := by rw [List.filterMap_append, List.map_append, h.requests, h'.requests]

theorem isRunFor_workEvents (studio : Studio) (options : RenderOptions)
    (documents : List Document) (s : State) :
    IsRunFor options documents (s.workEvents studio options documents) := by
  have hawait : IsRunFor options [] ((s.run studio (arrivals options documents)).awaitEvents studio
      (callsFrom s.nextId documents)) := by
    have hclockwork := isClockwork_awaitEvents studio (callsFrom s.nextId documents)
      (s.run studio (arrivals options documents))
    exact ⟨fun event hevent => Event.isBatchwork_of_isClockwork (hclockwork event hevent),
      List.filterMap_eq_nil_iff.2 fun event hevent =>
        Event.request?_of_isClockwork (hclockwork event hevent)⟩
  have hall := (show IsRunFor options documents (arrivals options documents) from
    ⟨isBatchwork_arrivals options documents, request?_arrivals options documents⟩).append hawait
  rwa [List.append_nil] at hall

theorem isRunFor_groupEvents (studio : Studio) (options : RenderOptions) (base : Nat)
    (documents : List Document) (s : State) :
    IsRunFor options documents (s.groupEvents studio options base documents) := by
  have hreport (lines : List LogLine) : IsRunFor options [] [.report lines] :=
    ⟨List.forall_mem_singleton.2 rfl, rfl⟩
  have hall := (isRunFor_workEvents studio options documents s).append
    (hreport ((s.renderGroup studio options base documents).1.flatMap BatchItem.log))
  rwa [List.append_nil] at hall

theorem isRunFor_groupsEvents (studio : Studio) (options : RenderOptions) (base : Nat)
    (groups : List (List Document)) (s : State) :
    IsRunFor options groups.flatten (s.groupsEvents studio options base groups) := by
  induction groups generalizing s base with
  | nil => exact ⟨fun _ hevent => absurd hevent List.not_mem_nil, rfl⟩
  | cons group rest ih => exact (isRunFor_groupEvents studio options base group s).append (ih _ _)

/-- The calls of a batch are for its documents in order. -/
theorem isRunFor_batchEvents (studio : Studio) (documents : List Document) (batch : BatchOptions)
    (s : State) :
    IsRunFor batch.options documents (s.batchEvents studio documents batch) := by
  have hall := isRunFor_groupsEvents studio batch.options 0
    (groupsOf (batch.concurrency - 1) documents) s
  rwa [flatten_groupsOf] at hall

/-- Where a document arrives in a run. -/
theorem arrives_of_request {events : List Event} {number : Nat} {document : Document}
    {options : RenderOptions}
    (h : (events.filterMap Event.request?)[number]? = some (document, options)) :
    ∃ before after, events = before ++ .arrive document options :: after ∧
      (before.filterMap Event.request?).length = number := by
  induction events generalizing number with
  | nil => cases h
  | cons event rest ih =>
      rw [List.filterMap_cons] at h
      split at h
      next hnone =>
        obtain ⟨before, after, rfl, hnumber⟩ := ih h
        exact ⟨event :: before, after, rfl, by rwa [List.filterMap_cons_none hnone]⟩
      next request hsome =>
        cases number with
        | zero =>
            cases h
            cases event with
            | arrive document options =>
                cases hsome
                exact ⟨[], rest, rfl, rfl⟩
            | _ => cases hsome
        | succ number =>
            obtain ⟨before, after, rfl, hnumber⟩ := ih h
            exact ⟨event :: before, after, rfl, by
              rw [List.filterMap_cons_some hsome, List.length_cons, hnumber]⟩

/-- In a run the call for a document arrives and is given a number. -/
def Arrives (studio : Studio) (s : State) (options : RenderOptions) (events : List Event)
    (document : Document) (id : Nat) : Prop :=
  ∃ before after, events = before ++ .arrive document options :: after ∧
    (s.run studio before).nextId = id

/-- A document of a run arrives under the number that belongs to its place. -/
theorem IsRunFor.arrives {options : RenderOptions} {events : List Event} {number : Nat}
    {document : Document} (h : IsRunFor options documents events)
    (hdocument : documents[number]? = some document) (studio : Studio) (s : State) :
    s.Arrives studio options events document (s.nextId + number) := by
  have hrequest : (events.filterMap Event.request?)[number]? = some (document, options) := by
    rw [h.requests, List.getElem?_map, hdocument]
    rfl
  obtain ⟨before, after, rfl, hnumber⟩ := arrives_of_request hrequest
  refine ⟨before, after, rfl, ?_⟩
  rw [nextId_run fun event hevent => h.batchwork event (List.mem_append_left _ hevent), hnumber]

theorem IsRunFor.nextId {options : RenderOptions} {events : List Event}
    (h : IsRunFor options documents events) (studio : Studio) (s : State) :
    (s.run studio events).nextId = s.nextId + documents.length := by
  rw [nextId_run h.batchwork, h.requests, List.length_map]

theorem IsRunFor.keeps {options : RenderOptions} {events : List Event}
    (h : IsRunFor options documents events) (hs : s.Sound studio) :
    s.Keeps (s.run studio events) :=
  keeps_run hs fun event hevent => Event.isGentle_of_isBatchwork (h.batchwork event hevent)

/-! ## Results -/

/-- Items are the results of the calls for documents, both numbered in order. -/
structure AreResults (last : State) (index id : Nat) (documents : List Document)
    (items : List BatchItem) : Prop where
  length : items.length = documents.length
  item : ∀ number document, documents[number]? = some document →
    ∃ outcome, last.result? (id + number) = some outcome ∧
      items[number]? = some ⟨index + number, document, outcome⟩

theorem AreResults.append {more : List Document} {others : List BatchItem}
    (h : last.AreResults index id documents items)
    (h' : last.AreResults (index + documents.length) (id + documents.length) more others) :
    last.AreResults index id (documents ++ more) (items ++ others) where
  length := by rw [List.length_append, List.length_append, h.length, h'.length]
  item number document hdocument := by
    rcases Nat.lt_or_ge number documents.length with hless | hmore
    · rw [List.getElem?_append_left hless] at hdocument
      rw [List.getElem?_append_left (h.length ▸ hless)]
      exact h.item number document hdocument
    · rw [List.getElem?_append_right hmore] at hdocument
      rw [List.getElem?_append_right (h.length ▸ hmore), h.length]
      have hid : id + documents.length + (number - documents.length) = id + number := by omega
      have hindex : index + documents.length + (number - documents.length) = index + number := by
        omega
      have hitem := h'.item (number - documents.length) document hdocument
      rwa [hid, hindex] at hitem

/-- A result stays what it is. -/
theorem AreResults.run (h : s.AreResults index id documents items) (hs : s.Numbered)
    (studio : Studio) (events : List Event) :
    (s.run studio events).AreResults index id documents items where
  length := h.length
  item number document hdocument := by
    obtain ⟨outcome, hresult, hitem⟩ := h.item number document hdocument
    exact ⟨outcome, (run_moves hs studio events).result? hs hresult, hitem⟩

/-- If every call has a result, the items are complete. -/
theorem areResults_itemsOf
    (hall : ∀ number < documents.length, (last.result? (id + number)).isSome = true) :
    last.AreResults index id documents (last.itemsOf index (callsFrom id documents)) := by
  induction documents generalizing index id with
  | nil => exact ⟨rfl, fun _ _ hdocument => by cases hdocument⟩
  | cons first rest ih =>
      obtain ⟨outcome, hfirst⟩ := Option.isSome_iff_exists.1 (hall 0 (Nat.succ_pos _))
      have hrest : last.AreResults (index + 1) (id + 1) rest
          (last.itemsOf (index + 1) (callsFrom (id + 1) rest)) := by
        refine ih fun number hnumber => ?_
        have hsome := hall (number + 1) (Nat.succ_lt_succ hnumber)
        rwa [Nat.add_right_comm id 1 number]
      have hone : last.AreResults index id [first] [⟨index, first, outcome⟩] := by
        refine ⟨rfl, fun number document hdocument => ?_⟩
        cases number with
        | zero =>
            cases hdocument
            exact ⟨outcome, hfirst, rfl⟩
        | succ number => cases hdocument
      have hitems : last.itemsOf index (callsFrom id (first :: rest)) =
          ⟨index, first, outcome⟩ :: last.itemsOf (index + 1) (callsFrom (id + 1) rest) := by
        have hcalls : callsFrom id (first :: rest) = (id, first) :: callsFrom (id + 1) rest := rfl
        have hresult : last.result? id = some outcome := hfirst
        rw [hcalls, itemsOf, hresult]
      rw [hitems]
      exact hone.append hrest

theorem mem_callsFrom {number : Nat} (hnumber : number < documents.length) (id : Nat) :
    (id + number, documents[number]) ∈ callsFrom id documents := by
  have hlength : number < (callsFrom id documents).length := by
    simpa [callsFrom] using hnumber
  have hcall : (callsFrom id documents)[number] = (id + number, documents[number]) := by
    simp [callsFrom]
  exact hcall ▸ List.getElem_mem hlength

/-- Whoever arrives in a run for documents is present in the end. -/
theorem IsRunFor.present {options : RenderOptions} {events : List Event} {number : Nat}
    (h : IsRunFor options documents events) (hs : s.Sound studio)
    (hnumber : number < documents.length) :
    (s.run studio events).Present (s.nextId + number) := by
  obtain ⟨before, after, rfl, hid⟩ := h.arrives (List.getElem?_eq_getElem hnumber) studio s
  have harrived := present_arrive studio (s.run studio before) documents[number] options
  have hafter : ∀ event ∈ after, event.isGentle = true := fun event hevent =>
    Event.isGentle_of_isBatchwork
      (h.batchwork event (List.mem_append_right _ (List.mem_cons_of_mem _ hevent)))
  rw [run_append, ← hid]
  exact (keeps_run ((hs.run before).step _) hafter).present _ harrived

/-- Every call of a group gets its result. -/
theorem areResults_renderGroup (hs : s.Steady studio) (hout : s.HeldApart out)
    (hroom : out.length < s.governor.capacity) (options : RenderOptions) (base : Nat)
    (documents : List Document) :
    (s.renderGroup studio options base documents).2.AreResults base s.nextId documents
      (s.renderGroup studio options base documents).1 := by
  let arrived := s.run studio (arrivals options documents)
  let goes (later : State) : Bool := (callsFrom s.nextId documents).any fun c => later.isOpen c.1
  have harrivals : IsRunFor options documents (arrivals options documents) :=
    ⟨isBatchwork_arrivals options documents, request?_arrivals options documents⟩
  have hkeeps : s.Keeps arrived := harrivals.keeps hs.sound
  have hworked : s.run studio (s.workEvents studio options documents) =
      arrived.drive studio goes := by
    rw [workEvents, run_append, drive, driveWhile_eq_run]
    rfl
  have hall : ∀ number < documents.length,
      ((arrived.drive studio goes).result? (s.nextId + number)).isSome = true := by
    intro number hnumber
    refine isSome_result?_drive (hs.run _) (hkeeps.apart out hout) (hkeeps.capacity ▸ hroom)
      (harrivals.present hs.sound hnumber) fun later hstopped => ?_
    have hended := List.any_eq_false.1 hstopped _ (mem_callsFrom hnumber s.nextId)
    exact Option.isSome_iff_ne_none.2 (by simpa [isOpen] using hended)
  have hitems : (arrived.drive studio goes).AreResults base s.nextId documents
      ((arrived.drive studio goes).itemsOf base (callsFrom s.nextId documents)) :=
    areResults_itemsOf hall
  rw [← hworked] at hitems
  rw [renderGroup_eq, groupEvents, run_append]
  exact hitems.run (hs.run _).sound.numbered studio _

/-- Every call of groups that are rendered one after the other gets its result. -/
theorem areResults_renderGroups (hs : s.Steady studio) (hout : s.HeldApart out)
    (hroom : out.length < s.governor.capacity) (options : RenderOptions) (base : Nat)
    (groups : List (List Document)) :
    (s.renderGroups studio options base groups).2.AreResults base s.nextId groups.flatten
      (s.renderGroups studio options base groups).1 := by
  induction groups generalizing s base with
  | nil => exact ⟨rfl, fun _ _ hdocument => by cases hdocument⟩
  | cons group rest ih =>
      let events := s.groupEvents studio options base group
      have hgroup := areResults_renderGroup hs hout hroom options base group
      have hrendered : (s.renderGroup studio options base group).2 = s.run studio events := by
        rw [renderGroup_eq]
      have hfor : IsRunFor options group events := isRunFor_groupEvents studio options base group s
      have hkeeps : s.Keeps (s.run studio events) := hfor.keeps hs.sound
      have hrest := ih (hs.run events) (hkeeps.apart out hout) (hkeeps.capacity ▸ hroom)
        (base + group.length)
      rw [hfor.nextId] at hrest
      rw [hrendered] at hgroup
      have hlater := hgroup.run (hs.run events).sound.numbered studio
        ((s.run studio events).groupsEvents studio options (base + group.length) rest)
      rw [← renderGroups_eq_run] at hlater
      simp only [renderGroups, hrendered]
      exact hlater.append hrest

/-- A batch returns the results of its documents in order. -/
theorem areResults_renderBatch (hs : s.Steady studio)
    (hroom : s.outsiders.length < s.governor.capacity) (documents : List Document)
    (batch : BatchOptions) :
    (s.run studio (s.batchEvents studio documents batch)).AreResults 0 s.nextId documents
      (s.renderBatch studio documents batch).1 := by
  have hgroups := areResults_renderGroups hs (heldApart_outsiders s) hroom batch.options 0
    (groupsOf (batch.concurrency - 1) documents)
  rw [flatten_groupsOf, renderGroups_eq_run] at hgroups
  exact hgroups

theorem renderBatch_eq_run (studio : Studio) (documents : List Document) (batch : BatchOptions)
    (s : State) : ∃ lines, (s.renderBatch studio documents batch).2 =
      (s.run studio (s.batchEvents studio documents batch)).report lines := by
  rw [batchEvents, ← renderGroups_eq_run]
  exact ⟨_, rfl⟩

end State

/-! ## Any order

`renderBatch` leaves it to the clock what happens while a group is at work.  Here anything
may happen: the calls of a group begin in any order, and what the press does for them and
for others comes in any order, too.  A batch then is bound to one rule only: it goes on to
the next group when every call of the group at work has its result.
-/

/-- An item of a batch: a document, and the number of the call for it once that has begun. -/
structure Member where
  document : Document
  call : Option Nat

namespace Member

/-- An item whose call has not begun. -/
def awaiting (document : Document) : Member :=
  ⟨document, none⟩

/-- The result of an item. -/
def result? (s : State) (member : Member) : Option (Except Fault Rendering) :=
  member.call.bind s.result?

/-- What is returned for an item, given its place. -/
def item? (s : State) (index : Nat) (member : Member) : Option BatchItem :=
  (member.result? s).map fun outcome => ⟨index, member.document, outcome⟩

/-- The calls of items that have begun. -/
def begun (members : List Member) : List (Nat × Document) :=
  members.filterMap fun member => member.call.map fun id => (id, member.document)

/-- The items of a group that has not begun. -/
def group (groups : List (List Document)) (number : Nat) : List Member :=
  (groups[number]?.getD []).map awaiting

end Member

/-- A batch under way. -/
structure BatchState where
  press : State
  /-- The number of the group at work. -/
  number : Nat
  /-- The items of the groups that are over. -/
  closed : List Member
  /-- The items of the group at work. -/
  group : List Member
  /-- What has been collected from the groups that are over. -/
  items : List BatchItem

namespace BatchState

/-- A batch that begins with its first group. -/
def start (groups : List (List Document)) (s : State) : BatchState :=
  ⟨s, 0, [], Member.group groups 0, []⟩

/-- The items of all groups that are over or at work. -/
def members (b : BatchState) : List Member :=
  b.closed ++ b.group

/-- What is collected from the group at work. -/
def collected (b : BatchState) : List BatchItem :=
  b.press.itemsOf b.closed.length (Member.begun b.group)

/-- What a batch may do next. -/
inductive Step (studio : Studio) (options : RenderOptions) (groups : List (List Document))
    (b : BatchState) : Event → BatchState → Prop where
  /-- The call for an item of the group begins. -/
  | begin {before after : List Member} {document : Document}
      (hgroup : b.group = before ++ .awaiting document :: after) :
      Step studio options groups b (.arrive document options)
        { b with
          press := b.press.step studio (.arrive document options)
          group := before ++ ⟨document, some b.press.nextId⟩ :: after }
  /-- Something happens to the press, be it to a call of the batch or to somebody else. -/
  | happen {event : Event} (hspares : event.SparesSlots b.press) :
      Step studio options groups b event { b with press := b.press.step studio event }
  /-- Every call of the group has ended: its results are collected, and the next group comes. -/
  | close (hgroup : b.group ≠ [])
      (hended : ∀ member ∈ b.group, (member.result? b.press).isSome = true) :
      Step studio options groups b (.report (b.collected.flatMap BatchItem.log))
        { press := b.press.step studio (.report (b.collected.flatMap BatchItem.log))
          number := b.number + 1
          closed := b.closed ++ b.group
          group := Member.group groups (b.number + 1)
          items := b.items ++ b.collected }

/-- How a batch may go on, with all that happens to the press meanwhile. -/
inductive Goes (studio : Studio) (options : RenderOptions) (groups : List (List Document))
    (b : BatchState) : List Event → BatchState → Prop where
  | refl : Goes studio options groups b [] b
  | tail {events : List Event} {event : Event} {mid last : BatchState}
      (h : Goes studio options groups b events mid)
      (hstep : Step studio options groups mid event last) :
      Goes studio options groups b (events ++ [event]) last

/-- Every group is over. -/
def IsOver (groups : List (List Document)) (b : BatchState) : Prop :=
  groups.length ≤ b.number

variable {studio : Studio} {options : RenderOptions} {groups : List (List Document)}
  {b mid next last : BatchState} {event : Event} {events more : List Event} {member : Member}
  {id : Nat}

theorem Step.press_eq (h : Step studio options groups b event next) :
    next.press = b.press.step studio event := by
  cases h <;> rfl

theorem Goes.press_eq (h : Goes studio options groups b events last) :
    last.press = b.press.run studio events := by
  induction h with
  | refl => rfl
  | tail _ hstep ih =>
      rw [hstep.press_eq, ih, State.run_append]
      rfl

theorem Goes.trans (h : Goes studio options groups b events mid)
    (h' : Goes studio options groups mid more last) :
    Goes studio options groups b (events ++ more) last := by
  induction h' with
  | refl => rwa [List.append_nil]
  | tail _ hstep ih =>
      rw [← List.append_assoc]
      exact ih.tail hstep

theorem Goes.head (hstep : Step studio options groups b event mid)
    (h : Goes studio options groups mid events last) :
    Goes studio options groups b (event :: events) last :=
  (Goes.tail .refl hstep).trans h

theorem call_group (groups : List (List Document)) (number : Nat) :
    (Member.group groups number).filterMap Member.call = [] := by
  rw [Member.group, List.filterMap_map]
  exact List.filterMap_eq_nil_iff.2 fun _ _ => rfl

theorem sparesSlots_of_isClockwork (h : event.isClockwork = true) (s : State) :
    event.SparesSlots s := by
  cases event with
  | unhold ticket => cases h
  | _ => trivial

/-- What the clock brings about is something that may happen. -/
theorem goes_clockwork (studio : Studio) (options : RenderOptions) (groups : List (List Document))
    (b : BatchState) (hclockwork : ∀ event ∈ events, event.isClockwork = true) :
    Goes studio options groups b events { b with press := b.press.run studio events } := by
  induction events generalizing b with
  | nil => exact .refl
  | cons event rest ih =>
      have hspares := sparesSlots_of_isClockwork (hclockwork event List.mem_cons_self) b.press
      exact .head (.happen hspares)
        (ih _ fun other hother => hclockwork other (List.mem_cons_of_mem _ hother))

/-- Where an item comes from whose call has begun. -/
theorem Step.mem_members (h : Step studio options groups b event next)
    (hmember : member ∈ next.members) (hcall : member.call = some id) :
    member ∈ b.members ∨ event = .arrive member.document options ∧ b.press.nextId = id := by
  cases h with
  | @begin before after document hgroup =>
      have hplace : member ∈ b.closed ∨
          member ∈ before ∨ member = ⟨document, some b.press.nextId⟩ ∨ member ∈ after := by
        simpa [members] using hmember
      rcases hplace with hclosed | hbefore | rfl | hafter
      · exact .inl (by simp [members, hclosed])
      · exact .inl (by simp [members, hgroup, hbefore])
      · exact .inr ⟨rfl, Option.some.inj hcall⟩
      · exact .inl (by simp [members, hgroup, hafter])
  | happen => exact .inl hmember
  | close hgroup hended =>
      rcases List.mem_append.1 hmember with hold | hnew
      · exact .inl hold
      · have hnone := List.filterMap_eq_nil_iff.1 (call_group groups (b.number + 1)) member hnew
        rw [hnone] at hcall
        cases hcall

/-- If no call of a batch has begun, each that has begun later has arrived meanwhile. -/
theorem Goes.arrives (h : Goes studio options groups b events last)
    (hfresh : ∀ member ∈ b.members, member.call = none) (hmember : member ∈ last.members)
    (hcall : member.call = some id) :
    b.press.Arrives studio options events member.document id := by
  induction h with
  | refl =>
      rw [hfresh member hmember] at hcall
      cases hcall
  | @tail events event mid last hgoes hstep ih =>
      rcases hstep.mem_members hmember hcall with hold | ⟨rfl, hid⟩
      · obtain ⟨before, after, rfl, hid⟩ := ih hold
        exact ⟨before, after ++ [event], by simp, hid⟩
      · exact ⟨_, [], rfl, hgoes.press_eq ▸ hid⟩

theorem call_start {s : State} (hmember : member ∈ (start groups s).members) :
    member.call = none :=
  List.filterMap_eq_nil_iff.1 (call_group groups 0) member hmember

end BatchState

namespace State

/-! ## Isolation -/

/-- The time of day at which the call for an item of a batch begins to work, if it does. -/
def itemBegan? (studio : Studio) (documents : List Document) (batch : BatchOptions) (s : State)
    (index : Nat) : Option Timestamp :=
  s.beganAt? studio (s.batchEvents studio documents batch) (s.nextId + index)

/-- In some way in which a batch may go, if nobody asks for the end of the engine, there is this
result for a document, and its call began to work at this time of day, if it did. -/
def MayEnd (studio : Studio) (s : State) (documents : List Document) (batch : BatchOptions)
    (document : Document) (began : Option Timestamp) (outcome : Except Fault Rendering) : Prop :=
  let groups := groupsOf (batch.concurrency - 1) documents
  ∃ events b id, BatchState.Goes studio batch.options groups (.start groups s) events b ∧
    (∀ event ∈ events, event.IsMild) ∧ ⟨document, some id⟩ ∈ b.members ∧
    b.press.result? id = some outcome ∧ s.beganAt? studio events id = began

/-- In some run in which nobody asks for the end of the engine, a call for a document arrives,
begins to work at this time of day, if it does, and has this result.  Of a batch no more is
needed to tell what becomes of its calls. -/
def Concludes (studio : Studio) (s : State) (options : RenderOptions) (document : Document)
    (began : Option Timestamp) (outcome : Except Fault Rendering) : Prop :=
  ∃ events id, s.Arrives studio options events document id ∧ (∀ event ∈ events, event.IsMild) ∧
    (s.run studio events).result? id = some outcome ∧ s.beganAt? studio events id = began

section Conclusions

variable {coming : Engine.Status} {options : RenderOptions} {batch : BatchOptions}
  {document : Document} {began : Option Timestamp} {outcome outcome' : Except Fault Rendering}

/-- If nothing else decides, a call ends as its course has it. -/
theorem Concludes.yields (h : s.Concludes studio options document began outcome)
    (hs : s.Undisturbed studio coming) (hplain : studio.IsPlain)
    (hvalid : options.validate = .ok ()) :
    ∃ time, began = some time ∧
      Course.Yields studio ⟨document, options, time, coming⟩ outcome := by
  obtain ⟨_, id, ⟨before, after, rfl, hid⟩, hmild, hresult, rfl⟩ := h
  have hstands := stands_of_arrive hs hplain hvalid hmild hid
  obtain ⟨call, hcall, hcallId, rfl⟩ := mem_finished_of_result? hresult
  generalize s.beganAt? studio _ id = began at hstands ⊢
  cases began with
  | none => exact absurd hcallId (Awaits.calls hstands call hcall)
  | some time => exact ⟨time, rfl, Takes.calls hstands call hcall hcallId⟩

/-- With invalid options a call is refused. -/
theorem Concludes.refused (h : s.Concludes studio options document began outcome)
    (hs : s.Numbered) {cause : ConfigFault} (hinvalid : options.validate = .error cause) :
    outcome = .error (.config cause) := by
  obtain ⟨_, _, ⟨before, after, rfl, rfl⟩, -, hresult, -⟩ := h
  have hbefore := hs.run studio before
  have hrefused := result?_arrive_of_invalid hinvalid studio (s.run studio before) document
  have hlater := (run_moves (hbefore.step _) studio after).result? (hbefore.step _) hrefused
  rw [run_append] at hresult
  exact Option.some.inj (hresult.symm.trans hlater)

/-- Two calls for a document agree if they begin to work at the same time of day. -/
theorem Concludes.agree (h : s.Concludes studio options document began outcome)
    (h' : s.Concludes studio options document began outcome')
    (hs : s.Undisturbed studio coming) (hplain : studio.IsPlain) :
    outcome'.map Rendering.content = outcome.map Rendering.content := by
  cases hvalid : options.validate with
  | error cause =>
      have hnumbered := hs.steady.sound.numbered
      rw [h.refused hnumbered hvalid, h'.refused hnumbered hvalid]
  | ok _ =>
      obtain ⟨time, rfl, hmine⟩ := h.yields hs hplain hvalid
      obtain ⟨_, hsame, htheirs⟩ := h'.yields hs hplain hvalid
      cases hsame
      exact htheirs.1.trans hmine.1.symm

/-- However a batch goes, its calls arrive. -/
theorem MayEnd.concludes (h : s.MayEnd studio documents batch document began outcome) :
    s.Concludes studio batch.options document began outcome := by
  obtain ⟨events, b, id, hgoes, hmild, hmember, hresult, hbegan⟩ := h
  have harrives := hgoes.arrives (fun _ => BatchState.call_start) hmember rfl
  rw [hgoes.press_eq] at hresult
  exact ⟨events, id, harrives, hmild, hresult, hbegan⟩

/-- The call for any document of the first group may be the first to begin, and the clock may
bring it to its end before the others begin. -/
theorem mayEnd_of_first {before after : List Member} {events : List Event}
    (hgroup : Member.group (groupsOf (batch.concurrency - 1) documents) 0 =
      before ++ .awaiting document :: after)
    (hclockwork : ∀ event ∈ events, event.isClockwork = true)
    (hresult : (s.run studio (.arrive document batch.options :: events)).result? s.nextId =
      some outcome)
    (hbegan : s.beganAt? studio (.arrive document batch.options :: events) s.nextId = began) :
    s.MayEnd studio documents batch document began outcome := by
  let begun : BatchState := ⟨s.step studio (.arrive document batch.options), 0, [],
    before ++ ⟨document, some s.nextId⟩ :: after, []⟩
  have hmember : ⟨document, some s.nextId⟩ ∈ begun.members := by
    simp [begun, BatchState.members]
  refine ⟨_, _, s.nextId, .head (.begin hgroup)
    (BatchState.goes_clockwork studio batch.options _ begun hclockwork), fun event hevent => ?_,
    hmember, hresult, hbegan⟩
  rcases List.mem_cons.1 hevent with rfl | hevent
  · trivial
  · exact Event.isMild_of_isBatchwork (Event.isBatchwork_of_isClockwork (hclockwork event hevent))

end Conclusions

/-- The engine has been in order in every run of an opened press. -/
theorem undisturbed_of_openWith {settings : Settings} {around : Surroundings} {start : State}
    (hopen : openWith settings around = .ok (studio, start))
    (hnocache : settings.enableCaching = false) {before : List Event}
    (hcalm : (start.run studio before).engine.IsCalm) :
    (start.run studio before).Undisturbed studio
      ((start.run studio before).engine.outlook settings.engine studio.browser) := by
  have hsteady := steady_of_openWith hopen
  have hnumbered := hsteady.sound.numbered
  obtain ⟨rfl, governor, rfl⟩ := fresh_of_openWith hopen
  have horderly : (State.run studio (fresh studio.settings governor) before).engine.Orderly := by
    have hkept {s s' : State} {marks : List Mark} (hmove : Move studio s marks s')
        (h : s.engine.Orderly) : s'.engine.Orderly := hmove.orderly h
    exact (run_moves hnumbered studio before).preserve hkept Engine.orderly_fresh
  refine ⟨hsteady.run before, Engine.settled_of_isCalm hcalm horderly _ _, ?_⟩
  have huncached : (fresh studio.settings governor).cache = none := by
    simp [fresh, hnocache]
  exact (run_moves hnumbered studio before).preserve Move.uncached huncached

/-- What an item of a batch is, given its place. -/
theorem AreResults.of_mem (h : last.AreResults index id documents items) {item : BatchItem}
    (hitem : item ∈ items) : ∃ number, documents[number]? = some item.document ∧
      item.index = index + number ∧ last.result? (id + number) = some item.outcome := by
  obtain ⟨number, hnumber, rfl⟩ := List.mem_iff_getElem.1 hitem
  have hless : number < documents.length := h.length ▸ hnumber
  have hdocument := List.getElem?_eq_getElem hless
  obtain ⟨outcome, hresult, hplace⟩ := h.item number _ hdocument
  have hsame : items[number] = ⟨index + number, documents[number], outcome⟩ :=
    Option.some.inj ((List.getElem?_eq_getElem hnumber).symm.trans hplace)
  rw [hsame]
  exact ⟨number, hdocument, rfl, hresult⟩

/-- The calls for the items that `renderBatch` returns arrive and end. -/
theorem concludes_of_mem_renderBatch (hs : s.Steady studio)
    (hroom : s.outsiders.length < s.governor.capacity) {batch : BatchOptions} {item : BatchItem}
    (hitem : item ∈ (s.renderBatch studio documents batch).1) :
    s.Concludes studio batch.options item.document
      (s.itemBegan? studio documents batch item.index) item.outcome := by
  obtain ⟨number, hdocument, hindex, hresult⟩ :=
    (areResults_renderBatch hs hroom documents batch).of_mem hitem
  have hrun := isRunFor_batchEvents studio documents batch s
  rw [Nat.zero_add] at hindex
  exact ⟨_, _, hrun.arrives hdocument studio s,
    fun event hevent => Event.isMild_of_isBatchwork (hrun.batchwork event hevent), hresult,
    hindex ▸ rfl⟩

end State

/-! ## The theorem -/

/-- What a batch returns.  For every run of an opened press, unless all slots are held apart
from its calls, and for all documents and batch options:

* There is one item for each document, in order.  It is numbered by the place of the
  document, refers to it by its own reference or by that number, and carries the result of
  the call for it.  The groups partition the documents: the number of an item is that of its
  group times the size of groups plus its place in the group, and less than the number of
  documents.
* If there is no cache, no limit on the queue and none on time, if the browser prints the
  same page in the same way each time, all calls have one painter and nobody is about to put
  an end to the engine, then with invalid options every item is refused for them.  Otherwise
  the call for an item begins at some time of day, and its result is what its document is
  converted into then, given what comes of the engine.  In particular it does not change with
  the other documents or with the size of groups, as long as the call begins at the same time
  of day.  All this holds not only of `renderBatch`, which leaves the order of events to the
  clock, but also in whatever order the calls of a group begin, go on and end. -/
theorem batch_is_complete_and_isolated {settings : Settings} {around : Surroundings}
    {start : State} (hopen : openWith settings around = .ok (studio, start))
    (before : List Event) :
    let s := start.run studio before
    s.outsiders.length < s.governor.capacity →
      ∀ (documents : List Document) (batch : BatchOptions),
        let items := (s.renderBatch studio documents batch).1
        let size := max batch.concurrency 1
        (items.length = documents.length ∧
          (∀ i document, documents[i]? = some document → ∃ item, items[i]? = some item ∧
            item.index = i ∧ item.document = document ∧
            item.canvasId = document.id.getD ("canvas-" ++ Text.decimal i) ∧
            (s.renderBatch studio documents batch).2.result? (s.nextId + i) =
              some item.outcome) ∧
          ∀ number group, (groupsOf (batch.concurrency - 1) documents)[number]? = some group →
            ∀ offset document, group[offset]? = some document →
              number * size + offset < documents.length ∧
                documents[number * size + offset]? = some document) ∧
        (settings.enableCaching = false → studio.IsPlain → s.engine.IsCalm →
          (∀ cause, batch.options.validate = .error cause →
            ∀ item ∈ items, item.outcome = .error (.config cause)) ∧
          (batch.options.validate = .ok () → ∀ item ∈ items,
            ∃ time, s.itemBegan? studio documents batch item.index = some time ∧
              Course.Yields studio ⟨item.document, batch.options, time,
                s.engine.outlook settings.engine studio.browser⟩ item.outcome) ∧
          (∀ (others : List Document) (batch' : BatchOptions), batch'.options = batch.options →
            ∀ item ∈ items, ∀ item' ∈ (s.renderBatch studio others batch').1,
              item'.document = item.document →
                s.itemBegan? studio others batch' item'.index =
                    s.itemBegan? studio documents batch item.index →
                  item'.outcome.map Rendering.content = item.outcome.map Rendering.content) ∧
          (∀ document began outcome, s.MayEnd studio documents batch document began outcome →
            (∀ cause, batch.options.validate = .error cause →
              outcome = .error (.config cause)) ∧
            (batch.options.validate = .ok () → ∃ time, began = some time ∧
              Course.Yields studio ⟨document, batch.options, time,
                s.engine.outlook settings.engine studio.browser⟩ outcome)) ∧
          ∀ (others : List Document) (batch' : BatchOptions), batch'.options = batch.options →
            ∀ document began outcome outcome',
              s.MayEnd studio documents batch document began outcome →
                s.MayEnd studio others batch' document began outcome' →
                  outcome'.map Rendering.content = outcome.map Rendering.content) := by
  intro s hroom documents batch items size
  have hs : s.Steady studio := (State.steady_of_openWith hopen).run before
  have hresults := State.areResults_renderBatch hs hroom documents batch
  refine ⟨⟨hresults.length, fun i document hdocument => ?_,
    fun number group hgroup offset document hdocument => ?_⟩, fun hnocache hplain hcalm => ?_⟩
  · obtain ⟨outcome, hresult, hitem⟩ := hresults.item i document hdocument
    obtain ⟨lines, hlast⟩ := State.renderBatch_eq_run studio documents batch s
    rw [Nat.zero_add] at hitem
    refine ⟨_, hitem, rfl, rfl, rfl, ?_⟩
    rw [hlast]
    exact hresult
  · have hsize : batch.concurrency - 1 + 1 = size := by
      simp only [size]
      omega
    rw [getElem?_groupsOf, hsize] at hgroup
    split_ifs at hgroup with hless
    cases hgroup
    have hplace := hdocument
    rw [List.getElem?_take] at hplace
    split_ifs at hplace
    rw [List.getElem?_drop] at hplace
    exact ⟨(List.getElem?_eq_some_iff.1 hplace).1, hplace⟩
  · have hquiet := State.undisturbed_of_openWith hopen hnocache hcalm
    have hnumbered := hs.sound.numbered
    have hconcludes {documents : List Document} {batch : BatchOptions} {item : BatchItem}
        (hitem : item ∈ (s.renderBatch studio documents batch).1) :
        s.Concludes studio batch.options item.document
          (s.itemBegan? studio documents batch item.index) item.outcome :=
      State.concludes_of_mem_renderBatch hs hroom hitem
    refine ⟨fun cause hinvalid item hitem => (hconcludes hitem).refused hnumbered hinvalid,
      fun hvalid item hitem => (hconcludes hitem).yields hquiet hplain hvalid,
      fun others batch' hoptions item hitem item' hitem' hdocument htime => ?_,
      fun document began outcome hmay => ⟨fun cause => hmay.concludes.refused hnumbered,
        hmay.concludes.yields hquiet hplain⟩,
      fun others batch' hoptions document began outcome outcome' hmay hmay' => ?_⟩
    · have htheirs := hconcludes hitem'
      rw [hoptions, hdocument, htime] at htheirs
      exact (hconcludes hitem).agree htheirs hquiet hplain
    · exact hmay.concludes.agree (hoptions ▸ hmay'.concludes) hquiet hplain

/-- The second of two documents is printed in the same way whatever the first is, even if its
call begins before that for the first. -/
theorem batch_is_complete_and_isolated_of_second :
    let settings : Settings := { enableCaching := false }
    let options := { RenderOptions.ofSettings settings with format := .paginated }
    let document := Document.ofKind .businessModel
    let around : Surroundings := ⟨.obliging, .missing, none, ⟨0, 0⟩⟩
    ∃ (studio : Studio) (start : State), openWith settings around = .ok (studio, start) ∧
      start.outsiders.length < start.governor.capacity ∧ studio.IsPlain ∧ start.engine.IsCalm ∧
      ∃ item item',
        (start.renderBatch studio [.ofKind .valueProposition, document] ⟨2, options⟩).1[1]? =
          some item ∧
        (start.renderBatch studio [.ofKind .testingBusinessIdeas, document] ⟨7, options⟩).1[1]? =
          some item' ∧
        start.itemBegan? studio [.ofKind .valueProposition, document] ⟨2, options⟩ 1 =
          some ⟨0, 1000⟩ ∧
        item.canvasId = "canvas-1" ∧
        item'.outcome.map Rendering.content = item.outcome.map Rendering.content ∧
        ∃ outcome, start.MayEnd studio [.ofKind .valueProposition, document] ⟨2, options⟩ document
            (some ⟨0, 0⟩) outcome ∧
          ∀ outcome', start.MayEnd studio [.ofKind .testingBusinessIdeas, document] ⟨7, options⟩
              document (some ⟨0, 0⟩) outcome' →
            outcome'.map Rendering.content = outcome.map Rendering.content := by
  intro settings options document around
  let studio : Studio := ⟨.obliging, settings, .empty, none, ⟨0, 0⟩⟩
  let start : State := .fresh settings (.ofCapacity 3 none)
  have hopen : openWith settings around = .ok (studio, start) := rfl
  have hroom : start.outsiders.length < start.governor.capacity := show 0 < 3 by decide
  have hplain : studio.IsPlain := ⟨rfl, rfl, fun _ _ _ => rfl, fun _ => rfl⟩
  have hcalm : start.engine.IsCalm := ⟨fun _ hentry => absurd hentry List.not_mem_nil, nofun⟩
  have hbatches := batch_is_complete_and_isolated hopen [] hroom
  obtain ⟨⟨-, hitems, -⟩, hisolated⟩ :=
    hbatches [.ofKind .valueProposition, document] ⟨2, options⟩
  obtain ⟨⟨-, hothers, -⟩, -⟩ := hbatches [.ofKind .testingBusinessIdeas, document] ⟨7, options⟩
  obtain ⟨item, hitem, hindex, hdocument, hreference, -⟩ := hitems 1 document rfl
  obtain ⟨item', hitem', hindex', hdocument', -, -⟩ := hothers 1 document rfl
  obtain ⟨-, -, hsame, -, hagree⟩ := hisolated rfl hplain hcalm
  have hbegan : start.itemBegan? studio [.ofKind .valueProposition, document] ⟨2, options⟩ 1 =
      some ⟨0, 1000⟩ := by
    simp only [State.itemBegan?, State.batchEvents, groupsOf, start, studio, options, document,
      settings]
    rfl
  have hbegan' : start.itemBegan? studio [.ofKind .testingBusinessIdeas, document] ⟨7, options⟩ 1 =
      some ⟨0, 1000⟩ := by
    simp only [State.itemBegan?, State.batchEvents, groupsOf, start, studio, options, document,
      settings]
    rfl
  obtain ⟨outcome, hearly⟩ : ∃ outcome, start.MayEnd studio [.ofKind .valueProposition, document]
      ⟨2, options⟩ document (some ⟨0, 0⟩) outcome := by
    let first := Document.ofKind .valueProposition
    let later : List Event := [.settle, .endPrint 0]
    have hgroup : Member.group (groupsOf 1 [first, document]) 0 =
        [.awaiting first, .awaiting document] := by
      rw [Member.group, getElem?_groupsOf]
      rfl
    obtain ⟨outcome, hresult⟩ : ∃ outcome,
        (start.run studio (.arrive document options :: later)).result? 0 = some outcome :=
      Option.isSome_iff_exists.1 (by decide +kernel)
    have hbegan : start.beganAt? studio (.arrive document options :: later) 0 = some ⟨0, 0⟩ := by
      decide +kernel
    exact ⟨outcome, @State.mayEnd_of_first studio start [first, document] ⟨2, options⟩ document _
      outcome [.awaiting first] [] later hgroup (by decide) hresult hbegan⟩
  refine ⟨studio, start, hopen, hroom, hplain, hcalm, item, item', hitem, hitem', hbegan,
    hreference, ?_, outcome, hearly, fun outcome' hother =>
      hagree _ ⟨7, options⟩ rfl document _ outcome outcome' hearly hother⟩
  refine hsame _ ⟨7, options⟩ rfl item (List.mem_of_getElem? hitem) item'
    (List.mem_of_getElem? hitem') (hdocument'.trans hdocument.symm) ?_
  rw [hindex, hindex']
  exact hbegan'.trans hbegan.symm

end Press

end CanvasPress

/-
# Batches that fit are never turned away

A caller is turned away when every slot is in use and the queue is full.  How that can come
about is read off from one number, the demand: the slots in use and the callers who wait.  Each
caller who is let in adds one to it and nothing else adds to it, while a caller who is turned
away leaves it alone and finds it as large as slots and queue together.  So as long as no more
callers come to a press at rest than slots and queue can take, nobody is turned away, and of
any larger number only the excess; and this is so in whatever order the work is done.

A batch begins every group with the press at rest, since the group before is over.  The bound
therefore holds for each group by itself, however many groups there are.
-/

import CanvasPress.Proofs.Governor.Admission
import CanvasPress.Proofs.Press.Barrier
import CanvasPress.Proofs.Press.Tally

namespace CanvasPress

/-- Whether a result says that too many callers wait. -/
def Press.isTurnedAway : Except Fault Rendering → Bool
  | .error (.queueFull _ _) => true
  | _ => false

/-- Whether an item of a batch was turned away. -/
def BatchItem.isTurnedAway (item : BatchItem) : Bool :=
  Press.isTurnedAway item.outcome

namespace Press

variable {studio : Studio} {s s' mid : State} {job : Job} {fate : Fate} {event : Event}
  {engine : Engine} {settings : Settings} {id : Nat} {document : Document}
  {options : RenderOptions}

namespace State

/-- Whether a call has been turned away. -/
def isTurnedAway (s : State) (id : Nat) : Bool :=
  (s.result? id).any Press.isTurnedAway

/-- Nobody is let in from one state to another, and nobody is turned away. -/
structure Calm (s s' : State) : Prop where
  demand : s'.governor.demand ≤ s.governor.demand
  turned : ∀ id, s'.isTurnedAway id = true → s.isTurnedAway id = true

namespace Calm

theorem trans (h : Calm s mid) (h' : Calm mid s') : Calm s s' where
  demand := h'.demand.trans h.demand
  turned id hid := h.turned id (h'.turned id hid)

/-- What concerns neither slots nor results is calm. -/
theorem same (hgovernor : s'.governor = s.governor) (hfinished : s'.finished = s.finished) :
    Calm s s' where
  demand := hgovernor ▸ Nat.le_refl _
  turned id hid := by
    rw [isTurnedAway, result?, hfinished] at hid
    exact hid

/-- What has gone before makes no difference if it concerned neither slots nor results. -/
theorem after (h : Calm mid s') (hgovernor : mid.governor = s.governor)
    (hfinished : mid.finished = s.finished) : Calm s s' :=
  (same hgovernor hfinished).trans h

/-- Steps of the governor other than a request are calm. -/
theorem govern (steps : List Governor.Step) (hsteps : .acquire ∉ steps) :
    Calm s { s with governor := s.governor.run steps } where
  demand := by
    change (s.governor.run steps).demand ≤ s.governor.demand
    generalize s.governor = g
    induction steps generalizing g with
    | nil => exact Nat.le_refl _
    | cons step rest ih =>
        have hstep : step ≠ .acquire := fun heq => hsteps (heq ▸ List.mem_cons_self)
        have hrest := ih (fun hmem => hsteps (List.mem_cons_of_mem _ hmem)) (g.apply step)
        exact hrest.trans (Governor.demand_apply_le step hstep)
  turned _ hid := hid

/-- A call that ends after it had its slot was not turned away. -/
theorem releases {outcome : Except Fault Rendering} (h : s.Releases s' job outcome)
    (houtcome : Press.isTurnedAway outcome = false) : Calm s s' where
  demand := by
    rw [h.governor]
    exact Governor.demand_apply_le (.release job.ticket) nofun
  turned id hid := by
    rw [isTurnedAway, result?, h.finished, List.find?_cons] at hid
    split at hid
    · change Press.isTurnedAway outcome = true at hid
      rw [houtcome] at hid
      cases hid
    · exact hid

theorem fulfil (settings : Settings) (hfair : fate.Fair settings job) :
    Calm s (s.fulfil job fate) := by
  cases hfair with
  | waits phase => exact same rfl rfl
  | served rendering => exact releases (releases_fulfil rfl) rfl
  | delivered conversion filepath hkey => exact releases (releases_fulfil rfl) rfl
  | failed hearned => exact releases (releases_fulfil rfl) (by cases hearned <;> rfl)

theorem stirred (hstirred : s.Stirred studio engine s') (hfitting : s.Fitting) : Calm s s' := by
  cases hstirred with
  | unheard lines => exact same rfl rfl
  | @heard lines job work answer outcome hjob hphase hreplies hgrounds hconverted =>
      have hfair : (State.fateOf studio s.now work outcome).Fair studio.settings job :=
        fair_of_heard hfitting (mem_of_job? hjob).1 hphase hgrounds hconverted
      exact (fulfil studio.settings hfair).after rfl rfl

theorem started (hstarted : s.Started studio job s') (hfitting : s.Fitting) : Calm s s' := by
  cases hstarted with
  | opens lines hfate =>
      exact (fulfil studio.settings hfate.fair).after rfl rfl
  | asks lines hformat hstirred =>
      exact (stirred hstirred (fitting_asks hfitting hformat lines)).after rfl rfl

end Calm

/-- Whatever happens is calm unless somebody comes. -/
theorem calm_step (hs : s.Sound studio) (hnobody : event.request? = none) (hhold : event ≠ .hold) :
    Calm s (s.step studio event) := by
  have hhappens := happens_step studio s event
  generalize s.step studio event = s' at hhappens ⊢
  cases hhappens with
  | idle => exact .same rfl rfl
  | invalid => cases hnobody
  | refused => cases hnobody
  | queued => cases hnobody
  | admitted => cases hnobody
  | @called job _ hjob hphase hpromised hstarted =>
      have hpolled : Calm s { s with governor := s.governor.poll job.ticket } :=
        .govern [.poll job.ticket] (by simp)
      exact hpolled.trans (.started hstarted hs.fitting)
  | rasterized hjob hphase =>
      exact .fulfil studio.settings (fair_of_rasterized hs.fitting (mem_of_job? hjob).1 hphase)
  | @saved job work conversion ends lines filepath hjob hphase =>
      have hfair : Fate.Fair studio.settings job (.delivered work conversion filepath) :=
        fair_of_saved hs.fitting (mem_of_job? hjob).1 hphase filepath
      exact (Calm.fulfil studio.settings hfair).after rfl rfl
  | expired hjob hlimit hphase =>
      exact (Calm.fulfil studio.settings (.failed (.late hlimit))).after rfl rfl
  | @left job hjob =>
      have hleft : Calm s
          { s with governor := s.governor.run [.release job.ticket, .cancel job.ticket] } :=
        .govern [.release job.ticket, .cancel job.ticket] (by simp)
      exact hleft.trans (.same rfl rfl)
  | stirred hstep hstirred => exact .stirred hstirred hs.fitting
  | asked hstirred => exact (Calm.stirred hstirred hs.fitting).after rfl rfl
  | held => exact absurd rfl hhold
  | unheld ticket => exact .govern [.release ticket] (by simp)
  | _ => exact .same rfl rfl

/-- A call that ends as it comes has its result, and nobody else's changes. -/
theorem isTurnedAway_reject {fault : Fault}
    (hid : (s.reject document options fault).isTurnedAway id = true) :
    s.isTurnedAway id = true ∨ id = s.nextId ∧ Press.isTurnedAway (.error fault) = true := by
  rw [isTurnedAway, result?, reject, List.find?_cons] at hid
  split at hid
  next hmine => exact .inr ⟨(by simpa using hmine : s.nextId = id).symm, hid⟩
  next => exact .inl hid

/-- Whoever comes adds one to the demand, or is turned away.  In the second case he has found
demand for all slots and for the whole queue. -/
theorem turns_arrive (hs : s.Sound studio) (document : Document) (options : RenderOptions) :
    let s' := s.step studio (.arrive document options)
    (s'.governor.demand ≤ s.governor.demand + 1 ∧
      ∀ id, s'.isTurnedAway id = true → s.isTurnedAway id = true) ∨
    ∃ limit, studio.settings.maxQueueDepth = some limit ∧
      s.governor.capacity + limit ≤ s.governor.demand ∧
      s'.governor.demand = s.governor.demand ∧
      ∀ id, s'.isTurnedAway id = true → s.isTurnedAway id = true ∨ id = s.nextId := by
  have hhappens := happens_step studio s (.arrive document options)
  intro s'
  change s.Happens studio (.arrive document options) s' at hhappens
  generalize s' = s' at hhappens ⊢
  have hmore := s.governor.demand_acquire_le
  cases hhappens with
  | idle hidle hlooks => exact absurd rfl (hlooks document options)
  | @invalid _ _ cause hinvalid =>
      refine .inl ⟨Nat.le_succ _, fun id hid => ?_⟩
      rcases isTurnedAway_reject hid with hold | ⟨-, hfull⟩
      · exact hold
      · cases hfull
  | @refused _ _ waiting limit hvalid hrefused =>
      obtain ⟨hlimit, hfull, hsame⟩ := Governor.demand_of_refused hrefused
      refine .inr ⟨limit, hs.limit.symm.trans hlimit, hfull, hsame, fun id hid => ?_⟩
      exact (isTurnedAway_reject hid).imp_right And.left
  | queued lines hvalid hqueued => exact .inl ⟨hmore, fun _ hid => hid⟩
  | @admitted _ _ _ hvalid hgranted hstarted =>
      have hcalm := Calm.started hstarted (hs.fitting.entered document options)
      exact .inl ⟨hcalm.demand.trans hmore, hcalm.turned⟩
  | stirred hstep => cases hstep

/-- Nobody has a slot or waits for one when no call is in progress and no slot is held apart. -/
theorem demand_eq_zero (hs : s.Sound studio) (hout : s.HeldApart []) (hrest : s.jobs = []) :
    s.governor.demand = 0 := by
  rw [Governor.demand, active_of_rest hs hrest, outsiders_eq_nil hout, queued_eq hs, hrest]
  rfl

/-- A press at rest of which no slot is in use has none held apart. -/
theorem heldApart_of_idle (hs : s.Sound studio) (hactive : s.governor.active = 0) :
    s.HeldApart [] := by
  have hslots := hs.books.slots
  have hnone : s.governor.held = [] := by
    refine List.eq_nil_of_length_eq_zero ?_
    rw [Governor.active] at hactive
    omega
  intro ticket _ hheld
  rw [hnone] at hheld
  cases hheld

end State

/-! ## Items of a batch -/

/-- The elements of one of the groups into which a list is cut. -/
def groupAt {α : Type} (size number : Nat) (items : List α) : List α :=
  (items.drop (number * size)).take size

/-- Every element belongs to a group. -/
theorem mem_groupAt {α : Type} {size i : Nat} {items : List α} {x : α} (hsize : 0 < size)
    (hx : items[i]? = some x) : x ∈ groupAt size (i / size) items := by
  have hplace : i / size * size + i % size = i := Nat.div_add_mod' i size
  refine List.mem_of_getElem? (i := i % size) ?_
  rw [groupAt, List.getElem?_take, if_pos (Nat.mod_lt i hsize), List.getElem?_drop, hplace, hx]

theorem groupAt_append_left {α : Type} {size number : Nat} {items : List α}
    (hlength : (number + 1) * size ≤ items.length) (more : List α) :
    groupAt size number (items ++ more) = groupAt size number items := by
  rw [Nat.succ_mul] at hlength
  rw [groupAt, groupAt, List.drop_append_of_le_length (by omega),
    List.take_append_of_le_length (by rw [List.length_drop]; omega)]

theorem groupAt_append_right {α : Type} {size number : Nat} {items more : List α}
    (hlength : items.length = number * size) (hmore : more.length ≤ size) :
    groupAt size number (items ++ more) = more := by
  rw [groupAt, ← hlength, List.drop_left, List.take_of_length_le hmore]

theorem groupAt_eq_nil {α : Type} {size number : Nat} {items : List α}
    (hlength : items.length ≤ number * size) : groupAt size number items = [] := by
  rw [groupAt, List.drop_eq_nil_of_le hlength, List.take_nil]

/-- Whether an item has been turned away. -/
def Member.isTurnedAway (s : State) (member : Member) : Bool :=
  (member.result? s).any Press.isTurnedAway

theorem Member.isTurnedAway_iff {member : Member} :
    member.isTurnedAway s = true ↔ ∃ id, member.call = some id ∧ s.isTurnedAway id = true := by
  obtain ⟨document, call⟩ := member
  cases call with
  | none => simp [isTurnedAway, result?]
  | some id => simp [isTurnedAway, result?, State.isTurnedAway]

/-- Items are turned away only by their own calls. -/
theorem countP_isTurnedAway_le {members : List Member}
    (hcalls : ∀ id ∈ members.filterMap Member.call,
      s'.isTurnedAway id = true → s.isTurnedAway id = true) :
    members.countP (Member.isTurnedAway s') ≤ members.countP (Member.isTurnedAway s) := by
  refine List.countP_mono_left fun member hmember hturned => ?_
  obtain ⟨id, hcall, hid⟩ := Member.isTurnedAway_iff.1 hturned
  exact Member.isTurnedAway_iff.2
    ⟨id, hcall, hcalls id (List.mem_filterMap.2 ⟨member, hmember, hcall⟩) hid⟩

/-- Nobody has been turned away under a number that is still to be given out. -/
theorem State.isTurnedAway_nextId (hs : s.Numbered) : s.isTurnedAway s.nextId = false := by
  rw [isTurnedAway]
  cases hresult : s.result? s.nextId with
  | none => rfl
  | some outcome =>
      obtain ⟨call, hcall, hid, -⟩ := mem_finished_of_result? hresult
      exact absurd hid (Nat.ne_of_lt (hs.finished call hcall))

/-- Nobody has been turned away whose call has not begun. -/
theorem countP_isTurnedAway_eq_zero {members : List Member}
    (hnone : members.filterMap Member.call = []) :
    members.countP (Member.isTurnedAway s) = 0 := by
  refine List.countP_eq_zero.2 fun member hmember hturned => ?_
  obtain ⟨id, hcall, -⟩ := Member.isTurnedAway_iff.1 hturned
  have hid : id ∈ members.filterMap Member.call := List.mem_filterMap.2 ⟨member, hmember, hcall⟩
  rw [hnone] at hid
  cases hid

namespace BatchState

variable {groups : List (List Document)} {b next last : BatchState} {events : List Event}
  {slots limit size : Nat} {documents : List Document}

/-! ## Batches that have a press to themselves -/

/-- Each item begins with one call that arrives. -/
theorem Step.length_calls_le (hstep : Step studio options groups b event next) :
    next.calls.length ≤ b.calls.length + ([event].filterMap Event.request?).length := by
  cases hstep with
  | begin hgroup =>
      simp [calls, members, hgroup, Member.awaiting, Event.request?]
      omega
  | happen hspares => exact Nat.le_add_right _ _
  | close hgroup hended =>
      simp only [calls, members, List.filterMap_append, call_group, List.append_nil]
      exact Nat.le_add_right _ _

theorem Goes.length_calls_le (hgoes : Goes studio options groups b events last) :
    last.calls.length ≤ b.calls.length + (events.filterMap Event.request?).length := by
  induction hgoes with
  | refl => exact Nat.le_refl _
  | tail _ hstep ih =>
      have hlast := hstep.length_calls_le
      rw [List.filterMap_append, List.length_append]
      omega

/-- The groups that are over are full while there is a group at work. -/
theorem Sane.length_closed (h : b.Sane studio size documents) (hgroup : b.group ≠ []) :
    b.closed.length = b.number * size := by
  have hpast := congrArg List.length h.past
  have hpresent := congrArg List.length h.present
  have hsome := List.length_pos_iff.2 hgroup
  rw [List.length_map, List.length_take] at hpast hpresent
  rw [List.length_drop] at hpresent
  omega

/-- No item that has begun before is turned away by a call that comes now. -/
theorem Sane.countP_arrive_le (h : b.Sane studio size documents) (document : Document)
    (options : RenderOptions) {members : List Member}
    (hold : ∀ id ∈ members.filterMap Member.call, id ∈ b.calls) :
    members.countP (Member.isTurnedAway (b.press.step studio (.arrive document options))) ≤
      members.countP (Member.isTurnedAway b.press) := by
  refine countP_isTurnedAway_le fun id hid hturned => ?_
  have hother : id ≠ b.press.nextId := Nat.ne_of_lt (h.issued id (hold id hid))
  rcases State.turns_arrive h.sound document options with ⟨-, hsame⟩ | ⟨-, -, -, -, hsame⟩
  · exact hsame id hturned
  · exact (hsame id hturned).resolve_right hother

/-- What holds of a batch that has a press to itself, given the number of slots, the limit of
the queue and the size of groups. -/
structure Fits (slots limit size : Nat) (b : BatchState) : Prop where
  capacity : b.press.governor.capacity = slots
  apart : b.press.HeldApart []
  /-- All calls in progress are the batch's. -/
  own : ∀ job ∈ b.press.jobs, job.id ∈ b.calls
  /-- Whoever of the group has begun is turned away or counts once. -/
  demand : b.press.governor.demand + b.group.countP (Member.isTurnedAway b.press) ≤
    (b.group.filterMap Member.call).length
  present : b.group.countP (Member.isTurnedAway b.press) ≤
    (b.group.filterMap Member.call).length - (slots + limit)
  past : ∀ number < b.number, (groupAt size number b.closed).countP (Member.isTurnedAway b.press) ≤
    (groupAt size number b.closed).length - (slots + limit)

namespace Fits

/-- A batch that begins at a press at rest. -/
theorem start (hs : s.Sound studio) (hout : s.HeldApart []) (hrest : s.jobs = [])
    (groups : List (List Document)) (limit size : Nat) :
    (start groups s).Fits s.governor.capacity limit size := by
  have hnone : (Member.group groups 0).filterMap Member.call = [] := call_group groups 0
  have hturned := countP_isTurnedAway_eq_zero (s := s) hnone
  refine ⟨rfl, hout, ?_, ?_, ?_, fun number hless => absurd hless (Nat.not_lt_zero _)⟩
  · intro job hjob
    change job ∈ s.jobs at hjob
    rw [hrest] at hjob
    cases hjob
  · change s.governor.demand + (Member.group groups 0).countP (Member.isTurnedAway s) ≤ _
    rw [State.demand_eq_zero hs hout hrest, hturned]
    exact Nat.zero_le _
  · change (Member.group groups 0).countP (Member.isTurnedAway s) ≤ _
    rw [hturned]
    exact Nat.zero_le _

variable (h : b.Fits slots limit size)

include h

/-- Of the group at work not more are turned away than are too many. -/
theorem countP_group_le :
    b.group.countP (Member.isTurnedAway b.press) ≤ b.group.length - (slots + limit) :=
  h.present.trans (Nat.sub_le_sub_right (List.length_filterMap_le _ _) _)

variable (hsane : b.Sane studio size documents)

include hsane

/-- What happens while nobody comes turns nobody away. -/
theorem happen (hnobody : event.request? = none) (hhold : event ≠ .hold) :
    ({ b with press := b.press.step studio event } : BatchState).Fits slots limit size := by
  have hcalm := State.calm_step hsane.sound hnobody hhold
  have hfewer (members : List Member) :
      members.countP (Member.isTurnedAway (b.press.step studio event)) ≤
        members.countP (Member.isTurnedAway b.press) :=
    countP_isTurnedAway_le fun id _ => hcalm.turned id
  refine ⟨?_, ?_, ?_, ?_, ?_, fun number hless => ?_⟩
  · exact (State.capacity_run studio b.press [event]).trans h.capacity
  · have hquiet : Event.hold ∉ [event] := fun hmem => hhold (List.mem_singleton.1 hmem).symm
    exact State.heldApart_run hsane.sound h.apart hquiet
  · intro later hlater
    rcases State.mem_jobs_step studio hlater with ⟨job, hjob, hsame⟩ | ⟨document, options, rfl, -⟩
    · rw [hsame.id]
      exact h.own job hjob
    · cases hnobody
  · exact (Nat.add_le_add hcalm.demand (hfewer b.group)).trans h.demand
  · exact (hfewer b.group).trans h.present
  · exact (hfewer _).trans (h.past number hless)

/-- When an item of the group begins, one more is turned away or counts, and it is turned away
only if slots and queue are full. -/
theorem bounds_arrive (options : RenderOptions)
    (hlimit : studio.settings.maxQueueDepth = some limit) {before after : List Member}
    (hgroup : b.group = before ++ .awaiting document :: after) :
    let press := b.press.step studio (.arrive document options)
    let group := before ++ ⟨document, some b.press.nextId⟩ :: after
    press.governor.demand + group.countP (Member.isTurnedAway press) ≤
        (group.filterMap Member.call).length ∧
      group.countP (Member.isTurnedAway press) ≤
        (group.filterMap Member.call).length - (slots + limit) := by
  intro press group
  have hbegun : (group.filterMap Member.call).length =
      (b.group.filterMap Member.call).length + 1 := by
    simp [group, hgroup, Member.awaiting]
    omega
  have hothers : (before ++ after).countP (Member.isTurnedAway press) ≤
      b.group.countP (Member.isTurnedAway b.press) := by
    have hgroupmates : (before ++ after).countP (Member.isTurnedAway b.press) =
        b.group.countP (Member.isTurnedAway b.press) := by
      simp [hgroup, Member.isTurnedAway, Member.result?, Member.awaiting]
    rw [← hgroupmates]
    refine hsane.countP_arrive_le document options fun id hid => ?_
    simp only [calls, members, hgroup, List.filterMap_append, List.mem_append,
      List.filterMap_cons, Member.awaiting] at hid ⊢
    exact .inr hid
  have hmine : group.countP (Member.isTurnedAway press) =
      (before ++ after).countP (Member.isTurnedAway press) +
        if press.isTurnedAway b.press.nextId then 1 else 0 := by
    have hcall : Member.isTurnedAway press ⟨document, some b.press.nextId⟩ =
        press.isTurnedAway b.press.nextId := rfl
    rw [List.countP_append, List.countP_append, List.countP_cons, hcall, Nat.add_assoc]
  have hdemand := h.demand
  have hpresent := h.present
  have hslots := h.capacity
  rcases State.turns_arrive hsane.sound document options with
    ⟨hmore, hsame⟩ | ⟨own, hown, hfull, hmore, -⟩
  · have hnot : press.isTurnedAway b.press.nextId = false := by
      have hfresh := State.isTurnedAway_nextId hsane.sound.numbered
      rw [← Bool.not_eq_true]
      exact fun hturned => absurd (hsame _ hturned) (by simp [hfresh])
    change press.governor.demand ≤ b.press.governor.demand + 1 at hmore
    rw [hmine, hnot, hbegun]
    simp only [Bool.false_eq_true, if_false]
    omega
  · rw [hlimit, Option.some.injEq] at hown
    change press.governor.demand = b.press.governor.demand at hmore
    have hone : (if press.isTurnedAway b.press.nextId then 1 else 0) ≤ 1 := by
      split <;> omega
    rw [hmine, hbegun]
    omega

/-- An item of the group begins. -/
theorem begin (options : RenderOptions) (hlimit : studio.settings.maxQueueDepth = some limit)
    {before after : List Member} (hgroup : b.group = before ++ .awaiting document :: after) :
    ({ b with
        press := b.press.step studio (.arrive document options)
        group := before ++ ⟨document, some b.press.nextId⟩ :: after } : BatchState).Fits slots limit
      size := by
  obtain ⟨hdemand, hpresent⟩ := h.bounds_arrive hsane options hlimit hgroup
  refine ⟨?_, ?_, fun job hjob => ?_, hdemand, hpresent, fun number hless => ?_⟩
  · exact (State.capacity_run studio b.press [.arrive document options]).trans h.capacity
  · have hquiet : Event.hold ∉ [Event.arrive document options] := by simp
    exact State.heldApart_run hsane.sound h.apart hquiet
  · have hown : job.id ∈ b.calls ∨ job.id = b.press.nextId := by
      rcases State.mem_jobs_step studio hjob with ⟨old, hold, hsame⟩ | ⟨_, _, -, -, hsame⟩
      · exact .inl (hsame.id ▸ h.own old hold)
      · exact .inr hsame.id
    simp only [calls, members, hgroup, Member.awaiting, List.filterMap_append,
      List.filterMap_cons, List.mem_append, List.mem_cons] at hown ⊢
    tauto
  · refine (hsane.countP_arrive_le document options fun id hid => ?_).trans (h.past number hless)
    have hsub : groupAt size number b.closed ⊆ b.closed :=
      fun _ hmem => List.mem_of_mem_drop (List.mem_of_mem_take hmem)
    rw [calls, members, List.filterMap_append]
    obtain ⟨member, hmember, hcall⟩ := List.mem_filterMap.1 hid
    exact List.mem_append_left _ (List.mem_filterMap.2 ⟨member, hsub hmember, hcall⟩)

/-- When the group at work is over, nobody has a slot or waits for one. -/
theorem demand_of_ended
    (hended : ∀ member ∈ b.group, (member.result? b.press).isSome = true) :
    b.press.governor.demand = 0 := by
  refine State.demand_eq_zero hsane.sound h.apart (List.eq_nil_iff_forall_not_mem.2 ?_)
  intro job hjob
  obtain ⟨member, hmember, hcall⟩ := List.mem_filterMap.1 (h.own job hjob)
  have hresult : (member.result? b.press).isSome = true := by
    rcases List.mem_append.1 hmember with hclosed | hgroup
    · obtain ⟨i, hplace⟩ := List.mem_iff_getElem?.1 hclosed
      obtain ⟨outcome, houtcome, -⟩ := hsane.collected_closed hplace
      rw [houtcome]
      rfl
    · exact hended member hgroup
  obtain ⟨outcome, houtcome⟩ := Option.isSome_iff_exists.1 hresult
  rw [Member.result?, hcall, Option.bind_some] at houtcome
  obtain ⟨call, hfinished, hid, -⟩ := State.mem_finished_of_result? houtcome
  exact hsane.sound.numbered.apart job hjob call hfinished hid

/-- Of every group not more are turned away than are too many. -/
theorem countP_groupAt_le (number : Nat) :
    (groupAt size number b.members).countP (Member.isTurnedAway b.press) ≤
      (groupAt size number b.members).length - (slots + limit) := by
  have hlength := congrArg List.length hsane.document_members
  have hpresent := congrArg List.length hsane.present
  rw [List.length_map, List.length_take] at hlength hpresent
  rcases Nat.lt_trichotomy number b.number with hless | rfl | hmore
  · have hsame : groupAt size number b.members = groupAt size number b.closed := by
      rcases eq_or_ne b.group [] with hnone | hsome
      · rw [members, hnone, List.append_nil]
      · refine groupAt_append_left ?_ b.group
        rw [hsane.length_closed hsome]
        exact Nat.mul_le_mul_right size hless
    rw [hsame]
    exact h.past number hless
  · rcases eq_or_ne b.group [] with hnone | hsome
    · have hpast := congrArg List.length hsane.past
      rw [List.length_map, List.length_take] at hpast
      rw [members, hnone, List.append_nil, groupAt_eq_nil (by omega)]
      exact Nat.zero_le _
    · rw [members, groupAt_append_right (hsane.length_closed hsome) (by omega)]
      exact h.countP_group_le
  · have hbound : (b.number + 1) * size ≤ number * size := Nat.mul_le_mul_right size hmore
    rw [groupAt_eq_nil (by omega)]
    exact Nat.zero_le _

end Fits

/-- When the group at work is over, the next one finds the press at rest. -/
theorem Fits.close (h : b.Fits slots limit (size + 1)) (hsane : b.Sane studio (size + 1) documents)
    (hgroup : b.group ≠ [])
    (hended : ∀ member ∈ b.group, (member.result? b.press).isSome = true) (lines : List LogLine) :
    ({ press := b.press.step studio (.report lines)
       number := b.number + 1
       closed := b.closed ++ b.group
       group := Member.group groups (b.number + 1)
       items := b.items ++ b.collected } : BatchState).Fits slots limit (size + 1) := by
  have hreported : ({ b with press := b.press.step studio (.report lines) } : BatchState).Fits slots
      limit (size + 1) :=
    h.happen hsane rfl nofun
  have hnone : (Member.group groups (b.number + 1)).filterMap Member.call = [] := call_group _ _
  have hturned := countP_isTurnedAway_eq_zero (s := b.press.step studio (.report lines)) hnone
  have hdemand : (b.press.step studio (.report lines)).governor.demand = 0 :=
    h.demand_of_ended hsane hended
  have hlength := hsane.length_closed hgroup
  have hfull := congrArg List.length hsane.present
  rw [List.length_map, List.length_take] at hfull
  refine ⟨hreported.capacity, hreported.apart, fun job hjob => ?_, ?_, ?_, fun number hless => ?_⟩
  · have hcalls := h.own job hjob
    rw [calls, members, List.filterMap_append] at hcalls ⊢
    rw [List.filterMap_append]
    exact List.mem_append_left _ hcalls
  · dsimp only
    rw [hdemand, hturned]
    exact Nat.zero_le _
  · dsimp only
    rw [hturned]
    exact Nat.zero_le _
  · dsimp only at hless ⊢
    rcases Nat.lt_or_eq_of_le (Nat.le_of_lt_succ hless) with hearlier | rfl
    · have hover : (number + 1) * (size + 1) ≤ b.closed.length := by
        rw [hlength]
        exact Nat.mul_le_mul_right _ hearlier
      rw [groupAt_append_left hover]
      exact hreported.past number hearlier
    · rw [groupAt_append_right hlength (by omega)]
      exact hreported.countP_group_le

/-- A batch keeps within its bounds while nobody else comes and nobody takes a slot apart. -/
theorem Fits.step (h : b.Fits slots limit (size + 1)) (hsane : b.Sane studio (size + 1) documents)
    (hlimit : studio.settings.maxQueueDepth = some limit) (hhold : event ≠ .hold)
    (hstep : Step studio options (groupsOf size documents) b event next)
    (hown : b.calls.length + ([event].filterMap Event.request?).length = next.calls.length) :
    next.Fits slots limit (size + 1) := by
  cases hstep with
  | begin hgroup => exact h.begin hsane options hlimit hgroup
  | happen hspares =>
      refine h.happen hsane ?_ hhold
      -- Whoever comes without belonging to the batch would be one caller too many.
      cases hrequest : event.request? with
      | none => rfl
      | some request =>
          rw [List.filterMap_cons_some hrequest] at hown
          change b.calls.length + 1 = b.calls.length at hown
          omega
  | close hgroup hended => exact h.close hsane hgroup hended _

theorem Fits.goes (h : b.Fits slots limit (size + 1)) (hsane : b.Sane studio (size + 1) documents)
    (hlimit : studio.settings.maxQueueDepth = some limit)
    (hgoes : Goes studio options (groupsOf size documents) b events last)
    (hhold : .hold ∉ events)
    (hown : b.calls.length + (events.filterMap Event.request?).length = last.calls.length) :
    last.Fits slots limit (size + 1) := by
  induction hgoes with
  | refl => exact h
  | @tail events event mid last hbefore hstep ih =>
      have hearlier := hbefore.length_calls_le
      have hnext := hstep.length_calls_le
      rw [List.filterMap_append, List.length_append] at hown
      have hmid := ih (fun hmem => hhold (List.mem_append_left _ hmem)) (by omega)
      refine hmid.step (hsane.goes hbefore) hlimit ?_ hstep (by omega)
      rintro rfl
      exact hhold (List.mem_append_right _ List.mem_cons_self)

/-! ## Batches that are over -/

section Over

variable (h : b.Sane studio (size + 1) documents) (hover : IsOver (groupsOf size documents) b)

include h hover

theorem Sane.length_members : b.members.length = documents.length := by
  have hlength := congrArg List.length h.document_members
  rw [List.length_map, List.length_take] at hlength
  have hall : documents.length ≤ b.members.length := by
    by_contra hless
    obtain ⟨id, outcome, hmember, -⟩ := (h.items_of_isOver hover).2 b.members.length _
      (List.getElem?_eq_getElem (Nat.lt_of_not_le hless))
    exact Nat.lt_irrefl _ (List.getElem?_eq_some_iff.1 hmember).1
  omega

/-- Every item has begun. -/
theorem Sane.length_calls : b.calls.length = documents.length := by
  have hbegun : ∀ member ∈ b.members, member.call.isSome = true := by
    intro member hmember
    obtain ⟨i, hplace⟩ := List.mem_iff_getElem?.1 hmember
    have hless := (List.getElem?_eq_some_iff.1 hplace).1
    rw [h.length_members hover] at hless
    obtain ⟨id, outcome, hitem, -⟩ :=
      (h.items_of_isOver hover).2 i _ (List.getElem?_eq_getElem hless)
    rw [hplace] at hitem
    cases hitem
    rfl
  rw [calls, List.length_filterMap_eq_countP, List.countP_eq_length.2 hbegun,
    h.length_members hover]

/-- What is returned says of each item whether it was turned away. -/
theorem Sane.isTurnedAway_items :
    b.items.map BatchItem.isTurnedAway = b.members.map (Member.isTurnedAway b.press) := by
  obtain ⟨hlength, hitems⟩ := h.items_of_isOver hover
  refine List.ext_getElem? fun i => ?_
  rw [List.getElem?_map, List.getElem?_map]
  rcases Nat.lt_or_ge i documents.length with hless | hmore
  · obtain ⟨id, outcome, hmember, hresult, hitem⟩ :=
      hitems i _ (List.getElem?_eq_getElem hless)
    have hturned : Member.isTurnedAway b.press ⟨documents[i], some id⟩ =
        Press.isTurnedAway outcome := by
      rw [Member.isTurnedAway, Member.result?, Option.bind_some, hresult]
      rfl
    rw [hmember, hitem, Option.map_some, Option.map_some, hturned]
    rfl
  · rw [List.getElem?_eq_none (by omega),
      List.getElem?_eq_none (by rw [h.length_members hover]; exact hmore)]
    rfl

end Over

/-- Rendering a batch is one way for it to go, and nobody else comes or takes a slot meanwhile. -/
theorem exists_goes_renderBatch (hs : s.Steady studio)
    (hroomy : s.outsiders.length < s.governor.capacity) (documents : List Document)
    (batch : BatchOptions) :
    ∃ events b, Goes studio batch.options (groupsOf (batch.concurrency - 1) documents)
        (start (groupsOf (batch.concurrency - 1) documents) s) events b ∧
      .hold ∉ events ∧ (events.filterMap Event.request?).length = b.calls.length ∧
      (s.renderBatch studio documents batch).1.length = documents.length ∧
      (s.renderBatch studio documents batch).1.map BatchItem.isTurnedAway =
        b.members.map (Member.isTurnedAway b.press) := by
  obtain ⟨b, hgoes, hover, hitems⟩ := goes_batchEvents hs hroomy documents batch
  have hfor := State.isRunFor_batchEvents studio documents batch s
  have hlast := (sane_start hs.sound (batch.concurrency - 1) documents).goes hgoes
  refine ⟨_, b, hgoes, fun hmem => ?_, ?_, ?_, ?_⟩
  · have hbatchwork := hfor.batchwork _ hmem
    cases hbatchwork
  · rw [hfor.requests, List.length_map, hlast.length_calls hover]
  · rw [← hitems, (hlast.items_of_isOver hover).1]
  · rw [← hitems, hlast.isTurnedAway_items hover]

end BatchState

/-- Where no group has too many elements, none is singled out. -/
theorem all_false_of_groups {α : Type} {size room : Nat} {items : List α} {p : α → Bool}
    (hsize : 0 < size)
    (hgroups : ∀ number, (groupAt size number items).countP p ≤
      (groupAt size number items).length - room)
    (hroom : min size items.length ≤ room) : ∀ x ∈ items, p x = false := by
  intro x hx
  obtain ⟨i, hplace⟩ := List.mem_iff_getElem?.1 hx
  have hcount := hgroups (i / size)
  have hfew : (groupAt size (i / size) items).length ≤ room := by
    rw [groupAt, List.length_take, List.length_drop]
    omega
  have hzero : (groupAt size (i / size) items).countP p = 0 := by omega
  rw [← Bool.not_eq_true]
  exact List.countP_eq_zero.1 hzero x (mem_groupAt hsize hplace)

/-! ## The theorem -/

/-- A batch at a press at rest.  Let the queue of the press be limited, and call room what slots
and queue can take together.  However the batch goes, as long as nobody else comes or takes a
slot, of each of its groups no more items are turned away than the group exceeds the room by;
and when the first group, which is the largest, does not exceed it, no item of any group is
turned away.  The same holds of what `renderBatch` returns. -/
theorem crowded_groups_turn_away_the_excess {studio : Studio} {settings : Settings}
    {around : Surroundings} {start : State} {limit : Nat}
    (hopen : openWith settings around = .ok (studio, start))
    (hlimit : settings.maxQueueDepth = some limit) (before : List Event) :
    let s := start.run studio before
    s.jobs = [] → s.governor.active = 0 → ∀ (documents : List Document) (batch : BatchOptions),
      let size := max batch.concurrency 1
      let groups := groupsOf (batch.concurrency - 1) documents
      let room := settings.maxConcurrentRenders + limit
      (∀ events b, BatchState.Goes studio batch.options groups (.start groups s) events b →
        .hold ∉ events → (events.filterMap Event.request?).length = b.calls.length →
          (∀ number, (groupAt size number b.members).countP (Member.isTurnedAway b.press) ≤
            (groupAt size number b.members).length - room) ∧
          (min size documents.length ≤ room →
            ∀ member ∈ b.members, member.isTurnedAway b.press = false)) ∧
      let items := (s.renderBatch studio documents batch).1
      items.length = documents.length ∧
        (∀ number, (groupAt size number items).countP BatchItem.isTurnedAway ≤
          (groupAt size number items).length - room) ∧
        (min size documents.length ≤ room → ∀ item ∈ items, item.isTurnedAway = false) := by
  intro s hrest hactive documents batch size groups room
  have hs : s.Steady studio := (State.steady_of_openWith hopen).run before
  obtain ⟨hsettings, governor, hstart, made⟩ := State.governor_of_openWith hopen
  have hcapacity : s.governor.capacity = max settings.maxConcurrentRenders 1 := by
    change (start.run studio before).governor.capacity = _
    rw [State.capacity_run, hstart, governor_eq_of_make made]
    rfl
  have hsize : size = batch.concurrency - 1 + 1 := by
    simp only [size]
    omega
  have hpositive : 0 < size := hsize ▸ Nat.succ_pos _
  have hout := State.heldApart_of_idle hs.sound hactive
  have hsane := BatchState.sane_start hs.sound (batch.concurrency - 1) documents
  have hfits := BatchState.Fits.start hs.sound hout hrest groups limit (batch.concurrency - 1 + 1)
  have hcalls : (BatchState.start groups s).calls = [] := BatchState.call_group groups 0
  have hways (events : List Event) (b : BatchState)
      (hgoes : BatchState.Goes studio batch.options groups (.start groups s) events b)
      (hhold : .hold ∉ events)
      (hown : (events.filterMap Event.request?).length = b.calls.length) (number : Nat) :
      (groupAt size number b.members).countP (Member.isTurnedAway b.press) ≤
        (groupAt size number b.members).length - room := by
    have hlast := hfits.goes hsane (hsettings ▸ hlimit) hgoes hhold
      (by rw [hcalls]; simpa using hown)
    have hbound := hlast.countP_groupAt_le (hsane.goes hgoes) number
    rw [hsize]
    omega
  have hmembers (events : List Event) (b : BatchState)
      (hgoes : BatchState.Goes studio batch.options groups (.start groups s) events b) :
      b.members.length ≤ documents.length := by
    have hlength := congrArg List.length (hsane.goes hgoes).document_members
    rw [List.length_map, List.length_take] at hlength
    omega
  refine ⟨fun events b hgoes hhold hown => ⟨hways events b hgoes hhold hown, fun hroom => ?_⟩, ?_⟩
  · have hfew := hmembers events b hgoes
    exact all_false_of_groups hpositive (hways events b hgoes hhold hown) (by omega)
  · intro items
    have hroomy : s.outsiders.length < s.governor.capacity := by
      rw [State.outsiders_eq_nil hout]
      exact hs.sound.roomy
    obtain ⟨events, b, hgoes, hhold, hown, hlength, hsame⟩ :=
      BatchState.exists_goes_renderBatch hs hroomy documents batch
    have hgroups (number : Nat) : (groupAt size number items).countP BatchItem.isTurnedAway ≤
        (groupAt size number items).length - room := by
      have hbound := hways events b hgoes hhold hown number
      have hgroup := congrArg (groupAt size number) hsame
      simp only [groupAt, ← List.map_drop, ← List.map_take] at hgroup hbound ⊢
      have hcount := congrArg (List.countP id) hgroup
      have hplaces := congrArg List.length hgroup
      simp only [List.countP_map, Function.id_comp, List.length_map] at hcount hplaces
      rw [hcount, hplaces]
      exact hbound
    exact ⟨hlength, hgroups, fun hroom =>
      all_false_of_groups hpositive hgroups (by rw [hlength]; exact hroom)⟩

/-- Two documents at once for one slot and no queue: the second is turned away, and that is the
whole excess.  One at a time, neither is. -/
theorem crowded_groups_turn_away_the_excess_of_two :
    let settings : Settings :=
      { enableCaching := false, outputPath := some "out", maxConcurrentRenders := 1,
        maxQueueDepth := some 0 }
    let options := { RenderOptions.ofSettings settings with format := .vector }
    let document := Document.ofKind .businessModel
    let groups := groupsOf 1 [document, document]
    let events : List Event := [.arrive document options, .arrive document options]
    ∃ (studio : Studio) (start : State) (b : BatchState),
      openWith settings ⟨.obliging, .missing, none, ⟨0, 0⟩⟩ = .ok (studio, start) ∧
        BatchState.Goes studio options groups (.start groups start) events b ∧
        (groupAt 2 0 b.members).map (Member.isTurnedAway b.press) = [false, true] ∧
        (groupAt 2 0 b.members).countP (Member.isTurnedAway b.press) ≤ 2 - (1 + 0) ∧
        ∀ item ∈ (start.renderBatch studio [document, document] ⟨1, options⟩).1,
          item.isTurnedAway = false := by
  intro settings options document groups events
  let studio : Studio := ⟨.obliging, settings, .empty, none, ⟨0, 0⟩⟩
  let start : State := .fresh settings (.ofCapacity 1 (some 0))
  let b : BatchState :=
    ⟨start.run studio events, 0, [], [⟨document, some 0⟩, ⟨document, some 1⟩], []⟩
  have hopen : openWith settings ⟨.obliging, .missing, none, ⟨0, 0⟩⟩ = .ok (studio, start) := rfl
  have hgroup : Member.group groups 0 = [.awaiting document, .awaiting document] := by
    rw [Member.group, getElem?_groupsOf]
    rfl
  have hgoes : BatchState.Goes studio options groups (.start groups start) events b := by
    rw [BatchState.start, hgroup]
    have hfirst := @BatchState.Step.begin studio options groups
      ⟨start, 0, [], [.awaiting document, .awaiting document], []⟩ [] [.awaiting document]
      document rfl
    have hsecond := @BatchState.Step.begin studio options groups
      ⟨start.run studio [.arrive document options], 0, [],
        [⟨document, some 0⟩, .awaiting document], []⟩ [⟨document, some 0⟩] [] document rfl
    exact .head hfirst (.head hsecond .refl)
  have hatonce := crowded_groups_turn_away_the_excess hopen rfl [] rfl rfl [document, document]
    ⟨2, options⟩
  have hinturn := crowded_groups_turn_away_the_excess hopen rfl [] rfl rfl [document, document]
    ⟨1, options⟩
  have hbound := (hatonce.1 events b hgoes (by simp [events]) rfl).1 0
  exact ⟨studio, start, b, hopen, hgoes, rfl, hbound, hinturn.2.2.2 (by decide)⟩

end Press

end CanvasPress

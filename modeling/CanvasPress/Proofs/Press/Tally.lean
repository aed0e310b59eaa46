/-
# Every call is counted once

A call that has arrived is in progress until it ends or its caller leaves it, so the numbers
that have been given to calls are at any time those in progress, those on record and those
that were left.  What a call ends with puts it into one of five classes.  The press counts
three of them, and whoever knows what has ended can check its counters.

When no call is in progress nobody waits, and only those who took slots for themselves may
still have some.  Whatever patient callers demand of a press, one thing after another, no
call is in progress afterwards.
-/

import CanvasPress.Proofs.Press.Batches

namespace CanvasPress

namespace Cache

variable {α : Type} (cache : Cache α) (now : Nat) (key : String)

theorem size_get_le : (cache.get now key).2.size ≤ cache.size := by
  have hlooks := looks_get cache now key .debug
  generalize cache.get now key = result at hlooks ⊢
  cases hlooks with
  | dropped hintact =>
      have hfewer : (cache.without key).length ≤ cache.entries.length := List.length_filter_le _ _
      simpa [size, hintact] using hfewer
  | aborted => exact Nat.zero_le _
  | _ => exact Nat.le_refl _

theorem size_put_le (value : α) : (cache.put now key value).size ≤ cache.size + 1 := by
  have hfewer : (cache.without key).length ≤ cache.entries.length := List.length_filter_le _ _
  unfold put
  split_ifs with hwedged
  · exact Nat.le_succ _
  · simpa [size, hwedged] using hfewer

theorem size_purge_le : (cache.purge now).size ≤ cache.size := by
  unfold purge
  split_ifs with hwedged
  · exact Nat.le_refl _
  · simpa [size, hwedged] using List.length_filter_le _ _

theorem size_clear_le : cache.clear.size ≤ cache.size := by
  unfold clear
  split_ifs with hwedged
  · exact Nat.le_refl _
  · simp [size, hwedged]

end Cache

namespace Press

variable {studio : Studio} {s s' : State} {job known : Job} {fate : Fate} {event : Event}
  {engine : Engine} {settings : Settings} {call : Finished} {marks : List Mark}
  {events : List Event}

/-! ## Classes of calls -/

/-- What a call has ended as. -/
inductive Verdict where
  /-- Refused for its options. -/
  | invalid
  /-- Refused because too many callers wait. -/
  | turnedAway
  | made
  /-- Served from the cache. -/
  | served
  /-- Failed with a slot. -/
  | failed
deriving DecidableEq

/-- The class of a call that has ended. -/
def Finished.verdict (call : Finished) : Verdict :=
  match call.outcome with
  | .ok rendering => if rendering.metadata.cacheHit then .served else .made
  | .error (.config _) => .invalid
  | .error (.queueFull _ _) => .turnedAway
  | .error _ => .failed

theorem Finished.isMade_eq (call : Finished) : call.isMade = (call.verdict == .made) := by
  unfold isMade verdict
  cases call.outcome with
  | ok rendering => cases hhit : rendering.metadata.cacheHit <;> simp [hhit]
  | error fault => cases fault <;> rfl

theorem Finished.isServed_eq (call : Finished) : call.isServed = (call.verdict == .served) := by
  unfold isServed verdict
  cases call.outcome with
  | ok rendering => cases hhit : rendering.metadata.cacheHit <;> simp [hhit]
  | error fault => cases fault <;> rfl

theorem Finished.isFailed_eq (call : Finished) : call.isFailed = (call.verdict == .failed) := by
  unfold isFailed isRefused verdict
  cases call.outcome with
  | ok rendering =>
      cases hhit : rendering.metadata.cacheHit <;> simp [hhit, Except.isOk, Except.toBool]
  | error fault => cases fault <;> rfl

theorem Finished.verdict_eq_invalid_iff :
    call.verdict = .invalid ↔ ∃ cause, call.outcome = .error (.config cause) := by
  unfold verdict
  cases call.outcome with
  | ok rendering => cases hhit : rendering.metadata.cacheHit <;> simp [hhit]
  | error fault => cases fault <;> simp

/-- Every call belongs to one class. -/
theorem length_eq_sum_verdicts (calls : List Finished) : calls.length =
    calls.countP (·.verdict == .invalid) + calls.countP (·.verdict == .turnedAway) +
      calls.countP (·.verdict == .made) + calls.countP (·.verdict == .served) +
      calls.countP (·.verdict == .failed) := by
  induction calls with
  | nil => rfl
  | cons call rest ih =>
      simp only [List.countP_cons, List.length_cons, ih]
      cases call.verdict <;> simp <;> omega

namespace State

/-- How many calls have ended in a class. -/
def tally (s : State) (verdict : Verdict) : Nat :=
  s.finished.countP (·.verdict == verdict)

/-! ## The numbers of calls -/

/-- The numbers of the calls that have ended or are in progress. -/
def callIds (s : State) : List Nat :=
  s.finished.map Finished.id ++ s.jobs.map Job.id

/-- The number that is given to a call in an event. -/
def comes? (s : State) (event : Event) : Option Nat :=
  event.request?.map fun _ => s.nextId

/-- The number of the call that its caller leaves in an event. -/
def leaves? (s : State) : Event → Option Nat
  | .leave id => (s.job? id).map Job.id
  | _ => none

/-- The numbers that are given to calls in a run, in order. -/
def comers (studio : Studio) : State → List Event → List Nat
  | _, [] => []
  | s, event :: rest => (s.comes? event).toList ++ comers studio (s.step studio event) rest

/-- The numbers of the calls that their callers leave in a run, in order. -/
def leavers (studio : Studio) : State → List Event → List Nat
  | _, [] => []
  | s, event :: rest => (s.leaves? event).toList ++ leavers studio (s.step studio event) rest

/-- A call that has its turn is in progress or on record afterwards. -/
theorem callIds_fulfil (hs : s.Numbered) (hknown : known ∈ s.jobs) (hid : known.id = job.id) :
    (s.fulfil job fate).callIds.Perm s.callIds := by
  rcases fate.waits_or_ends s job with ⟨phase, rfl⟩ | ⟨outcome, houtcome⟩
  · have hsame : (s.fulfil job (.waits phase)).callIds = s.callIds := by
      rw [callIds, callIds]
      exact congrArg _ (ids_wait job phase)
    rw [hsame]
  · obtain ⟨before, after, hjobs, hapart⟩ := hs.split hknown
    have hends := releases_fulfil houtcome
    have hothers : (s.fulfil job fate).jobs = before ++ after := by
      rw [hends.jobs, ← hid, othersThan_of_split hjobs hapart]
    rw [callIds, callIds, hends.finished, hothers, hjobs]
    simp only [List.map_append, List.map_cons, List.cons_append, ending, hid,
      ← List.append_assoc]
    exact List.perm_middle.symm

theorem callIds_stirred (hs : s.Numbered) (hstirred : s.Stirred studio engine s') :
    s'.callIds.Perm s.callIds := by
  cases hstirred with
  | unheard lines => exact .refl _
  | heard lines hjob =>
      have hmid : (({ s with engine := engine } : State).report lines).Numbered :=
        hs.congr rfl rfl rfl
      exact callIds_fulfil hmid (mem_of_job? hjob).1 rfl

theorem callIds_started (hstarted : s.Started studio job s') (hs : s.Numbered)
    (hknows : s.Knows job known) : s'.callIds.Perm s.callIds := by
  obtain ⟨hmem, hid⟩ := mem_of_job? hknows.listed
  have hsearched (lines : List LogLine) : (s.searched job lines).Numbered := hs.congr rfl rfl rfl
  cases hstarted with
  | opens lines hfate => exact callIds_fulfil (hsearched lines) hmem hid
  | asks lines hformat hstirred =>
      have hwaits := (hsearched lines).wait (hknows.congr rfl)
        (.paginating (s.workFor studio job))
      have hfulfilled : ((s.searched job lines).fulfil job
          (.waits (.paginating (s.workFor studio job)))).callIds.Perm s.callIds :=
        callIds_fulfil (hsearched lines) hmem hid
      exact (callIds_stirred hwaits hstirred).trans hfulfilled

theorem callIds_entered (document : Document) (options : RenderOptions) :
    (s.entered document options).callIds = s.callIds ++ [s.nextId] := by
  simp [callIds, entered, caller]

theorem callIds_reject (document : Document) (options : RenderOptions) (fault : Fault) :
    (s.reject document options fault).callIds.Perm (s.callIds ++ [s.nextId]) :=
  (List.perm_append_singleton s.nextId s.callIds).symm

/-- A call that its caller leaves is off the books. -/
theorem callIds_leave (hs : s.Numbered) (id : Nat) :
    ((s.leave id).callIds ++ (s.leaves? (.leave id)).toList).Perm s.callIds := by
  cases hjob : s.job? id with
  | none =>
      have hsame : (s.leave id).callIds = s.callIds := by simp [leave, hjob, callIds]
      simp [leaves?, hjob, hsame]
  | some job =>
      obtain ⟨hmem, rfl⟩ := mem_of_job? hjob
      obtain ⟨before, after, hjobs, hapart⟩ := hs.split hmem
      have hothers : (s.leave job.id).callIds =
          s.finished.map Finished.id ++ (before ++ after).map Job.id := by
        simp [leave, hjob, callIds, othersThan_of_split hjobs hapart]
      have hleaves : (s.leaves? (.leave job.id)).toList = [job.id] := by simp [leaves?, hjob]
      rw [hothers, hleaves, callIds, hjobs]
      simp only [List.map_append, List.map_cons, ← List.append_assoc]
      exact (List.perm_append_singleton _ _).trans List.perm_middle.symm

/-- An event gives a number to the call that arrives, and takes the number of the call that
is left off the books. -/
theorem callIds_step (hs : s.Numbered) (studio : Studio) (event : Event) :
    ((s.step studio event).callIds ++ (s.leaves? event).toList).Perm
      (s.callIds ++ (s.comes? event).toList) := by
  by_cases hleave : ∃ id, event = .leave id
  · obtain ⟨id, rfl⟩ := hleave
    rw [show s.comes? (.leave id) = none from rfl, Option.toList_none, List.append_nil]
    exact callIds_leave hs id
  · have hleaves : s.leaves? event = none := by
      cases event with
      | leave id => exact absurd ⟨id, rfl⟩ hleave
      | _ => rfl
    have hhappens := happens_step studio s event
    generalize s.step studio event = s' at hhappens ⊢
    rw [hleaves, Option.toList_none, List.append_nil]
    have hnobody (hrequest : event.request? = none) (hsame : s'.callIds.Perm s.callIds) :
        s'.callIds.Perm (s.callIds ++ (s.comes? event).toList) := by
      simpa [comes?, hrequest] using hsame
    cases hhappens with
    | idle hidle hlooks =>
        refine hnobody ?_ (.refl _)
        cases event with
        | arrive document options => exact absurd rfl (hlooks document options)
        | _ => rfl
    | invalid => exact callIds_reject _ _ _
    | refused => exact callIds_reject _ _ _
    | @queued document options =>
        have hentered := callIds_entered (s := s) document options
        exact .of_eq hentered
    | admitted hvalid hgranted hstarted =>
        have hbegun := callIds_started hstarted (hs.entered studio _ _)
          (knows_caller hs.jobs studio _ _)
        rw [callIds_entered] at hbegun
        exact hbegun
    | called hjob hphase hpromised hstarted =>
        have hbegun := callIds_started hstarted (hs.congr rfl rfl rfl) ⟨hjob, rfl, rfl⟩
        exact hnobody rfl hbegun
    | rasterized hjob => exact hnobody rfl (callIds_fulfil hs (mem_of_job? hjob).1 rfl)
    | saved lines filepath hjob =>
        exact hnobody rfl (callIds_fulfil (hs.congr rfl rfl rfl) (mem_of_job? hjob).1 rfl)
    | expired hjob =>
        exact hnobody rfl (callIds_fulfil (hs.congr rfl rfl rfl) (mem_of_job? hjob).1 rfl)
    | left => exact absurd ⟨_, rfl⟩ hleave
    | absent => exact absurd ⟨_, rfl⟩ hleave
    | stirred hstep hstirred =>
        refine hnobody ?_ (callIds_stirred hs hstirred)
        cases event with
        | arrive document options => cases hstep
        | _ => rfl
    | asked hstirred =>
        have hasked := callIds_stirred (hs.next studio) hstirred
        exact hnobody rfl hasked
    | held =>
        refine hnobody rfl ?_
        rw [hold_eq]
        exact .refl _
    | _ => exact hnobody rfl (.refl _)

/-- In a run, no number of a call is lost and none appears twice. -/
theorem callIds_run (hs : s.Numbered) (studio : Studio) (events : List Event) :
    ((s.run studio events).callIds ++ s.leavers studio events).Perm
      (s.callIds ++ s.comers studio events) := by
  induction events generalizing s with
  | nil => exact .refl _
  | cons event rest ih =>
      have hstep := callIds_step hs studio event
      have hnext : (s.step studio event).Numbered := hs.step event
      have hrest := ih hnext
      refine List.perm_iff_count.2 fun number => ?_
      have hfirst := hstep.count_eq number
      have hothers := hrest.count_eq number
      change List.count number (((s.step studio event).run studio rest).callIds ++ (_ ++ _)) =
        List.count number (_ ++ (_ ++ _))
      simp only [List.count_append] at hfirst hothers ⊢
      omega

theorem comers_append (studio : Studio) (s : State) (events more : List Event) :
    s.comers studio (events ++ more) =
      s.comers studio events ++ (s.run studio events).comers studio more := by
  induction events generalizing s with
  | nil => rfl
  | cons event rest ih =>
      rw [List.cons_append, comers, comers, ih, List.append_assoc]
      rfl

/-- Every call that arrives is given a number. -/
theorem length_comers (studio : Studio) (s : State) (events : List Event) :
    (s.comers studio events).length = (events.filterMap Event.request?).length := by
  induction events generalizing s with
  | nil => rfl
  | cons event rest ih =>
      rw [comers, List.length_append, ih, comes?, List.filterMap_cons]
      cases event.request? with
      | none => exact Nat.zero_add _
      | some request => exact Nat.add_comm 1 _

/-- Calls are given ever higher numbers. -/
theorem comers_increasing (hs : s.Numbered) (studio : Studio) (events : List Event) :
    (s.comers studio events).Pairwise (· < ·) ∧ ∀ id ∈ s.comers studio events, s.nextId ≤ id := by
  induction events generalizing s with
  | nil => exact ⟨.nil, fun _ hid => absurd hid List.not_mem_nil⟩
  | cons event rest ih =>
      have hnumbered : (s.step studio event).Numbered := hs.step event
      obtain ⟨hpairs, hlater⟩ := ih hnumbered
      have hnext : s.nextId ≤ (s.step studio event).nextId := nextId_le_run hs studio [event]
      rw [comers]
      cases event with
      | arrive document options =>
          rw [nextId_arrive] at hlater hnext
          exact ⟨List.pairwise_cons.2 ⟨hlater, hpairs⟩,
            List.forall_mem_cons.2 ⟨Nat.le_refl _, fun id hid => hnext.trans (hlater id hid)⟩⟩
      | _ => exact ⟨hpairs, fun id hid => hnext.trans (hlater id hid)⟩

/-- Calls come only where they arrive. -/
theorem comers_eq_nil (hnobody : ∀ event ∈ events, event.request? = none) (studio : Studio)
    (s : State) : s.comers studio events = [] := by
  induction events generalizing s with
  | nil => rfl
  | cons event rest ih =>
      have hfirst : s.comes? event = none := by
        rw [comes?, hnobody event List.mem_cons_self, Option.map_none]
      rw [comers, hfirst, ih fun other hother => hnobody other (List.mem_cons_of_mem _ hother)]
      rfl

/-- The calls of a batch are given one number after the other. -/
theorem comers_of_batchwork (hbatchwork : ∀ event ∈ events, event.isBatchwork = true)
    (studio : Studio) (s : State) :
    s.comers studio events = List.range' s.nextId (events.filterMap Event.request?).length := by
  induction events generalizing s with
  | nil => rfl
  | cons event rest ih =>
      have hnext := nextId_step (hbatchwork event List.mem_cons_self) studio s
      have hrest := ih (fun other hother => hbatchwork other (List.mem_cons_of_mem _ hother))
        (s.step studio event)
      rw [comers, hrest, hnext, comes?]
      cases hrequest : event.request? with
      | none => simp [hrequest]
      | some request => simp [hrequest, List.range'_succ]

/-- Nobody leaves in a run that is gentle. -/
theorem leavers_eq_nil (hgentle : ∀ event ∈ events, event.isGentle = true) (studio : Studio)
    (s : State) : s.leavers studio events = [] := by
  induction events generalizing s with
  | nil => rfl
  | cons event rest ih =>
      have hfirst : s.leaves? event = none := by
        have hmine := hgentle event List.mem_cons_self
        cases event with
        | leave id => cases hmine
        | _ => rfl
      rw [leavers, hfirst, ih fun other hother => hgentle other (List.mem_cons_of_mem _ hother)]
      rfl

end State

/-! ## Counters, cache and slots -/

/-- Every artifact in the cache has been made. -/
theorem Move.cached_le (h : Move studio s marks s') (hs : s.cached ≤ s.renders) :
    s'.cached ≤ s'.renders := by
  cases h with
  | @lookUp cache document options hcache =>
      have hfewer := cache.size_get_le s.now (cacheKey document options)
      simp only [State.cached, hcache, Option.map_some, Option.getD_some] at hs ⊢
      exact hfewer.trans hs
  | @deliver job known work conversion filepath =>
      change ((s.cache.map fun cache => cache.put s.now work.key
        (s.renderingOf job work conversion filepath)).map Cache.size).getD 0 ≤ s.renders + 1
      unfold State.cached at hs
      cases hcache : s.cache with
      | none => exact Nat.zero_le _
      | some cache =>
          have hmore := cache.size_put_le s.now work.key
            (s.renderingOf job work conversion filepath)
          simp only [hcache, Option.map_some, Option.getD_some] at hs ⊢
          omega
  | purge =>
      change ((s.cache.map fun cache => cache.purge s.now).map Cache.size).getD 0 ≤ s.renders
      unfold State.cached at hs
      cases hcache : s.cache with
      | none => exact Nat.zero_le _
      | some cache =>
          simp only [hcache, Option.map_some, Option.getD_some] at hs ⊢
          exact (cache.size_purge_le s.now).trans hs
  | clear =>
      change ((s.cache.map Cache.clear).map Cache.size).getD 0 ≤ s.renders
      unfold State.cached at hs
      cases hcache : s.cache with
      | none => exact Nat.zero_le _
      | some cache =>
          simp only [hcache, Option.map_some, Option.getD_some] at hs ⊢
          exact cache.size_clear_le.trans hs
  | _ => exact hs

/-- The accounts of a press are in order. -/
structure Accounted (settings : Settings) (s : State) : Prop where
  /-- No call is on record twice. -/
  once : (s.finished.map Finished.id).Nodup
  /-- Every call on record was refused or is counted. -/
  total : s.finished.length =
    s.tally .invalid + s.tally .turnedAway + s.renders + s.hits + s.failures
  made : s.renders = s.tally .made
  served : s.hits = s.tally .served
  failed : s.failures = s.tally .failed
  /-- Those are refused for their options whose options are invalid. -/
  refused : ∀ call ∈ s.finished,
    call.verdict = .invalid ↔ ∃ cause, call.options.validate = .error cause
  cached : s.cached ≤ s.renders
  uncached : settings.enableCaching = false → s.cached = 0
  /-- When no call is in progress nobody waits, and slots are held by others alone. -/
  rest : s.jobs = [] → s.governor.queued = 0 ∧ s.governor.active = s.outsiders.length

namespace State

/-- Without calls in progress every slot that is not free is held by somebody else. -/
theorem active_of_rest (hs : s.Sound studio) (hrest : s.jobs = []) :
    s.governor.active = s.outsiders.length := by
  have hqueue : s.governor.promised ++ s.governor.waiting = [] := by
    have hline : s.governor.queue = inLine none s.jobs := Seating.line hs.seated
    rw [hrest] at hline
    exact hline
  have hnobody : s.governor.promised = [] := (List.append_eq_nil_iff.1 hqueue).1
  have hslots := hs.books.slots
  rw [hnobody] at hslots
  simp only [outsiders, hrest, List.all_nil, List.filter_true, Governor.active]
  simp only [List.length_nil] at hslots
  omega

/-- Unless somebody takes a slot for himself, nobody outside the press comes to have one. -/
theorem heldApart_run {out : List Nat} (hs : s.Sound studio) (hout : s.HeldApart out)
    (hhold : .hold ∉ events) : (s.run studio events).HeldApart out := by
  induction events generalizing s with
  | nil => exact hout
  | cons event rest ih =>
      have hfirst : event ≠ .hold := fun heq => hhold (heq ▸ List.mem_cons_self)
      have hstep : (s.step studio event).HeldApart out := fun ticket hticket =>
        (hout ticket hticket).step hs.numbered hs.seated studio fun heq => absurd heq hfirst
      exact ih (hs.step event) hstep fun hmem => hhold (List.mem_cons_of_mem _ hmem)

theorem outsiders_eq_nil (hout : s.HeldApart []) : s.outsiders = [] := by
  refine List.filter_eq_nil_iff.2 fun ticket hticket hapart => ?_
  obtain ⟨job, hjob, rfl⟩ := hout ticket List.not_mem_nil hticket
  exact bne_iff_ne.1 (List.all_eq_true.1 hapart job hjob) rfl

theorem heldApart_fresh (settings : Settings) (slots : Nat) (limit : Option Nat) :
    (fresh settings (.ofCapacity slots limit)).HeldApart [] :=
  fun _ _ hheld => absurd hheld List.not_mem_nil

theorem accounted_run {around : Surroundings} {start : State}
    (hopen : openWith settings around = .ok (studio, start)) (events : List Event) :
    Accounted settings (start.run studio events) := by
  have hstart := sound_of_openWith hopen
  have hs := hstart.run events
  obtain ⟨rfl, governor, rfl⟩ := fresh_of_openWith hopen
  have hmoves := run_moves hstart.numbered studio events
  obtain ⟨ended, hbooks⟩ := Books.run hstart events
  let last := State.run studio (fresh studio.settings governor) events
  have hended : last.finished = ended := by
    rw [hbooks.finished, finished_fresh, List.append_nil]
  -- What the books count is what the classes count, call by call.
  have hmade : last.renders = last.tally .made := by
    rw [hbooks.renders, tally, hended, funext Finished.isMade_eq]
    exact Nat.zero_add _
  have hserved : last.hits = last.tally .served := by
    rw [hbooks.hits, tally, hended, funext Finished.isServed_eq]
    exact Nat.zero_add _
  have hfailed : last.failures = last.tally .failed := by
    rw [hbooks.failures, tally, hended, funext Finished.isFailed_eq]
    exact Nat.zero_add _
  refine
    { once := distinct_run hstart.numbered List.nodup_nil studio events
      total := ?_
      made := hmade
      served := hserved
      failed := hfailed
      refused := fun call hcall => ?_
      cached := hmoves.preserve Move.cached_le (Nat.le_of_eq ?_)
      uncached := fun hnocache => ?_
      rest := fun hrest => ⟨?_, active_of_rest hs hrest⟩ }
  · rw [hmade, hserved, hfailed]
    exact length_eq_sum_verdicts last.finished
  · have hreason := accountable_run hstart rfl events call hcall
    rw [Finished.verdict_eq_invalid_iff]
    exact exists_congr hreason.invalid
  · unfold fresh cached
    split_ifs <;> rfl
  · have huncached : (fresh studio.settings governor).cache = none := by simp [fresh, hnocache]
    rw [cached, hmoves.preserve Move.uncached huncached]
    rfl
  · rw [queued_eq hs, hrest]
    rfl

end State

/-! ## Demands of patient callers -/

/-- What may be demanded of a press. -/
inductive Demand where
  | render (document : Document) (options : RenderOptions) (patience : Option Nat)
  | renderBatch (documents : List Document) (batch : BatchOptions)
  | callEngine (request : Engine.Request)
  | sleep (nanos : Nat)
  | shutDown
  /-- Something that is done at once, such as clearing the cache. -/
  | happen (event : Event)

/-- The press when a demand has been met. -/
def State.meet (studio : Studio) (s : State) : Demand → State
  | .render document options patience => (s.render studio document options patience).2
  | .renderBatch documents batch => (s.renderBatch studio documents batch).2
  | .callEngine request => (s.callEngine studio request).2
  | .sleep nanos => s.sleep studio nanos
  | .shutDown => s.shutDown studio
  | .happen event => s.step studio event

/-- How many calls a demand brings. -/
def Demand.calls : Demand → Nat
  | .render _ _ _ => 1
  | .renderBatch documents _ => documents.length
  | _ => 0

/-- Whether a demand leaves no call behind: its caller is patient, and nothing is done by hand
but what concerns neither calls nor slots. -/
def Demand.isPatient : Demand → Bool
  | .render _ _ patience => patience.isNone
  | .happen event => event.isGentle && event.request?.isNone
  | _ => true

/-- One state leads to another by gentle events, in which calls with these numbers come. -/
def Gently (studio : Studio) (ids : List Nat) (s s' : State) : Prop :=
  ∃ events, s' = s.run studio events ∧ (∀ event ∈ events, event.isGentle = true) ∧
    s.comers studio events = ids

namespace Gently

variable {mid : State} {ids more : List Nat}

theorem refl (s : State) : Gently studio [] s s :=
  ⟨[], rfl, fun _ hevent => absurd hevent List.not_mem_nil, rfl⟩

theorem trans (first : Gently studio ids s mid) (second : Gently studio more mid s') :
    Gently studio (ids ++ more) s s' := by
  obtain ⟨before, rfl, hbefore, rfl⟩ := first
  obtain ⟨after, rfl, hafter, rfl⟩ := second
  refine ⟨before ++ after, (State.run_append before after).symm, fun event hevent => ?_,
    State.comers_append studio s before after⟩
  exact (List.mem_append.1 hevent).elim (hbefore event) (hafter event)

/-- Something happens in which nobody comes. -/
theorem quiet (first : Gently studio ids s mid) (second : Gently studio [] mid s') :
    Gently studio ids s s' := by
  have hall := first.trans second
  rwa [List.append_nil] at hall

theorem next (first : Gently studio ids s mid) (event : Event) (hgentle : event.isGentle = true)
    (hnobody : event.request? = none) : Gently studio ids s (mid.step studio event) :=
  first.quiet ⟨[event], rfl, List.forall_mem_singleton.2 hgentle,
    State.comers_eq_nil (List.forall_mem_singleton.2 hnobody) studio mid⟩

theorem time (first : Gently studio ids s mid) (time : Nat) :
    Gently studio ids s { mid with now := max mid.now time } := by
  have hnow : max mid.now time = mid.now + (time - mid.now) := by omega
  rw [hnow]
  exact first.next (.advance (time - mid.now)) rfl rfl

/-- The clock brings nobody. -/
theorem drive (first : Gently studio ids s mid) (goes : State → Bool) (limit : Option Nat)
    (fuel : Nat) : Gently studio ids s (mid.driveWhile studio goes limit fuel) := by
  have hclockwork : ∀ event ∈ mid.driveEvents studio goes limit fuel, event.isClockwork = true :=
    State.isClockwork_driveEvents goes limit fuel mid
  exact first.quiet ⟨_, State.driveWhile_eq_run goes limit fuel mid,
    fun event hevent => Event.isGentle_of_isClockwork (hclockwork event hevent),
    State.comers_eq_nil
      (fun event hevent => Event.request?_of_isClockwork (hclockwork event hevent)) studio mid⟩

theorem callEngine (first : Gently studio ids s mid) (request : Engine.Request) :
    Gently studio ids s (mid.callEngine studio request).2 :=
  (((first.drive _ none _).next (.askEngine request) rfl rfl).next (.advance moment) rfl rfl).drive
    _ none _

/-- If all calls that have come have their results, no call is in progress. -/
theorem jobs_eq_nil (h : Gently studio ids s s') (hs : s.Numbered) (hrest : s.jobs = [])
    (hall : ∀ id ∈ ids, (s'.result? id).isSome = true) : s'.jobs = [] := by
  obtain ⟨events, rfl, hgentle, rfl⟩ := h
  have hlast := hs.run studio events
  have hids := State.callIds_run hs studio events
  rw [State.leavers_eq_nil hgentle, List.append_nil] at hids
  refine List.eq_nil_iff_forall_not_mem.2 fun job hjob => ?_
  have hmem : job.id ∈ s.callIds ++ s.comers studio events :=
    hids.subset (List.mem_append_right _ (List.mem_map_of_mem hjob))
  rcases List.mem_append.1 hmem with hold | hnew
  · -- Whoever has ended before is not in progress.
    rw [State.callIds, hrest, List.map_nil, List.append_nil] at hold
    obtain ⟨call, hcall, hid⟩ := List.mem_map.1 hold
    have hkept : call ∈ (s.run studio events).finished := by
      rw [(State.run_moves hs studio events).finished]
      exact List.mem_append_right _ hcall
    exact hlast.apart job hjob call hkept hid
  · obtain ⟨outcome, hresult⟩ := Option.isSome_iff_exists.1 (hall _ hnew)
    obtain ⟨call, hcall, hid, -⟩ := State.mem_finished_of_result? hresult
    exact hlast.apart job hjob call hcall hid

end Gently

namespace State

/-- A patient demand is met when all its calls have their results. -/
theorem gently_meet (hs : s.Steady studio) (hroom : s.outsiders.length < s.governor.capacity)
    {demand : Demand} (hpatient : demand.isPatient = true) :
    ∃ ids, Gently studio ids s (s.meet studio demand) ∧ ids.length = demand.calls ∧
      ∀ id ∈ ids, ((s.meet studio demand).result? id).isSome = true := by
  have hnobody (h : Gently studio [] s (s.meet studio demand)) (hcalls : demand.calls = 0) :
      ∃ ids, Gently studio ids s (s.meet studio demand) ∧ ids.length = demand.calls ∧
        ∀ id ∈ ids, ((s.meet studio demand).result? id).isSome = true :=
    ⟨[], h, hcalls.symm, fun _ hid => absurd hid List.not_mem_nil⟩
  cases demand with
  | render document options patience =>
      cases patience with
      | some time => cases hpatient
      | none =>
          have harrives : Gently studio [s.nextId] s (s.step studio (.arrive document options)) :=
            ⟨[.arrive document options], rfl, List.forall_mem_singleton.2 rfl, rfl⟩
          exact ⟨[s.nextId], (harrives.next (.advance moment) rfl rfl).drive _ none _, rfl,
            List.forall_mem_singleton.2 (isSome_render hs hroom document options)⟩
  | renderBatch documents batch =>
      have hfor := isRunFor_batchEvents studio documents batch s
      have hresults := areResults_renderBatch hs hroom documents batch
      obtain ⟨lines, hlast⟩ := renderBatch_eq_run studio documents batch s
      have hids : s.comers studio (s.batchEvents studio documents batch) =
          List.range' s.nextId documents.length := by
        rw [comers_of_batchwork hfor.batchwork, hfor.requests, List.length_map]
      have hbatch : Gently studio (List.range' s.nextId documents.length) s
          (s.run studio (s.batchEvents studio documents batch)) :=
        ⟨_, rfl, fun event hevent => Event.isGentle_of_isBatchwork (hfor.batchwork event hevent),
          hids⟩
      refine ⟨List.range' s.nextId documents.length, ?_, List.length_range', fun id hid => ?_⟩
      · change Gently studio _ s (s.renderBatch studio documents batch).2
        rw [hlast]
        exact hbatch.next (.report lines) rfl rfl
      · obtain ⟨number, hnumber, rfl⟩ := List.mem_range'.1 hid
        obtain ⟨outcome, hresult, -⟩ := hresults.item number _ (List.getElem?_eq_getElem hnumber)
        change ((s.renderBatch studio documents batch).2.result? _).isSome = true
        rw [hlast, Nat.one_mul]
        exact Option.isSome_iff_exists.2 ⟨outcome, hresult⟩
  | callEngine request => exact hnobody ((Gently.refl s).callEngine request) rfl
  | sleep nanos => exact hnobody (((Gently.refl s).drive _ _ _).time _) rfl
  | shutDown =>
      exact hnobody (((Gently.refl s).next (.report _) rfl rfl).callEngine .shutDown) rfl
  | happen event =>
      obtain ⟨hgentle, hrequest⟩ := Bool.and_eq_true_iff.1 hpatient
      exact hnobody ((Gently.refl s).next event hgentle (Option.isNone_iff_eq_none.1 hrequest)) rfl

/-- A press at rest is at rest again when patient demands have been met. -/
theorem gently_meetAll (hs : s.Steady studio) (hout : s.HeldApart []) (hrest : s.jobs = [])
    {demands : List Demand} (hpatient : ∀ demand ∈ demands, demand.isPatient = true) :
    ∃ ids, Gently studio ids s (demands.foldl (State.meet studio) s) ∧
      ids.length = (demands.map Demand.calls).sum ∧
      (demands.foldl (State.meet studio) s).jobs = [] := by
  induction demands generalizing s with
  | nil => exact ⟨[], .refl s, rfl, hrest⟩
  | cons demand rest ih =>
      have hroom : s.outsiders.length < s.governor.capacity := by
        rw [outsiders_eq_nil hout]
        exact hs.sound.roomy
      obtain ⟨ids, hfirst, hcount, hall⟩ := gently_meet hs hroom (hpatient _ List.mem_cons_self)
      have hdone := hfirst.jobs_eq_nil hs.sound.numbered hrest hall
      have ⟨events, hevents, hgentle, _⟩ := hfirst
      have hmet : (s.meet studio demand).Steady studio := hevents ▸ hs.run events
      have hapart : (s.meet studio demand).HeldApart [] := by
        rw [hevents]
        exact (keeps_run hs.sound hgentle).apart [] hout
      obtain ⟨others, hothers, hmore, hlast⟩ := ih hmet hapart hdone fun other hother =>
        hpatient other (List.mem_cons_of_mem _ hother)
      refine ⟨ids ++ others, hfirst.trans hothers, ?_, hlast⟩
      rw [List.length_append, hcount, hmore, List.map_cons, List.sum_cons]

end State

/-! ## The theorem -/

/-- The accounts of a renderer.  For every opened press:

* After every run, whatever its events are, each call on record was either refused for its
  options, or turned away because of the queue, or is counted exactly once among the renderings
  made, the calls served from the cache and the failures.  A call is refused for its options
  if and only if they are invalid.  The cache holds at most as many artifacts as have been
  made, and none when caching is off.  The calls that have arrived, each with a number of its
  own, are those on record, those in progress and those that their callers left, and each is
  one of these.  If no call is in progress and nobody took a slot for himself, no slot is held
  and nobody waits.
* After patient demands one after another, be they renderings, batches or whatever else, no
  call is in progress, there is one record for each document that was to be rendered, and no
  slot is held and nobody waits. -/
theorem every_call_is_counted_once {around : Surroundings} {start : State}
    (hopen : openWith settings around = .ok (studio, start)) :
    (∀ events,
      let last := start.run studio events
      let came := start.comers studio events
      Accounted settings last ∧
        (came.Nodup ∧ came.length = (events.filterMap Event.request?).length ∧
          (last.callIds ++ start.leavers studio events).Perm came) ∧
        (.hold ∉ events → last.jobs = [] →
          last.governor.active = 0 ∧ last.governor.queued = 0)) ∧
      ∀ demands : List Demand, (∀ demand ∈ demands, demand.isPatient = true) →
        let last := demands.foldl (State.meet studio) start
        Accounted settings last ∧ last.jobs = [] ∧
          last.finished.length = (demands.map Demand.calls).sum ∧
          last.governor.active = 0 ∧ last.governor.queued = 0 := by
  have hsteady := State.steady_of_openWith hopen
  have hstart := hsteady.sound
  obtain ⟨-, governor, hfresh, made⟩ := State.governor_of_openWith hopen
  have hout : start.HeldApart [] := by
    rw [hfresh, governor_eq_of_make made]
    exact State.heldApart_fresh _ _ _
  have hnobody : start.jobs = [] := by rw [hfresh]; rfl
  have hnone : start.callIds = [] := by rw [hfresh]; rfl
  have hidle {last : State} (haccounts : Accounted settings last) (hapart : last.HeldApart [])
      (hrest : last.jobs = []) : last.governor.active = 0 ∧ last.governor.queued = 0 := by
    obtain ⟨hqueued, hactive⟩ := haccounts.rest hrest
    rw [State.outsiders_eq_nil hapart] at hactive
    exact ⟨hactive, hqueued⟩
  refine ⟨fun events => ?_, fun demands hpatient => ?_⟩
  · intro last came
    have haccounts := State.accounted_run hopen events
    have hids := State.callIds_run hstart.numbered studio events
    rw [hnone, List.nil_append] at hids
    refine ⟨haccounts, ⟨?_, State.length_comers studio start events, hids⟩, fun hhold hrest => ?_⟩
    · exact (State.comers_increasing hstart.numbered studio events).1.imp Nat.ne_of_lt
    · exact hidle haccounts (State.heldApart_run hstart hout hhold) hrest
  · intro last
    obtain ⟨ids, ⟨events, hevents, hgentle, hcame⟩, hcount, hrest⟩ :=
      State.gently_meetAll hsteady hout hnobody hpatient
    have hlast : last = start.run studio events := hevents
    have haccounts : Accounted settings last := hlast ▸ State.accounted_run hopen events
    have hapart : last.HeldApart [] := hlast ▸ (State.keeps_run hstart hgentle).apart [] hout
    have hids := State.callIds_run hstart.numbered studio events
    rw [hnone, State.leavers_eq_nil hgentle, List.append_nil, List.nil_append, hcame, ← hlast]
      at hids
    have hlength := hids.length_eq
    rw [State.callIds, hrest, List.map_nil, List.append_nil, List.length_map] at hlength
    exact ⟨haccounts, hrest, hlength.trans hcount, hidle haccounts hapart hrest⟩

/-- Two renderings of which one is refused for its options, and a batch of two: all four are
on record, and the press is idle again. -/
theorem every_call_is_counted_once_of_mixed_demands :
    let document := Document.ofKind .businessModel
    let options := RenderOptions.ofSettings {}
    let flat := { options with width := 0 }
    let around : Surroundings := ⟨.obliging, .missing, none, ⟨0, 0⟩⟩
    let demands : List Demand := [.render document options none, .render document flat none,
      .renderBatch [document, document] ⟨2, options⟩]
    ∃ (studio : Studio) (start : State), openWith {} around = .ok (studio, start) ∧
      ((start.run studio [.arrive document flat]).tally .invalid = 1 ∧
        (start.run studio [.arrive document flat]).governor.active = 0) ∧
      let last := demands.foldl (State.meet studio) start
      last.finished.length = 4 ∧ last.governor.active = 0 ∧ last.governor.queued = 0 ∧
        4 = last.tally .invalid + last.tally .turnedAway + last.renders + last.hits +
          last.failures := by
  intro document options flat around demands
  refine ⟨_, _, rfl, ?_⟩
  obtain ⟨hruns, hdemands⟩ :=
    every_call_is_counted_once (show openWith {} around = .ok _ from rfl)
  obtain ⟨-, -, hidle⟩ := hruns [.arrive document flat]
  have hpatient : ∀ demand ∈ demands, demand.isPatient = true := by
    simp [demands, Demand.isPatient]
  obtain ⟨haccounts, -, hcount, hactive, hqueued⟩ := hdemands demands hpatient
  refine ⟨⟨rfl, (hidle (by simp) rfl).1⟩, ?_⟩
  intro last
  have hfour : last.finished.length = 4 := hcount
  exact ⟨hfour, hactive, hqueued, hfour.symm.trans haccounts.total⟩

end Press

end CanvasPress

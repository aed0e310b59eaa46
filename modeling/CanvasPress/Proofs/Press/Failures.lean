/-
# Calls that fail

A call that ends with an error leaves nothing behind but its record, and one more failure
in the count if it had its slot.  Whatever else has changed by then is accounted for by
the other calls that have ended, and the cache has lost nothing that was fresh.

Calls overlap, so what a call has left behind is told apart from what others have done by
its number and its ticket, which nobody else is given.
-/

import CanvasPress.Proofs.Press.Accounts
import CanvasPress.Proofs.Press.Runs

namespace CanvasPress.Press

variable {studio : Studio} {s s' : State} {marks : List Mark} {id ticket : Nat} {call : Finished}

/-! ## Records -/

theorem Move.ended_cases (h : Move studio s marks s') :
    marks.filterMap Mark.call? = [] ∨ ∃ call, marks.filterMap Mark.call? = [call] := by
  cases h with
  | reject => exact .inr ⟨_, rfl⟩
  | hit => exact .inr ⟨_, rfl⟩
  | deliver => exact .inr ⟨_, rfl⟩
  | fail => exact .inr ⟨_, rfl⟩
  | expire => exact .inr ⟨_, rfl⟩
  | _ => exact .inl rfl

/-- No call is recorded twice. -/
theorem Move.distinct (h : Move studio s marks s') (hs : s.Numbered)
    (hdistinct : (s.finished.map Finished.id).Nodup) : (s'.finished.map Finished.id).Nodup := by
  rw [h.finished]
  rcases h.ended_cases with hnone | ⟨call, hone⟩
  · rw [hnone]
    exact hdistinct
  · rw [hone]
    refine List.nodup_cons.2 ⟨fun hmem => ?_, hdistinct⟩
    obtain ⟨old, hold, hsame⟩ := List.mem_map.1 hmem
    exact h.ended_apart hs (hone ▸ List.mem_singleton_self call) old hold hsame

theorem State.distinct_run (hs : s.Numbered) (hdistinct : (s.finished.map Finished.id).Nodup)
    (studio : Studio) (events : List Event) :
    ((s.run studio events).finished.map Finished.id).Nodup := by
  have hkept {mid last : State} {marks : List Mark} (hmove : Move studio mid marks last)
      (h : mid.Numbered ∧ (mid.finished.map Finished.id).Nodup) :
      last.Numbered ∧ (last.finished.map Finished.id).Nodup :=
    ⟨hmove.numbered h.1, hmove.distinct h.1 h.2⟩
  have hall := (State.run_moves hs studio events).preserve hkept ⟨hs, hdistinct⟩
  exact hall.2

theorem Finished.isRefused_iff {fault : Fault} (houtcome : call.outcome = .error fault) :
    call.isRefused = true ↔ (∃ cause, fault = .config cause) ∨
      ∃ waiting limit, fault = .queueFull waiting limit := by
  unfold Finished.isRefused
  rw [houtcome]
  cases fault <;> simp

/-- The calls other than the one with a number that have ended on the way from one state to
another. -/
def State.othersSince (s s' : State) (id : Nat) : List Finished :=
  (s.endedSince s').filter fun call => call.id != id

theorem Books.mem_of_later {settings : Settings} {spoils : Entry Rendering → Prop}
    {ended : List Finished} (hbooks : Books settings spoils s s' ended) (hs : s.Numbered)
    (hcall : call ∈ s'.finished) (hlater : s.nextId ≤ call.id) : call ∈ ended := by
  rw [hbooks.finished] at hcall
  refine (List.mem_append.1 hcall).resolve_right fun hold => ?_
  exact Nat.not_lt.2 hlater (hs.finished call hold)

/-- The books tell one of the calls that have ended from the others. -/
theorem Books.others {settings : Settings} {spoils : Entry Rendering → Prop}
    {ended : List Finished} (hbooks : Books settings spoils s s' ended)
    (hdistinct : (s'.finished.map Finished.id).Nodup) (hcall : call ∈ ended) :
    (∀ counts : Finished → Bool, ended.countP counts =
        (s.othersSince s' call.id).countP counts + if counts call then 1 else 0) ∧
      ∀ other ∈ ended, other ≠ call → other ∈ s.othersSince s' call.id := by
  have hended : s.endedSince s' = ended.reverse := by simp [State.endedSince, hbooks.finished]
  rw [hbooks.finished, List.map_append] at hdistinct
  have hnodup := (List.nodup_append.1 hdistinct).1
  rw [State.othersSince, hended, List.filter_reverse]
  constructor
  · intro counts
    obtain ⟨before, after, rfl⟩ := List.append_of_mem hcall
    rw [List.map_append, List.map_cons, List.nodup_middle, List.nodup_cons, ← List.map_append]
      at hnodup
    have hothers : (before ++ after).filter (fun other => other.id != call.id) =
        before ++ after := by
      refine List.filter_eq_self.2 fun other hother => bne_iff_ne.2 fun hsame => ?_
      exact hnodup.1 (hsame ▸ List.mem_map_of_mem hother)
    rw [List.filter_append] at hothers
    rw [List.countP_reverse, List.filter_append, List.filter_cons]
    simp only [bne_self_eq_false, Bool.false_eq_true, if_false]
    rw [hothers, List.countP_append, List.countP_append, List.countP_cons]
    omega
  · intro other hother hne
    refine List.mem_reverse.2 (List.mem_filter.2 ⟨hother, bne_iff_ne.2 fun hsame => hne ?_⟩)
    exact List.inj_on_of_nodup_map hnodup hother hcall hsame

/-! ## Slots -/

namespace State

/-- A ticket was given to the call with a number. -/
structure Assigned (s : State) (ticket id : Nat) : Prop where
  issued : ticket < s.governor.nextTicket
  owned : s.Owned ticket
  mine : ∀ job ∈ s.jobs, job.ticket = ticket → job.id = id

namespace Assigned

theorem step (hs : s.Sound studio) (h : s.Assigned ticket id) (event : Event) :
    (s.step studio event).Assigned ticket id where
  issued := by
    obtain ⟨steps, hsteps⟩ := governor_step studio s event
    rw [hsteps]
    exact Nat.lt_of_lt_of_le h.issued (Governor.nextTicket_le_run _ _)
  owned := h.owned.step hs.numbered hs.seated studio fun _ => Nat.ne_of_lt h.issued
  mine later hlater hticket := by
    rcases mem_jobs_step studio hlater with ⟨job, hjob, hsame⟩ | ⟨document, options, -, -, hsame⟩
    · exact hsame.id.trans (h.mine job hjob (hsame.ticket.symm.trans hticket))
    · exact absurd (hticket.symm.trans hsame.ticket) (Nat.ne_of_lt h.issued)

theorem run (hs : s.Sound studio) (h : s.Assigned ticket id) (events : List Event) :
    (s.run studio events).Assigned ticket id := by
  induction events generalizing s with
  | nil => exact h
  | cons event rest ih => exact ih (hs.step event) (h.step hs event)

/-- When its call is over, nobody has a slot under a ticket or waits for one. -/
theorem gone (hs : s.Sound studio) (h : s.Assigned ticket id)
    (hgone : ∀ job ∈ s.jobs, job.id ≠ id) :
    ticket ∉ s.governor.held ∧ ticket ∉ s.governor.queue := by
  refine ⟨fun hheld => ?_, fun hwaits => ?_⟩
  · obtain ⟨job, hjob, hticket⟩ := h.owned hheld
    exact hgone job hjob (h.mine job hjob hticket)
  · rw [Seating.line hs.seated] at hwaits
    obtain ⟨job, hjob, hticket⟩ := List.mem_map.1 hwaits
    have hmem := (List.mem_filter.1 hjob).1
    exact hgone job hmem (h.mine job hmem hticket)

end Assigned

theorem nextTicket_lt_arrive {document : Document} {options : RenderOptions}
    (hvalid : options.validate = .ok ()) :
    s.governor.nextTicket < (s.step studio (.arrive document options)).governor.nextTicket := by
  have hacquired : s.governor.nextTicket < s.governor.acquire.2.nextTicket := by
    rw [Governor.nextTicket_acquire]
    exact Nat.lt_succ_self _
  have hhappens := happens_step studio s (.arrive document options)
  generalize s.step studio (.arrive document options) = s' at hhappens ⊢
  cases hhappens with
  | idle hidle hlooks => exact absurd rfl (hlooks document options)
  | invalid hinvalid =>
      rw [hvalid] at hinvalid
      cases hinvalid
  | refused => exact hacquired
  | queued => exact hacquired
  | admitted hvalid hgranted hstarted =>
      obtain ⟨steps, hsteps⟩ := governor_started hstarted
      rw [hsteps]
      exact Nat.lt_of_lt_of_le hacquired (Governor.nextTicket_le_run _ steps)
  | stirred hstep => cases hstep

theorem assigned_of_arrive (hs : s.Sound studio) {document : Document} {options : RenderOptions}
    (hvalid : options.validate = .ok ()) :
    (s.step studio (.arrive document options)).Assigned s.governor.nextTicket s.nextId where
  issued := nextTicket_lt_arrive hvalid
  owned := by
    refine Owned.step hs.numbered hs.seated (fun hheld => ?_) studio fun hhold => by cases hhold
    exact absurd hheld hs.books.nextTicket_not_mem.2
  mine later hlater hticket := by
    rcases mem_jobs_step studio hlater with ⟨job, hjob, hsame⟩ | ⟨_, _, -, -, hsame⟩
    · have hissued := Seating.issued hs.seated job hjob
      rw [← hsame.ticket, hticket] at hissued
      exact absurd hissued (Nat.lt_irrefl _)
    · exact hsame.id

/-- Those counted as waiting are the calls that wait. -/
theorem queued_eq (hs : s.Sound studio) :
    s.governor.queued = (s.jobs.filter Job.isQueued).length := by
  have hline : inLine none s.jobs = (s.jobs.filter Job.isQueued).map Job.ticket := by
    refine congrArg (List.map Job.ticket) (List.filter_congr fun job _ => ?_)
    cases job.isQueued <;> rfl
  rw [hs.books.counted, Seating.line hs.seated, hline, List.length_map]
  rfl

theorem slotted_of_openWith {settings : Settings} {around : Surroundings} {start : State}
    (hopen : openWith settings around = .ok (studio, start)) :
    start.Slotted [] ∧ start.finished = [] := by
  obtain ⟨rfl, governor, rfl, -⟩ := governor_of_openWith hopen
  exact ⟨.fresh _ _, rfl⟩

/-- A rendering is a run that begins with the arrival of its call, and its result is the
result of that call. -/
theorem run_of_render (hs : s.Numbered) {document : Document} {options : RenderOptions}
    {patience : Option Nat} {outcome : Except Fault Rendering}
    (hreturns : (s.render studio document options patience).1 = some outcome) :
    ∃ later, (s.render studio document options patience).2 =
        s.run studio (.arrive document options :: later) ∧
      (s.render studio document options patience).2.result? s.nextId = some outcome := by
  obtain ⟨last, ⟨events, hevents⟩, hresult, more, hmore⟩ :=
    reaches_render studio s document options patience
  refine ⟨events ++ more, ?_, ?_⟩
  · rw [hmore, hevents, ← run_append]
    rfl
  · have hlast : last.Numbered := hevents ▸ (hs.step _).run studio events
    rw [hmore]
    exact (run_moves hlast studio more).result? hlast (hresult.symm.trans hreturns)

end State

/-! ## The theorem -/

/-- A call that fails leaves no trace but its record and its count.  For every run of an
opened press and every call that arrives then, whatever happens later:

* A call whose options are invalid is recorded, and that is all that changes.
* When a call has failed, be it that it was refused, that its conversion failed or whoever
  painted or printed for it died, or that it ran out of time, it is not in progress any
  more, no slot is held or set aside under its ticket, and those counted as waiting are the
  other calls that wait.
* The counters have grown by what the other calls amount to that have ended meanwhile, and
  the failures by one more if and only if the call had got its slot, which it had unless
  it was refused.
* Whatever is new in the cache was left there by another call, and nothing is lost but what
  another call has replaced, what was cleared, and what is stale and was swept or met by
  a call for the same request; the cache is in order.

A rendering that returns an error is such a run. -/
theorem failed_call_leaves_no_trace {settings : Settings} {around : Surroundings}
    {start : State} (hopen : openWith settings around = .ok (studio, start))
    (before : List Event) (document : Document) (options : RenderOptions) :
    let s := start.run studio before
    let id := s.nextId
    let ticket := s.governor.nextTicket
    (∀ cause, options.validate = .error cause →
        s.step studio (.arrive document options) = { s with
          nextId := id + 1
          finished := ⟨id, document, options, s.now, .error (.config cause)⟩ :: s.finished }) ∧
      (∀ patience fault,
        (s.render studio document options patience).1 = some (.error fault) →
          ∃ later, (s.render studio document options patience).2 =
              s.run studio (.arrive document options :: later) ∧
            (s.render studio document options patience).2.result? id = some (.error fault)) ∧
      ∀ later fault,
        let events := .arrive document options :: later
        let last := s.run studio events
        let others := s.othersSince last id
        let begun := (s.begun studio events).map Job.id
        last.result? id = some (.error fault) →
          ((∀ job ∈ last.jobs, job.id ≠ id) ∧
            (options.validate = .ok () →
              ticket ∉ last.governor.held ∧ ticket ∉ last.governor.queue) ∧
            last.governor.queued = (last.jobs.filter Job.isQueued).length) ∧
          (last.renders = s.renders + others.countP Finished.isMade ∧
            last.hits = s.hits + others.countP Finished.isServed ∧
            last.failures =
              s.failures + others.countP Finished.isFailed + (if id ∈ begun then 1 else 0) ∧
            (id ∉ begun ↔ (∃ cause, fault = .config cause) ∨
              ∃ waiting limit, fault = .queueFull waiting limit)) ∧
          ((∀ entry ∈ last.entries, entry ∈ s.entries ∨
              ∃ call ∈ others, call.entry? = some entry) ∧
            (∀ entry ∈ s.entries, entry ∈ last.entries ∨
              (∃ call ∈ others, ∃ newer, call.entry? = some newer ∧ newer.key = entry.key) ∨
                s.SpoilsIn studio events entry) ∧
            ∀ cache, last.cache = some cache → cache.wedged = false) := by
  intro s id ticket
  obtain ⟨hstart, hnobody⟩ := State.slotted_of_openWith hopen
  have hopened := State.sound_of_openWith hopen
  have hs : s.Sound studio := hopened.run before
  refine ⟨fun cause hinvalid => ?_, fun patience fault hreturns =>
    State.run_of_render hs.numbered hreturns, ?_⟩
  · simp only [State.step, State.arrive, hinvalid]
    rfl
  intro later fault events last others begun hresult
  have hlast : last.Sound studio := hs.run events
  obtain ⟨ended, hbooks⟩ := Books.run hs events
  -- The call is one of those that have ended since, and it has left nothing in the cache.
  obtain ⟨call, hcall, hid, houtcome⟩ := State.mem_finished_of_result? hresult
  have hmine : call ∈ ended := hbooks.mem_of_later hs.numbered hcall (Nat.le_of_eq hid.symm)
  have hdistinct : (last.finished.map Finished.id).Nodup :=
    State.distinct_run hs.numbered (State.distinct_run hopened.numbered
      (by rw [hnobody]; exact List.nodup_nil) studio before) studio events
  obtain ⟨hcount, hother⟩ := hbooks.others hdistinct hmine
  rw [hid] at hcount hother
  have hothers {other : Finished} {entry : Entry Rendering} (hended : other ∈ ended)
      (hentry : other.entry? = some entry) : other ∈ others := by
    refine hother other hended fun hsame => ?_
    rw [hsame, Finished.entry?, houtcome] at hentry
    cases hentry
  have hslotted : call.isRefused = false ↔ id ∈ begun :=
    hid ▸ (hstart.run hopened before).of_later hs hcall (Nat.le_of_eq hid.symm)
  have hgone : ∀ job ∈ last.jobs, job.id ≠ id := fun job hjob hsame =>
    hlast.numbered.apart job hjob call hcall (hid.trans hsame.symm)
  refine ⟨⟨hgone, fun hvalid => ?_, ?_⟩, ⟨?_, ?_, ?_, ?_⟩, ?_, ?_, ?_⟩
  · exact ((State.assigned_of_arrive hs hvalid).run (hs.step _) later).gone hlast hgone
  · exact State.queued_eq hlast
  · have hmade : call.isMade = false := by simp [Finished.isMade, houtcome]
    rw [hbooks.renders, hcount, hmade]
    rfl
  · have hserved : call.isServed = false := by simp [Finished.isServed, houtcome]
    rw [hbooks.hits, hcount, hserved]
    rfl
  · have hfailed : (call.isFailed = true) = (id ∈ begun) := by
      simp [Finished.isFailed, houtcome, Except.isOk, Except.toBool, hslotted]
    rw [hbooks.failures, hcount, ← Nat.add_assoc]
    simp only [hfailed]
    rfl
  · rw [← hslotted, Bool.not_eq_false]
    exact Finished.isRefused_iff houtcome
  · intro entry hentry
    refine (hbooks.stored entry hentry).imp_right fun hstored => ?_
    obtain ⟨other, hended, hstores⟩ := hstored
    exact ⟨other, hothers hended hstores, hstores⟩
  · intro entry hentry
    refine (hbooks.kept entry hentry).imp_right (.imp_left fun hnewer => ?_)
    obtain ⟨other, hended, newer, hstores, hkey⟩ := hnewer
    exact ⟨other, hothers hended hstores, newer, hstores, hkey⟩
  · exact fun cache hcache => (hlast.stocked cache hcache).intact

/-- A picture that is not ready in time, and one at which its painter dies: one failure is
counted, and the slot is free again. -/
theorem failed_call_leaves_no_trace_of_lost_picture :
    let settings : Settings := { renderTimeoutMs := some 5 }
    let document := Document.ofKind .businessModel
    let options := RenderOptions.ofSettings settings
    let report : Report := ⟨7, some "out of ink"⟩
    let painter := { Picture.Painter.sound with crash? := fun _ => some report }
    let around : Surroundings := ⟨⟨.obliging, fun _ => painter⟩, .missing, none, ⟨0, 0⟩⟩
    ∃ (studio : Studio) (start : State), openWith settings around = .ok (studio, start) ∧
      ∀ event fault, (event = .expire 0 ∧ fault = .timeout 5 ∨
          event = .proceed 0 ∧ fault = .conversion .raster (abortReport "raster" report)) →
        let last := start.run studio [.arrive document options, event]
        last.result? 0 = some (.error fault) ∧ 0 ∉ last.governor.held ∧
          last.governor.queued = 0 ∧ last.renders = 0 ∧ last.hits = 0 ∧ last.failures = 1 := by
  intro settings document options report painter around
  refine ⟨_, _, rfl, fun event fault hends => ?_⟩
  obtain ⟨-, -, hruns⟩ := failed_call_leaves_no_trace
    (show openWith settings around = .ok _ from rfl) [] document options
  rcases hends with ⟨rfl, rfl⟩ | ⟨rfl, rfl⟩
  · obtain ⟨⟨-, hslot, hqueued⟩, ⟨hrenders, hhits, hfailures, -⟩, -⟩ :=
      hruns [.expire 0] (.timeout 5) rfl
    exact ⟨rfl, (hslot rfl).1, hqueued, hrenders, hhits, hfailures⟩
  · obtain ⟨⟨-, hslot, hqueued⟩, ⟨hrenders, hhits, hfailures, -⟩, -⟩ :=
      hruns [.proceed 0] (.conversion .raster (abortReport "raster" report)) rfl
    exact ⟨rfl, (hslot rfl).1, hqueued, hrenders, hhits, hfailures⟩

end CanvasPress.Press

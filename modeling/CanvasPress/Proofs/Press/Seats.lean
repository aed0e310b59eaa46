/-
# Who has a slot

Every call that works or waits for a slot has a ticket of the governor, and the governor
and the press agree on who waits: the governor's queue lists the tickets of the waiting
calls in order of arrival.  A call that has just got its slot is for a moment still
listed among those who wait; `aside` names it.

Slots are also taken and given back apart from the calls of the press.  Tickets that
nobody in the press has are outsiders, and calls bring in none.
-/

import CanvasPress.Press.Open
import CanvasPress.Proofs.Cache.Key
import CanvasPress.Proofs.Governor.Order
import CanvasPress.Proofs.Press.Turns

namespace CanvasPress

namespace Governor

variable {g : Governor} {ticket : Nat}

/-! ## The governor's answers -/

theorem acquire_of_granted (hgranted : g.acquire.1 = .granted) :
    0 < g.free ∧ g.acquire.2.queue = g.queue ∧ g.acquire.2.held = g.nextTicket :: g.held := by
  by_cases hfree : 0 < g.free
  · rw [acquire_of_free hfree]
    exact ⟨hfree, rfl, rfl⟩
  · cases hlimit : g.limitReached? g.queued with
    | some limit => simp [acquire_of_limitReached hfree hlimit] at hgranted
    | none => simp [acquire_of_room hfree hlimit] at hgranted

theorem acquire_of_queued (hqueued : g.acquire.1 = .queued) :
    g.acquire.2.queue = g.queue ++ [g.nextTicket] ∧ g.acquire.2.held = g.held := by
  by_cases hfree : 0 < g.free
  · simp [acquire_of_free hfree] at hqueued
  · cases hlimit : g.limitReached? g.queued with
    | some limit => simp [acquire_of_limitReached hfree hlimit] at hqueued
    | none =>
        rw [acquire_of_room hfree hlimit]
        exact ⟨(List.append_assoc _ _ _).symm, rfl⟩

theorem acquire_of_refused {waiting limit : Nat}
    (hrefused : g.acquire.1 = .refused waiting limit) :
    g.limit = some limit ∧ limit ≤ waiting ∧ g.acquire.2.queue = g.queue ∧
      g.acquire.2.held = g.held := by
  by_cases hfree : 0 < g.free
  · simp [acquire_of_free hfree] at hrefused
  · cases hlimit : g.limitReached? g.queued with
    | some reached =>
        rw [acquire_of_limitReached hfree hlimit] at hrefused ⊢
        cases hrefused
        obtain ⟨hsome, hfull⟩ := Option.filter_eq_some_iff.1 hlimit
        exact ⟨hsome, by simpa using hfull, rfl, rfl⟩
    | none => simp [acquire_of_room hfree hlimit] at hrefused

/-- Whoever leaves the queue is struck from it. -/
theorem queue_cancel (g : Governor) (t : Nat) : (g.cancel t).queue = g.queue.erase t := by
  unfold Governor.cancel
  split_ifs with hpromised hwaiting
  · rw [queue_countOut, queue_returnSlot]
    exact (List.erase_append_left _ hpromised).symm
  · exact (List.erase_append_right _ hpromised).symm
  · refine (List.erase_of_not_mem fun hmem => ?_).symm
    exact (mem_queue.1 hmem).elim hpromised hwaiting

/-- Whoever takes his slot is struck from the queue. -/
theorem queue_poll (hpromised : ticket ∈ g.promised) :
    (g.poll ticket).queue = g.queue.erase ticket := by
  rw [Governor.poll, if_pos hpromised]
  exact (List.erase_append_left _ hpromised).symm

theorem held_poll (hpromised : ticket ∈ g.promised) :
    (g.poll ticket).held = ticket :: g.held := by
  rw [Governor.poll, if_pos hpromised]
  rfl

@[simp]
theorem nextTicket_release (g : Governor) (t : Nat) : (g.release t).nextTicket = g.nextTicket := by
  unfold Governor.release
  split_ifs <;> simp

@[simp]
theorem nextTicket_cancel (g : Governor) (t : Nat) : (g.cancel t).nextTicket = g.nextTicket := by
  unfold Governor.cancel
  split_ifs <;> simp [countOut]

@[simp]
theorem nextTicket_poll (g : Governor) (t : Nat) : (g.poll t).nextTicket = g.nextTicket := by
  unfold Governor.poll
  split_ifs <;> rfl

end Governor

namespace Press

variable {studio : Studio} {s s' : State} {job known : Job} {fate : Fate} {phase : Phase}
  {g : Governor} {jobs before after : List Job} {aside : Option Nat} {event : Event}
  {engine : Engine} {out : List Nat} {id ticket : Nat}

/-- Whether a call waits for a slot. -/
def Job.isQueued (job : Job) : Bool :=
  match job.phase with
  | .queued => true
  | _ => false

theorem Job.isQueued_iff : job.isQueued = true ↔ job.phase = .queued := by
  unfold Job.isQueued
  cases job.phase <;> simp

/-- The tickets of the calls that wait for a slot, but for the one set aside. -/
def inLine (aside : Option Nat) (jobs : List Job) : List Nat :=
  (jobs.filter fun j => j.isQueued && some j.id != aside).map Job.ticket

@[simp]
theorem inLine_append (aside : Option Nat) (jobs more : List Job) :
    inLine aside (jobs ++ more) = inLine aside jobs ++ inLine aside more := by
  rw [inLine, List.filter_append, List.map_append]
  rfl

/-- To set somebody aside who is not there changes nothing. -/
theorem inLine_aside (hapart : ∀ j ∈ jobs, j.id ≠ id) :
    inLine (some id) jobs = inLine none jobs := by
  refine congrArg (List.map Job.ticket) (List.filter_congr fun j hj => ?_)
  have hother : (some j.id != some id) = true := by simpa using hapart j hj
  rw [hother]
  rfl

theorem inLine_of_isQueued (hqueued : job.isQueued = true) : inLine none [job] = [job.ticket] := by
  simp [inLine, hqueued]

theorem inLine_of_not_isQueued (hqueued : job.isQueued = false) : inLine none [job] = [] := by
  simp [inLine, hqueued]

theorem inLine_self (job : Job) : inLine (some job.id) [job] = [] := by
  simp [inLine]

theorem inLine_cons (aside : Option Nat) (job : Job) (jobs : List Job) :
    inLine aside (job :: jobs) = inLine aside [job] ++ inLine aside jobs := by
  rw [← inLine_append, List.singleton_append]

theorem mem_inLine_of_isQueued (hjob : job ∈ jobs) (hqueued : job.isQueued = true) :
    job.ticket ∈ inLine none jobs :=
  List.mem_map_of_mem (List.mem_filter.2 ⟨hjob, by simp [hqueued]⟩)

/-- A call in progress stands somewhere among the others. -/
theorem State.Numbered.split (hs : s.Numbered) (hknown : known ∈ s.jobs) :
    ∃ before after, s.jobs = before ++ known :: after ∧
      ∀ j ∈ before ++ after, j.id ≠ known.id := by
  obtain ⟨before, after, hjobs⟩ := List.append_of_mem hknown
  refine ⟨before, after, hjobs, fun j hj hid => ?_⟩
  have hdistinct := hs.distinct
  rw [hjobs, List.map_append, List.map_cons, List.nodup_middle, List.nodup_cons,
    ← List.map_append] at hdistinct
  exact hdistinct.1 (hid ▸ List.mem_map_of_mem hj)

/-- The calls among which one waits on in a new phase. -/
theorem State.jobs_wait_of_split (hjobs : s.jobs = before ++ known :: after)
    (hapart : ∀ j ∈ before ++ after, j.id ≠ known.id) (hid : known.id = job.id) (phase : Phase) :
    (s.wait job phase).jobs = before ++ { job with phase := phase } :: after := by
  have hothers {part : List Job} (hpart : ∀ j ∈ part, j.id ≠ known.id) :
      part.map (fun j => if j.id = job.id then { job with phase := phase } else j) = part := by
    refine (List.map_congr_left fun j hj => ?_).trans (List.map_id part)
    rw [if_neg (hid ▸ hpart j hj)]
    rfl
  simp only [State.wait, hjobs, List.map_append, List.map_cons, hid, if_true]
  rw [hothers fun j hj => hapart j (List.mem_append_left _ hj),
    hothers fun j hj => hapart j (List.mem_append_right _ hj)]

theorem State.othersThan_of_split (hjobs : s.jobs = before ++ known :: after)
    (hapart : ∀ j ∈ before ++ after, j.id ≠ known.id) :
    s.othersThan known.id = before ++ after := by
  have hothers {part : List Job} (hpart : ∀ j ∈ part, j.id ≠ known.id) :
      part.filter (fun j => j.id != known.id) = part :=
    List.filter_eq_self.2 fun j hj => by simpa using hpart j hj
  rw [State.othersThan, hjobs, List.filter_append, List.filter_cons]
  simp only [bne_self_eq_false, Bool.false_eq_true, if_false]
  rw [hothers fun j hj => hapart j (List.mem_append_left _ hj),
    hothers fun j hj => hapart j (List.mem_append_right _ hj)]

/-! ## The seating -/

/-- The governor knows the calls in progress, of which one may be set aside. -/
structure Seating (aside : Option Nat) (g : Governor) (jobs : List Job) : Prop where
  books : g.Balanced 0 0
  line : g.queue = inLine aside jobs
  issued : ∀ job ∈ jobs, job.ticket < g.nextTicket
  tickets : (jobs.map Job.ticket).Nodup

theorem governor_eq_of_make {slots : Nat} {limit : Option Nat}
    (made : Governor.make slots limit = .ok g) : g = .ofCapacity slots limit := by
  unfold Governor.make at made
  split at made
  · cases made
  · exact (Except.ok.inj made).symm

/-- Nobody waits at a press that has just been opened. -/
theorem seating_make {slots : Nat} {limit : Option Nat}
    (made : Governor.make slots limit = .ok g) : Seating none g [] := by
  rw [governor_eq_of_make made]
  exact ⟨Governor.balanced_ofCapacity slots limit, rfl, fun _ hjob => absurd hjob List.not_mem_nil,
    List.nodup_nil⟩

/-- What happens to the governor apart from the calls of the press. -/
theorem Seating.govern {g' : Governor} (h : Seating aside g jobs) (books : g'.Balanced 0 0)
    (hqueue : g'.queue = g.queue) (hnext : g.nextTicket ≤ g'.nextTicket) :
    Seating aside g' jobs :=
  ⟨books, hqueue.trans h.line, fun job hjob => Nat.lt_of_lt_of_le (h.issued job hjob) hnext,
    h.tickets⟩

/-- The next caller joins the calls. -/
theorem Seating.tickets_enter (h : Seating aside g jobs) (hticket : job.ticket = g.nextTicket) :
    ((jobs ++ [job]).map Job.ticket).Nodup ∧
      ∀ j ∈ jobs ++ [job], j.ticket < g.acquire.2.nextTicket := by
  rw [Governor.nextTicket_acquire]
  constructor
  · have hnew : job.ticket ∉ jobs.map Job.ticket := by
      intro hmem
      obtain ⟨other, hother, heq⟩ := List.mem_map.1 hmem
      have hless := h.issued other hother
      omega
    rw [List.map_append]
    exact List.nodup_append_comm.1 (List.nodup_cons.2 ⟨hnew, h.tickets⟩)
  · intro j hj
    rcases List.mem_append.1 hj with hj | hj
    · exact Nat.lt_succ_of_lt (h.issued j hj)
    · rw [List.mem_singleton.1 hj, hticket]
      exact Nat.lt_succ_self _

theorem Seating.join (h : Seating none g jobs) (hqueued : g.acquire.1 = .queued)
    (hticket : job.ticket = g.nextTicket) (hphase : job.phase = .queued) :
    Seating none g.acquire.2 (jobs ++ [job]) := by
  obtain ⟨htickets, hissued⟩ := h.tickets_enter hticket
  refine ⟨h.books.acquire, ?_, hissued, htickets⟩
  rw [(Governor.acquire_of_queued hqueued).1, inLine_append, ← h.line,
    inLine_of_isQueued (Job.isQueued_iff.2 hphase), hticket]

theorem Seating.letIn (h : Seating none g jobs) (hgranted : g.acquire.1 = .granted)
    (hticket : job.ticket = g.nextTicket) (hnew : ∀ j ∈ jobs, j.id ≠ job.id) :
    Seating (some job.id) g.acquire.2 (jobs ++ [job]) := by
  obtain ⟨htickets, hissued⟩ := h.tickets_enter hticket
  refine ⟨h.books.acquire, ?_, hissued, htickets⟩
  rw [(Governor.acquire_of_granted hgranted).2.1, inLine_append, inLine_aside hnew, inLine_self,
    List.append_nil, h.line]

section Split

variable (hapart : ∀ j ∈ before ++ after, j.id ≠ known.id)

include hapart

/-- The line without a call that is listed. -/
theorem inLine_split :
    inLine (some known.id) (before ++ known :: after) = inLine none (before ++ after) := by
  rw [inLine_append, inLine_cons, inLine_self, List.nil_append, ← inLine_append,
    inLine_aside hapart]

/-- A call that waits is called up. -/
theorem Seating.call (h : Seating none g (before ++ known :: after))
    (hphase : known.phase = .queued) (hpromised : known.ticket ∈ g.promised) :
    Seating (some known.id) (g.poll known.ticket) (before ++ known :: after) := by
  refine ⟨h.books.poll known.ticket, ?_, fun job hjob => ?_, h.tickets⟩
  · have hfront : known.ticket ∉ inLine none before := by
      intro hmem
      have hline : (inLine none (before ++ known :: after)).Nodup := h.line ▸ h.books.nodup_queue
      rw [inLine_append, inLine_cons, inLine_of_isQueued (Job.isQueued_iff.2 hphase)] at hline
      exact (List.nodup_append.1 hline).2.2 _ hmem _ List.mem_cons_self rfl
    rw [inLine_split hapart, Governor.queue_poll hpromised, h.line, inLine_append, inLine_cons,
      inLine_of_isQueued (Job.isQueued_iff.2 hphase), List.erase_append_right _ hfront,
      List.singleton_append, List.erase_cons_head, inLine_append]
  · rw [Governor.nextTicket_poll]
    exact h.issued job hjob

/-- A call that works may be set aside. -/
theorem Seating.setAside (h : Seating none g (before ++ known :: after))
    (hphase : known.phase ≠ .queued) : Seating (some known.id) g (before ++ known :: after) := by
  have hqueued : known.isQueued = false := by
    rw [← Bool.not_eq_true, Job.isQueued_iff]
    exact hphase
  refine ⟨h.books, ?_, h.issued, h.tickets⟩
  rw [h.line, inLine_split hapart, inLine_append, inLine_cons, inLine_of_not_isQueued hqueued,
    List.nil_append, inLine_append]

/-- A call that has been set aside waits for something else. -/
theorem Seating.wait (h : Seating (some known.id) g (before ++ known :: after))
    (hticket : known.ticket = job.ticket) (hphase : phase ≠ .queued) :
    Seating none g (before ++ { job with phase := phase } :: after) := by
  have htickets : (before ++ { job with phase := phase } :: after).map Job.ticket =
      (before ++ known :: after).map Job.ticket := by
    simp [hticket]
  have hqueued : ({ job with phase := phase } : Job).isQueued = false := by
    rw [← Bool.not_eq_true, Job.isQueued_iff]
    exact hphase
  refine ⟨h.books, ?_, fun other hother => ?_, htickets ▸ h.tickets⟩
  · rw [h.line, inLine_split hapart, inLine_append, inLine_append, inLine_cons,
      inLine_of_not_isQueued hqueued, List.nil_append]
  · have hmem : other.ticket ∈ (before ++ known :: after).map Job.ticket :=
      htickets ▸ List.mem_map_of_mem hother
    obtain ⟨old, hold, heq⟩ := List.mem_map.1 hmem
    exact heq ▸ h.issued old hold

/-- A call that has been set aside gives its slot back. -/
theorem Seating.release (h : Seating (some known.id) g (before ++ known :: after)) :
    Seating none (g.release known.ticket) (before ++ after) := by
  have hsub : (before ++ after).Sublist (before ++ known :: after) :=
    (List.sublist_cons_self _ _).append_left _
  refine ⟨h.books.release _, ?_, fun other hother => ?_, h.tickets.sublist (hsub.map _)⟩
  · rw [Governor.queue_release, h.line, inLine_split hapart]
  · rw [Governor.nextTicket_release]
    exact h.issued other (hsub.subset hother)

end Split

/-- A caller gives up. -/
theorem Seating.leave (h : Seating none g (before ++ known :: after)) :
    Seating none ((g.release known.ticket).cancel known.ticket) (before ++ after) := by
  have hsub : (before ++ after).Sublist (before ++ known :: after) :=
    (List.sublist_cons_self _ _).append_left _
  refine ⟨(h.books.release _).cancel _, ?_, fun other hother => ?_, h.tickets.sublist (hsub.map _)⟩
  · rw [Governor.queue_cancel, Governor.queue_release, h.line, inLine_append, inLine_cons,
      inLine_append]
    have hapartTickets : known.ticket ∉ inLine none before ∧ known.ticket ∉ inLine none after := by
      have htickets := h.tickets
      rw [List.map_append, List.map_cons, List.nodup_middle, List.nodup_cons, List.mem_append,
        not_or] at htickets
      have hwithin {part : List Job} : inLine none part ⊆ part.map Job.ticket :=
        (List.filter_sublist.map _).subset
      exact ⟨fun hmem => htickets.1.1 (hwithin hmem), fun hmem => htickets.1.2 (hwithin hmem)⟩
    rw [List.erase_append_right _ hapartTickets.1]
    by_cases hqueued : known.isQueued = true
    · rw [inLine_of_isQueued hqueued, List.singleton_append, List.erase_cons_head]
    · rw [inLine_of_not_isQueued (by simpa using hqueued), List.nil_append,
        List.erase_of_not_mem hapartTickets.2]
  · rw [Governor.nextTicket_cancel, Governor.nextTicket_release]
    exact h.issued other (hsub.subset hother)


namespace State

/-- The calls in progress are seated. -/
def Seated (s : State) : Prop :=
  Seating none s.governor s.jobs

/-- A call has its turn and leaves everybody seated. -/
theorem Seated.fulfil (hs : s.Numbered) (h : Seating (some job.id) s.governor s.jobs)
    (hknown : known ∈ s.jobs) (hid : known.id = job.id) (hticket : known.ticket = job.ticket)
    (hfate : fate ≠ .waits .queued) : (s.fulfil job fate).Seated := by
  obtain ⟨before, after, hjobs, hapart⟩ := hs.split hknown
  rw [hjobs, ← hid] at h
  rcases fate.waits_or_ends s job with ⟨phase, rfl⟩ | ⟨outcome, houtcome⟩
  · have hphase : phase ≠ .queued := fun heq => hfate (heq ▸ rfl)
    change Seating none s.governor (s.wait job phase).jobs
    rw [jobs_wait_of_split hjobs hapart hid]
    exact h.wait hapart hticket hphase
  · have hends := releases_fulfil houtcome
    rw [Seated, hends.governor, hends.jobs, ← hid, othersThan_of_split hjobs hapart, ← hticket]
    exact h.release hapart

/-- A call that works may have its turn at any time. -/
theorem Seated.proceed (hs : s.Numbered) (h : s.Seated) (hjob : s.job? job.id = some job)
    (hphase : job.phase ≠ .queued) (hfate : fate ≠ .waits .queued) :
    (s.fulfil job fate).Seated := by
  have hmem := (mem_of_job? hjob).1
  obtain ⟨before, after, hjobs, hapart⟩ := hs.split hmem
  refine Seated.fulfil hs ?_ hmem rfl rfl hfate
  rw [Seated, hjobs] at h
  rw [hjobs]
  exact h.setAside hapart hphase

theorem Seated.stirred (hs : s.Numbered) (h : s.Seated) (hstirred : s.Stirred studio engine s') :
    s'.Seated := by
  cases hstirred with
  | unheard lines => exact h
  | heard lines hjob hphase hreplies hgrounds hconverted =>
      refine Seated.proceed (hs.congr rfl rfl rfl) h hjob ?_ (fateOf_ne_queued _ _ _ _)
      rw [hphase]
      exact fun heq => by cases heq

theorem Seated.started (hstarted : s.Started studio job s') (hs : s.Numbered)
    (hknows : s.Knows job known) (hticket : known.ticket = job.ticket)
    (h : Seating (some job.id) s.governor s.jobs) : s'.Seated := by
  obtain ⟨hmem, hid⟩ := mem_of_job? hknows.listed
  cases hstarted with
  | opens lines hfate =>
      exact Seated.fulfil (hs.congr rfl rfl rfl) h hmem hid hticket hfate.ne_queued
  | asks lines hformat hstirred =>
      have hsearched : (s.searched job lines).Numbered := hs.congr rfl rfl rfl
      have hwaits : ((s.searched job lines).fulfil job
          (.waits (.paginating (s.workFor studio job)))).Seated :=
        Seated.fulfil hsearched h hmem hid hticket fun heq => by cases heq
      exact hwaits.stirred (hsearched.wait (hknows.congr rfl) _) hstirred

/-- A new call has a number that nobody has. -/
theorem HasNumbers.apart_caller (hnumbers : s.HasNumbers) (document : Document)
    (options : RenderOptions) : ∀ j ∈ s.jobs, j.id ≠ (s.caller document options).id :=
  fun j hj => Nat.ne_of_lt (hnumbers j hj)

theorem Numbered.entered (hs : s.Numbered) (studio : Studio) (document : Document)
    (options : RenderOptions) : (s.entered document options).Numbered := by
  have hgoverned : ({ s with governor := s.governor.acquire.2 } : State).Numbered :=
    hs.congr rfl rfl rfl
  have hmove : Move studio { s with governor := s.governor.acquire.2 } []
      (s.entered document options) := .enter s.governor.nextTicket document options
  exact hmove.numbered hgoverned

/-- A number may be given to somebody else. -/
theorem Numbered.next (hs : s.Numbered) (studio : Studio) :
    ({ s with nextId := s.nextId + 1 } : State).Numbered := by
  have hmove : Move studio s [] { s with nextId := s.nextId + 1 } := .number
  exact hmove.numbered hs

/-- A call that has entered is known. -/
theorem knows_caller (hnumbers : s.HasNumbers) (studio : Studio) (document : Document)
    (options : RenderOptions) :
    (s.entered document options).Knows (s.timed studio (s.caller document options))
      (s.caller document options) :=
  ⟨@job?_enter s (s.caller document options) hnumbers rfl, rfl, rfl⟩

/-- A slot is taken, or not, apart from the calls of the press. -/
theorem Seated.hold (h : s.Seated) : s.hold.2.Seated := by
  have hnext : s.governor.nextTicket ≤ s.governor.acquire.2.nextTicket :=
    s.governor.nextTicket_le_apply .acquire
  have hbooks := (Seating.books h).acquire
  unfold State.hold
  dsimp only
  split
  next hqueued =>
    refine Seating.govern h (hbooks.cancel _) ?_ (by rwa [Governor.nextTicket_cancel])
    rw [Governor.queue_cancel, (Governor.acquire_of_queued hqueued).1,
      List.erase_append_right _ (Seating.books h).nextTicket_not_mem.1, List.erase_cons_head,
      List.append_nil]
  next hnot =>
    refine Seating.govern h hbooks ?_ hnext
    cases hgrant : s.governor.acquire.1 with
    | granted => exact (Governor.acquire_of_granted hgrant).2.1
    | queued => exact absurd hgrant hnot
    | refused waiting limit => exact (Governor.acquire_of_refused hgrant).2.2.1

/-- Every event leaves everybody seated. -/
theorem Seated.step (hs : s.Numbered) (h : s.Seated) (studio : Studio) (event : Event) :
    (s.step studio event).Seated := by
  have hhappens := happens_step studio s event
  generalize s.step studio event = s' at hhappens ⊢
  cases hhappens with
  | refused hvalid hrefused =>
      obtain ⟨-, -, hqueue, -⟩ := Governor.acquire_of_refused hrefused
      exact Seating.govern h (Seating.books h).acquire hqueue
        (s.governor.nextTicket_le_apply .acquire)
  | queued lines hvalid hqueued => exact Seating.join h hqueued rfl rfl
  | @admitted document options _ hvalid hgranted hstarted =>
      exact Seated.started hstarted (hs.entered studio document options)
        (knows_caller hs.jobs studio document options) rfl
        (Seating.letIn h hgranted rfl (hs.jobs.apart_caller document options))
  | @called job _ hjob hphase hpromised hstarted =>
      obtain ⟨before, after, hjobs, hapart⟩ := hs.split (mem_of_job? hjob).1
      have hpolled : ({ s with governor := s.governor.poll job.ticket } : State).Numbered :=
        hs.congr rfl rfl rfl
      refine Seated.started hstarted hpolled ⟨hjob, rfl, rfl⟩ rfl ?_
      rw [Seated, hjobs] at h
      change Seating _ (s.governor.poll _) s.jobs
      rw [hjobs]
      exact h.call hapart hphase hpromised
  | rasterized hjob hphase =>
      refine Seated.proceed hs h hjob ?_ (fateOf_ne_queued _ _ _ _)
      rw [hphase]
      exact fun heq => by cases heq
  | saved lines filepath hjob hphase =>
      refine Seated.proceed (hs.congr rfl rfl rfl) h hjob ?_ fun heq => by cases heq
      rw [hphase]
      exact fun heq => by cases heq
  | expired hjob hlimit hphase =>
      exact Seated.proceed (hs.congr rfl rfl rfl) h hjob hphase fun heq => by cases heq
  | left hjob =>
      obtain ⟨before, after, hjobs, hapart⟩ := hs.split (mem_of_job? hjob).1
      rw [Seated, hjobs] at h
      change Seating none _ (s.othersThan _)
      rw [othersThan_of_split hjobs hapart]
      exact Seating.leave h
  | stirred hstep hstirred => exact h.stirred hs hstirred
  | asked hstirred =>
      exact Seated.stirred (hs.next studio) h hstirred
  | held => exact h.hold
  | unheld ticket =>
      exact Seating.govern h (h.books.release ticket) (Governor.queue_release _ _)
        (Nat.le_of_eq (Governor.nextTicket_release _ _).symm)
  | _ => exact h

theorem Seated.run (hs : s.Numbered) (h : s.Seated) (studio : Studio) (events : List Event) :
    (s.run studio events).Seated := by
  induction events generalizing s with
  | nil => exact h
  | cons event rest ih => exact ih (hs.step event) (h.step hs studio event)

/-! ## Slots of nobody in the press -/

/-- Nobody has a slot under a ticket but a call in progress. -/
def Owned (ticket : Nat) (s : State) : Prop :=
  ticket ∈ s.governor.held → ∃ job ∈ s.jobs, job.ticket = ticket

theorem Owned.fulfil (hs : s.Numbered) (hbooks : s.governor.Balanced 0 0) (h : s.Owned ticket)
    (hknown : known ∈ s.jobs) (hid : known.id = job.id) (hticket : known.ticket = job.ticket) :
    (s.fulfil job fate).Owned ticket := by
  obtain ⟨before, after, hjobs, hapart⟩ := hs.split hknown
  rcases fate.waits_or_ends s job with ⟨phase, rfl⟩ | ⟨outcome, houtcome⟩
  · intro hheld
    obtain ⟨owner, howner, rfl⟩ := h hheld
    change ∃ j ∈ (s.wait job phase).jobs, j.ticket = owner.ticket
    rw [jobs_wait_of_split hjobs hapart hid]
    rw [hjobs] at howner
    rcases List.mem_append.1 howner with hmem | hmem
    · exact ⟨owner, List.mem_append_left _ hmem, rfl⟩
    · rcases List.mem_cons.1 hmem with rfl | hmem
      · exact ⟨_, List.mem_append_right _ List.mem_cons_self, hticket.symm⟩
      · exact ⟨owner, List.mem_append_right _ (List.mem_cons_of_mem _ hmem), rfl⟩
  · have hends := releases_fulfil houtcome
    intro hheld
    rw [hends.governor, Governor.held_release, hbooks.nodup_held.mem_erase_iff] at hheld
    obtain ⟨owner, howner, rfl⟩ := h hheld.2
    refine ⟨owner, ?_, rfl⟩
    rw [hends.jobs, mem_othersThan]
    refine ⟨howner, fun hsame => hheld.1 ?_⟩
    have hmine : owner = known := List.inj_on_of_nodup_map hs.distinct howner hknown
      (hsame.trans hid.symm)
    rw [hmine, hticket]

theorem Owned.stirred (hstirred : s.Stirred studio engine s') (hs : s.Numbered)
    (hbooks : s.governor.Balanced 0 0) (h : s.Owned ticket) : s'.Owned ticket := by
  cases hstirred with
  | unheard lines => exact h
  | heard lines hjob hphase hreplies hgrounds hconverted =>
      exact Owned.fulfil (hs.congr rfl rfl rfl) hbooks h (mem_of_job? hjob).1 rfl rfl

theorem Owned.started (hstarted : s.Started studio job s') (hs : s.Numbered)
    (hbooks : s.governor.Balanced 0 0) (hknows : s.Knows job known)
    (hticket : known.ticket = job.ticket) (h : s.Owned ticket) : s'.Owned ticket := by
  obtain ⟨hmem, hid⟩ := mem_of_job? hknows.listed
  cases hstarted with
  | opens lines hfate => exact Owned.fulfil (hs.congr rfl rfl rfl) hbooks h hmem hid hticket
  | asks lines hformat hstirred =>
      have hsearched : (s.searched job lines).Numbered := hs.congr rfl rfl rfl
      have howned : ((s.searched job lines).fulfil job
          (.waits (.paginating (s.workFor studio job)))).Owned ticket :=
        Owned.fulfil hsearched hbooks h hmem hid hticket
      exact howned.stirred hstirred (hsearched.wait (hknows.congr rfl) _) hbooks

theorem mem_held_hold (hheld : ticket ∈ s.hold.2.governor.held) :
    ticket ∈ s.governor.held ∨ ticket = s.governor.nextTicket := by
  have hacquired : ticket ∈ s.governor.acquire.2.held := by
    unfold State.hold at hheld
    dsimp only at hheld
    split at hheld
    next =>
      change ticket ∈ (s.governor.acquire.2.cancel s.governor.nextTicket).held at hheld
      rwa [Governor.held_cancel] at hheld
    next => exact hheld
  cases hgrant : s.governor.acquire.1 with
  | granted =>
      rw [(Governor.acquire_of_granted hgrant).2.2] at hacquired
      exact (List.mem_cons.1 hacquired).symm
  | queued =>
      rw [(Governor.acquire_of_queued hgrant).2] at hacquired
      exact .inl hacquired
  | refused waiting limit =>
      rw [(Governor.acquire_of_refused hgrant).2.2.2] at hacquired
      exact .inl hacquired

/-- No event gives somebody outside the press a slot under a ticket, unless he takes the
next one. -/
theorem Owned.step (hs : s.Numbered) (hseated : s.Seated) (h : s.Owned ticket) (studio : Studio)
    (hhold : event = .hold → ticket ≠ s.governor.nextTicket) :
    (s.step studio event).Owned ticket := by
  have hbooks : s.governor.Balanced 0 0 := Seating.books hseated
  have hhappens := happens_step studio s event
  generalize s.step studio event = s' at hhappens ⊢
  cases hhappens with
  | refused hvalid hrefused =>
      intro hheld
      change ticket ∈ s.governor.acquire.2.held at hheld
      rw [(Governor.acquire_of_refused hrefused).2.2.2] at hheld
      exact h hheld
  | @queued document options lines hvalid hqueued =>
      intro hheld
      change ticket ∈ s.governor.acquire.2.held at hheld
      rw [(Governor.acquire_of_queued hqueued).2] at hheld
      obtain ⟨owner, howner, hsame⟩ := h hheld
      exact ⟨owner, List.mem_append_left _ howner, hsame⟩
  | @admitted document options _ hvalid hgranted hstarted =>
      refine Owned.started hstarted (hs.entered studio document options) hbooks.acquire
        (knows_caller hs.jobs studio document options) rfl fun hheld => ?_
      change ticket ∈ s.governor.acquire.2.held at hheld
      rw [(Governor.acquire_of_granted hgranted).2.2] at hheld
      rcases List.mem_cons.1 hheld with rfl | hheld
      · exact ⟨_, List.mem_append_right _ List.mem_cons_self, rfl⟩
      · obtain ⟨owner, howner, hsame⟩ := h hheld
        exact ⟨owner, List.mem_append_left _ howner, hsame⟩
  | @called job _ hjob hphase hpromised hstarted =>
      have hpolled : ({ s with governor := s.governor.poll job.ticket } : State).Numbered :=
        hs.congr rfl rfl rfl
      refine Owned.started hstarted hpolled (hbooks.poll _) ⟨hjob, rfl, rfl⟩ rfl fun hheld => ?_
      change ticket ∈ (s.governor.poll job.ticket).held at hheld
      rw [Governor.held_poll hpromised] at hheld
      rcases List.mem_cons.1 hheld with rfl | hheld
      · exact ⟨job, (mem_of_job? hjob).1, rfl⟩
      · exact h hheld
  | rasterized hjob hphase => exact Owned.fulfil hs hbooks h (mem_of_job? hjob).1 rfl rfl
  | saved lines filepath hjob hphase =>
      exact Owned.fulfil (hs.congr rfl rfl rfl) hbooks h (mem_of_job? hjob).1 rfl rfl
  | expired hjob hlimit hphase =>
      exact Owned.fulfil (hs.congr rfl rfl rfl) hbooks h (mem_of_job? hjob).1 rfl rfl
  | @left job hjob =>
      intro hheld
      change ticket ∈ ((s.governor.release job.ticket).cancel job.ticket).held at hheld
      rw [Governor.held_cancel, Governor.held_release, hbooks.nodup_held.mem_erase_iff] at hheld
      obtain ⟨owner, howner, rfl⟩ := h hheld.2
      refine ⟨owner, mem_othersThan.2 ⟨howner, fun hsame => hheld.1 ?_⟩, rfl⟩
      rw [List.inj_on_of_nodup_map hs.distinct howner (mem_of_job? hjob).1 hsame]
  | stirred hstep hstirred => exact Owned.stirred hstirred hs hbooks h
  | asked hstirred => exact Owned.stirred hstirred (hs.next studio) hbooks h
  | held =>
      intro hheld
      rw [jobs_hold]
      refine h ?_
      rcases mem_held_hold hheld with hheld | hnext
      · exact hheld
      · exact absurd hnext (hhold rfl)
  | unheld other =>
      intro hheld
      refine h ?_
      change ticket ∈ (s.governor.release other).held at hheld
      rw [Governor.held_release] at hheld
      exact List.mem_of_mem_erase hheld
  | _ => exact h

/-! ## What holds of every press -/

/-- A turn is a run of the governor. -/
theorem governor_fulfil (s : State) (job : Job) (fate : Fate) :
    ∃ steps, (s.fulfil job fate).governor = s.governor.run steps := by
  rcases fate.waits_or_ends s job with ⟨phase, rfl⟩ | ⟨outcome, houtcome⟩
  · exact ⟨[], rfl⟩
  · exact ⟨[.release job.ticket], (releases_fulfil houtcome).governor⟩

theorem governor_stirred (hstirred : s.Stirred studio engine s') :
    ∃ steps, s'.governor = s.governor.run steps := by
  cases hstirred with
  | unheard lines => exact ⟨[], rfl⟩
  | heard lines => exact governor_fulfil _ _ _

theorem governor_started (hstarted : s.Started studio job s') :
    ∃ steps, s'.governor = s.governor.run steps := by
  cases hstarted with
  | opens lines hfate => exact governor_fulfil _ _ _
  | asks lines hformat hstirred =>
      obtain ⟨steps, hsteps⟩ := governor_stirred hstirred
      exact ⟨steps, hsteps⟩

/-- Whatever happens to a press is a run of its governor. -/
theorem governor_step (studio : Studio) (s : State) (event : Event) :
    ∃ steps, (s.step studio event).governor = s.governor.run steps := by
  have hhappens := happens_step studio s event
  generalize s.step studio event = s' at hhappens ⊢
  cases hhappens with
  | refused => exact ⟨[.acquire], rfl⟩
  | queued => exact ⟨[.acquire], rfl⟩
  | admitted hvalid hgranted hstarted =>
      obtain ⟨steps, hsteps⟩ := governor_started hstarted
      exact ⟨.acquire :: steps, hsteps⟩
  | @called job _ hjob hphase hpromised hstarted =>
      obtain ⟨steps, hsteps⟩ := governor_started hstarted
      exact ⟨.poll job.ticket :: steps, hsteps⟩
  | rasterized => exact governor_fulfil _ _ _
  | saved => exact governor_fulfil _ _ _
  | expired => exact governor_fulfil _ _ _
  | @left job => exact ⟨[.release job.ticket, .cancel job.ticket], rfl⟩
  | stirred hstep hstirred => exact governor_stirred hstirred
  | asked hstirred =>
      obtain ⟨steps, hsteps⟩ := governor_stirred hstirred
      exact ⟨steps, hsteps⟩
  | held =>
      unfold State.hold
      dsimp only
      split
      · exact ⟨[.acquire, .cancel s.governor.nextTicket], rfl⟩
      · exact ⟨[.acquire], rfl⟩
  | unheld ticket => exact ⟨[.release ticket], rfl⟩
  | _ => exact ⟨[], rfl⟩

/-- What holds of a press after every run. -/
structure Sound (studio : Studio) (s : State) : Prop where
  numbered : s.Numbered
  fitting : s.Fitting
  seated : s.Seated
  /-- Calls in progress have options that can produce output. -/
  valid : ∀ job ∈ s.jobs, job.options.validate = .ok ()
  limit : s.governor.limit = studio.settings.maxQueueDepth
  roomy : 0 < s.governor.capacity
  stocked : ∀ cache, s.cache = some cache →
    cache.Stocked (millis studio.settings.cacheExpiryMs)

end State

/-- A move keeps the cache stocked. -/
theorem Move.stocked {marks : List Mark} {expiry : Nat} (h : Move studio s marks s')
    (hs : ∀ cache, s.cache = some cache → cache.Stocked expiry) :
    ∀ cache, s'.cache = some cache → cache.Stocked expiry := by
  have hmap {f : Cache Rendering → Cache Rendering} (hcache : s'.cache = s.cache.map f)
      (hkept : ∀ cache : Cache Rendering, cache.Stocked expiry → (f cache).Stocked expiry) :
      ∀ cache, s'.cache = some cache → cache.Stocked expiry := by
    intro cache hsome
    rw [hcache] at hsome
    obtain ⟨old, hold, rfl⟩ := Option.map_eq_some_iff.1 hsome
    exact hkept old (hs old hold)
  cases h with
  | lookUp document options hcache =>
      intro cache hsome
      cases hsome
      exact (hs _ hcache).get _ (isSome_shortKey?_cacheKey document options)
  | deliver filepath hknows hconverts =>
      exact hmap (State.cache_finish _ _ _) fun _ hold => hold.put _ _ _
  | purge => exact hmap rfl fun _ hold => hold.purge _
  | clear => exact hmap rfl fun _ hold => hold.clear
  | hit hknows hphase hcache hhit =>
      rw [State.cache_finish]
      exact hs
  | fail hknows hconverts =>
      rw [State.cache_finish]
      exact hs
  | expire ms hknows hphase =>
      rw [State.cache_finish]
      exact hs
  | _ => exact hs

namespace State

/-- A press is opened fresh, with a governor made by its settings. -/
theorem governor_of_openWith {settings : Settings} {around : Surroundings}
    (hopen : openWith settings around = .ok (studio, s)) :
    studio.settings = settings ∧ ∃ governor, s = .fresh settings governor ∧
      Governor.make settings.maxConcurrentRenders settings.maxQueueDepth = .ok governor := by
  unfold openWith at hopen
  split at hopen
  next => cases hopen
  next =>
    split at hopen
    next => cases hopen
    next =>
      split at hopen
      next => cases hopen
      next governor made =>
        cases hopen
        exact ⟨rfl, governor, rfl, made⟩

/-- A press that has been opened is sound. -/
theorem sound_of_openWith {settings : Settings} {around : Surroundings}
    (hopen : openWith settings around = .ok (studio, s)) : s.Sound studio := by
  obtain ⟨rfl, governor, rfl, made⟩ := governor_of_openWith hopen
  have hstart := governor_eq_of_make made
  refine ⟨numbered_fresh _ _, fitting_fresh _ _, seating_make made,
    fun _ hjob => absurd hjob List.not_mem_nil, ?_, ?_, fun cache hcache => ?_⟩
  · rw [hstart]
    rfl
  · rw [hstart]
    exact Nat.lt_of_lt_of_le Nat.zero_lt_one (Nat.le_max_right _ _)
  · unfold fresh at hcache
    dsimp only at hcache
    split_ifs at hcache
    cases hcache
    exact Cache.stocked_empty _

namespace Sound

variable (hs : s.Sound studio)

include hs

theorem books : s.governor.Balanced 0 0 :=
  Seating.books hs.seated

theorem step (event : Event) : (s.step studio event).Sound studio := by
  obtain ⟨steps, hsteps⟩ := governor_step studio s event
  have hterms := Governor.capacity_run s.governor steps
  rw [← hsteps] at hterms
  refine ⟨hs.numbered.step event,
    (step_moves hs.numbered.jobs event).preserve Move.fitting hs.fitting,
    hs.seated.step hs.numbered studio event, fun later hlater => ?_, hterms.2.trans hs.limit,
    hterms.1 ▸ hs.roomy, (step_moves hs.numbered.jobs event).preserve Move.stocked hs.stocked⟩
  rcases mem_jobs_step studio hlater with ⟨job, hjob, hsame⟩ | ⟨document, options, -, hvalid, hsame⟩
  · rw [hsame.options]
    exact hs.valid job hjob
  · rw [hsame.options]
    exact hvalid

theorem run (events : List Event) : (s.run studio events).Sound studio := by
  induction events generalizing s with
  | nil => exact hs
  | cons event rest ih => exact ih (hs.step event)

end Sound

end State

end Press

end CanvasPress

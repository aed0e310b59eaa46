/-
# Who works has a slot

A call gets its slot before it begins to work and keeps it until it has ended, unless
somebody else gives the slot away.  So no more calls can be at work than there are slots.
-/

import CanvasPress.Proofs.Press.Seats

namespace CanvasPress.Press

variable {studio : Studio} {s s' : State} {job known : Job} {fate : Fate} {event : Event}
  {engine : Engine} {id : Nat}

/-- Whether an event leaves the slots of calls alone. -/
def Event.SparesSlots (s : State) : Event → Prop
  | .unhold ticket => ∀ job ∈ s.jobs, job.ticket ≠ ticket
  | _ => True

namespace State

/-- Whether a call is at work. -/
def isAtWork (s : State) (id : Nat) : Bool :=
  s.jobs.any fun job => job.id == id && !job.isQueued

/-- Whether a call holds a slot. -/
def holdsSlot (s : State) (id : Nat) : Bool :=
  s.jobs.any fun job => job.id == id && s.governor.holds job.ticket

/-- A call holds a slot if it is at work. -/
def KeepsSlot (id : Nat) (s : State) : Prop :=
  ∀ job ∈ s.jobs, job.id = id → job.phase ≠ .queued → job.ticket ∈ s.governor.held

theorem holdsSlot_iff :
    s.holdsSlot id = true ↔ ∃ job ∈ s.jobs, job.id = id ∧ job.ticket ∈ s.governor.held := by
  simp [holdsSlot, Governor.holds]

theorem KeepsSlot.holdsSlot (h : s.KeepsSlot id) (hworks : s.isAtWork id = true) :
    s.holdsSlot id = true := by
  obtain ⟨job, hjob, hworks⟩ := List.any_eq_true.1 hworks
  obtain ⟨hid, hqueued⟩ := Bool.and_eq_true_iff.1 hworks
  have hphase : job.phase ≠ .queued := by
    rw [ne_eq, ← Job.isQueued_iff, Bool.not_eq_true]
    simpa using hqueued
  exact holdsSlot_iff.2 ⟨job, hjob, by simpa using hid, h job hjob (by simpa using hid) hphase⟩

/-- Nobody is at work under a number that has not been given. -/
theorem HasNumbers.keepsSlot (hs : s.HasNumbers) (hid : s.nextId ≤ id) : s.KeepsSlot id := by
  intro job hjob hmine
  have hless := hs job hjob
  omega

/-! ## Turns -/

theorem KeepsSlot.fulfil (htickets : (s.jobs.map Job.ticket).Nodup) (h : s.KeepsSlot id)
    (hknown : known ∈ s.jobs) (hid : known.id = job.id) (hticket : known.ticket = job.ticket)
    (hmine : job.id = id → job.ticket ∈ s.governor.held) : (s.fulfil job fate).KeepsSlot id := by
  intro later hlater hlaterId hphase
  rcases fate.waits_or_ends s job with ⟨phase, rfl⟩ | ⟨outcome, houtcome⟩
  · rcases mem_jobs_wait hlater with rfl | ⟨hmem, -⟩
    · exact hmine hlaterId
    · exact h later hmem hlaterId hphase
  · have hends := releases_fulfil houtcome
    rw [hends.jobs, mem_othersThan] at hlater
    rw [hends.governor, Governor.held_release]
    refine (List.mem_erase_of_ne fun hsame => hlater.2 ?_).2 (h later hlater.1 hlaterId hphase)
    have hlast : later = known :=
      List.inj_on_of_nodup_map htickets hlater.1 hknown (hsame.trans hticket.symm)
    rw [hlast, hid]

/-- A call that works has its turn. -/
theorem KeepsSlot.proceed (htickets : (s.jobs.map Job.ticket).Nodup) (h : s.KeepsSlot id)
    (hjob : s.job? job.id = some job) (hphase : job.phase ≠ .queued) :
    (s.fulfil job fate).KeepsSlot id := by
  have hmem := (mem_of_job? hjob).1
  exact h.fulfil htickets hmem rfl rfl fun hmine => h job hmem hmine hphase

theorem KeepsSlot.stirred (hstirred : s.Stirred studio engine s')
    (htickets : (s.jobs.map Job.ticket).Nodup) (h : s.KeepsSlot id) : s'.KeepsSlot id := by
  cases hstirred with
  | unheard lines => exact h
  | heard lines hjob hphase =>
      refine KeepsSlot.proceed htickets h hjob ?_
      rw [hphase]
      exact fun heq => by cases heq

theorem KeepsSlot.started (hstarted : s.Started studio job s') (hs : s.Numbered)
    (hseating : Seating (some job.id) s.governor s.jobs) (hknows : s.Knows job known)
    (hticket : known.ticket = job.ticket) (hheld : job.ticket ∈ s.governor.held)
    (h : s.KeepsSlot id) : s'.KeepsSlot id := by
  obtain ⟨hmem, hid⟩ := mem_of_job? hknows.listed
  have htickets := hseating.tickets
  cases hstarted with
  | opens lines hfate => exact KeepsSlot.fulfil htickets h hmem hid hticket fun _ => hheld
  | asks lines hformat hstirred =>
      have hsearched : (s.searched job lines).KeepsSlot id := h
      have hwaits : ((s.searched job lines).fulfil job
          (.waits (.paginating (s.workFor studio job)))).KeepsSlot id :=
        hsearched.fulfil htickets hmem hid hticket fun _ => hheld
      have hseated : ((s.searched job lines).fulfil job
          (.waits (.paginating (s.workFor studio job)))).Seated :=
        Seated.fulfil (hs.congr rfl rfl rfl) hseating hmem hid hticket fun heq => by cases heq
      exact hwaits.stirred hstirred hseated.tickets

/-! ## Events -/

/-- Taking a slot without rendering anything takes it from nobody. -/
theorem held_subset_hold : s.governor.held ⊆ s.hold.2.governor.held := by
  have hacquired : s.governor.held ⊆ s.governor.acquire.2.held := by
    cases hgrant : s.governor.acquire.1 with
    | granted =>
        rw [(Governor.acquire_of_granted hgrant).2.2]
        exact List.subset_cons_self _ _
    | queued =>
        rw [(Governor.acquire_of_queued hgrant).2]
        exact List.Subset.refl _
    | refused waiting limit =>
        rw [(Governor.acquire_of_refused hgrant).2.2.2]
        exact List.Subset.refl _
  unfold State.hold
  dsimp only
  split
  next =>
    change s.governor.held ⊆ (s.governor.acquire.2.cancel s.governor.nextTicket).held
    rwa [Governor.held_cancel]
  next => exact hacquired

/-- Whoever comes now waits, for the moment. -/
theorem KeepsSlot.entered (h : s.KeepsSlot id) (hheld : s.governor.held ⊆ s.governor.acquire.2.held)
    (document : Document) (options : RenderOptions) :
    (s.entered document options).KeepsSlot id := by
  intro job hjob hid hphase
  rcases List.mem_append.1 hjob with hjob | hjob
  · exact hheld (h job hjob hid hphase)
  · cases List.mem_singleton.1 hjob
    exact absurd rfl hphase

/-- A call keeps its slot while it is at work, unless somebody gives the slot away. -/
theorem KeepsSlot.step (hs : s.Numbered) (hseated : s.Seated) (h : s.KeepsSlot id) (studio : Studio)
    (hspares : event.SparesSlots s) : (s.step studio event).KeepsSlot id := by
  have htickets := Seating.tickets hseated
  have hhappens := happens_step studio s event
  generalize s.step studio event = s' at hhappens ⊢
  cases hhappens with
  | refused hvalid hrefused =>
      intro job hjob hid hphase
      change job.ticket ∈ s.governor.acquire.2.held
      rw [(Governor.acquire_of_refused hrefused).2.2.2]
      exact h job hjob hid hphase
  | @queued document options lines hvalid hqueued =>
      have hsame := (Governor.acquire_of_queued hqueued).2
      exact h.entered (hsame ▸ List.Subset.refl _) document options
  | @admitted document options _ hvalid hgranted hstarted =>
      have hheld := (Governor.acquire_of_granted hgranted).2.2
      refine KeepsSlot.started hstarted (hs.entered studio document options)
        (Seating.letIn hseated hgranted rfl (hs.jobs.apart_caller document options))
        (knows_caller hs.jobs studio document options) rfl ?_
        (h.entered (hheld ▸ List.subset_cons_self _ _) document options)
      change s.governor.nextTicket ∈ s.governor.acquire.2.held
      rw [hheld]
      exact List.mem_cons_self
  | @called job _ hjob hphase hpromised hstarted =>
      obtain ⟨before, after, hjobs, hapart⟩ := hs.split (mem_of_job? hjob).1
      have hpolled : ({ s with governor := s.governor.poll job.ticket } : State).Numbered :=
        hs.congr rfl rfl rfl
      have hheld := Governor.held_poll hpromised
      have hseating : Seating (some job.id) (s.governor.poll job.ticket) s.jobs := by
        rw [Seated, hjobs] at hseated
        rw [hjobs]
        exact hseated.call hapart hphase hpromised
      refine KeepsSlot.started hstarted hpolled hseating ⟨hjob, rfl, rfl⟩ rfl ?_ ?_
      · change job.ticket ∈ (s.governor.poll job.ticket).held
        rw [hheld]
        exact List.mem_cons_self
      · intro other hother hid hworks
        change other.ticket ∈ (s.governor.poll job.ticket).held
        rw [hheld]
        exact List.mem_cons_of_mem _ (h other hother hid hworks)
  | rasterized hjob hphase =>
      refine KeepsSlot.proceed htickets h hjob ?_
      rw [hphase]
      exact fun heq => by cases heq
  | saved lines filepath hjob hphase =>
      refine KeepsSlot.proceed htickets h hjob ?_
      rw [hphase]
      exact fun heq => by cases heq
  | expired hjob hlimit hphase => exact KeepsSlot.proceed htickets h hjob hphase
  | @left job hjob =>
      intro later hlater hid hphase
      obtain ⟨hmem, hother⟩ := mem_othersThan.1 hlater
      change later.ticket ∈ ((s.governor.release job.ticket).cancel job.ticket).held
      rw [Governor.held_cancel, Governor.held_release]
      refine (List.mem_erase_of_ne fun hsame => hother ?_).2 (h later hmem hid hphase)
      rw [List.inj_on_of_nodup_map htickets hmem (mem_of_job? hjob).1 hsame]
  | stirred hstep hstirred => exact KeepsSlot.stirred hstirred htickets h
  | asked hstirred => exact KeepsSlot.stirred hstirred htickets h
  | held =>
      intro job hjob hid hphase
      rw [jobs_hold] at hjob
      exact held_subset_hold (h job hjob hid hphase)
  | unheld ticket =>
      intro job hjob hid hphase
      change job.ticket ∈ (s.governor.release ticket).held
      rw [Governor.held_release]
      exact (List.mem_erase_of_ne (hspares job hjob)).2 (h job hjob hid hphase)
  | _ => exact h

/-! ## How many -/

/-- There are as many slots as the press was opened with. -/
theorem capacity_run (studio : Studio) (s : State) (events : List Event) :
    (s.run studio events).governor.capacity = s.governor.capacity := by
  induction events generalizing s with
  | nil => rfl
  | cons event rest ih =>
      obtain ⟨steps, hsteps⟩ := governor_step studio s event
      have hfirst : (s.step studio event).governor.capacity = s.governor.capacity := by
        rw [hsteps]
        exact (Governor.capacity_run _ steps).1
      exact (ih (s.step studio event)).trans hfirst

/-- No more calls hold a slot than there are slots. -/
theorem Sound.length_le_capacity (hs : s.Sound studio) {ids : List Nat} (hids : ids.Nodup)
    (hhold : ∀ id ∈ ids, s.holdsSlot id = true) : ids.length ≤ s.governor.capacity := by
  let holders := s.jobs.filter fun job => s.governor.holds job.ticket
  have hfound : ids ⊆ holders.map Job.id := by
    intro id hid
    obtain ⟨job, hjob, hmine, hheld⟩ := holdsSlot_iff.1 (hhold id hid)
    have hholder : job ∈ holders :=
      List.mem_filter.2 ⟨hjob, by simpa [Governor.holds] using hheld⟩
    exact hmine ▸ List.mem_map_of_mem hholder
  have htickets : (holders.map Job.ticket).Nodup :=
    (Seating.tickets hs.seated).sublist (List.filter_sublist.map _)
  have hheld : holders.map Job.ticket ⊆ s.governor.held := by
    intro ticket hticket
    obtain ⟨job, hjob, rfl⟩ := List.mem_map.1 hticket
    simpa [Governor.holds] using (List.mem_filter.1 hjob).2
  have hfew := (hids.subperm hfound).length_le
  have hmany := (htickets.subperm hheld).length_le
  have hslots := hs.books.slots
  simp only [List.length_map] at hfew hmany
  omega

end State

end CanvasPress.Press

/-
# What the clock brings about

The clock lets happen what is due until a condition fails or nothing is due any more.
What happens then is a run of a few kinds of events, which end no call before its time and
take no slots, so every call that has come is in progress or on record afterwards.  Since
such a run comes to its end, whoever waits for the result of a call gets it.
-/

import CanvasPress.Proofs.Press.Progress

namespace CanvasPress.Press

variable {studio : Studio} {s s' : State} {job known : Job} {fate : Fate} {id : Nat} {event : Event}
  {engine : Engine} {out : List Nat} {goes : State → Bool} {limit : Option Nat} {fuel : Nat}

/-- Whether an event comes about by itself. -/
def Event.isClockwork : Event → Bool
  | .look _ => true
  | .proceed _ => true
  | .expire _ => true
  | .settle => true
  | .serveNext => true
  | .endPrint _ => true
  | .advance _ => true
  | _ => false

/-- Whether an event leaves alone who has come and who has a slot. -/
def Event.isGentle : Event → Bool
  | .hold => false
  | .leave _ => false
  | _ => true

theorem Event.isGentle_of_isClockwork (h : event.isClockwork = true) : event.isGentle = true := by
  cases event with
  | hold => cases h
  | leave id => cases h
  | _ => rfl

namespace State

theorem Due.isClockwork (h : s.Due event) : event.isClockwork = true := by
  cases h <;> rfl

/-! ## The events of a drive -/

/-- What happens at its time, or now if that has passed. -/
def happenEvents (time : Nat) (event : Event) (s : State) : List Event :=
  [.advance (time - s.now), event, .advance moment]

theorem happen_eq_run (studio : Studio) (time : Nat) (event : Event) (s : State) :
    s.happen studio time event = s.run studio (s.happenEvents time event) := by
  have hnow : max s.now time = s.now + (time - s.now) := by omega
  simp only [happen, happenEvents, run, List.foldl_cons, List.foldl_nil, hnow]
  rfl

/-- What happens while a condition holds and the next event is due in time. -/
def driveEvents (studio : Studio) (goes : State → Bool) (limit : Option Nat) :
    Nat → State → List Event
  | 0, _ => []
  | fuel + 1, s =>
    if goes s then
      match s.next? studio with
      | none => []
      | some (time, event) =>
        if isBeyond limit time then []
        else s.happenEvents time event ++
          driveEvents studio goes limit fuel (s.happen studio time event)
    else []

theorem driveWhile_eq_run (goes : State → Bool) (limit : Option Nat) (fuel : Nat) (s : State) :
    s.driveWhile studio goes limit fuel = s.run studio (s.driveEvents studio goes limit fuel) := by
  induction fuel generalizing s with
  | zero => rfl
  | succ fuel ih =>
      unfold driveWhile driveEvents
      split_ifs
      · cases s.next? studio with
        | none => rfl
        | some next =>
            dsimp only
            split_ifs
            · rfl
            · rw [ih, run_append, ← happen_eq_run]
      · rfl

theorem isClockwork_driveEvents (goes : State → Bool) (limit : Option Nat) (fuel : Nat)
    (s : State) : ∀ event ∈ s.driveEvents studio goes limit fuel, event.isClockwork = true := by
  induction fuel generalizing s with
  | zero => exact fun _ hevent => absurd hevent List.not_mem_nil
  | succ fuel ih =>
      intro event hevent
      unfold driveEvents at hevent
      split_ifs at hevent
      · split at hevent
        next => cases hevent
        next time due hnext =>
          split_ifs at hevent
          · cases hevent
          · rcases List.mem_append.1 hevent with hevent | hevent
            · simp only [happenEvents, List.mem_cons, List.not_mem_nil, or_false] at hevent
              rcases hevent with rfl | rfl | rfl
              · rfl
              · exact (due_of_next? hnext).isClockwork
              · rfl
            · exact ih _ event hevent
      · cases hevent

/-- A drive that has fuel enough ends where its condition fails or nothing is due. -/
theorem driveWhile_ends (hs : s.Steady studio) (hfuel : s.load < fuel) :
    goes (s.driveWhile studio goes none fuel) = false ∨
      (s.driveWhile studio goes none fuel).Still := by
  induction fuel generalizing s with
  | zero => exact absurd hfuel (Nat.not_lt_zero _)
  | succ fuel ih =>
      unfold driveWhile
      split_ifs with hgoes
      · split
        next hnext => exact .inr (still_of_next? hnext)
        next time event hnext =>
          let timed : State := { s with now := max s.now time }
          have htimed : timed.Steady studio := by
            obtain ⟨events, hevents⟩ := reaches_time studio s time
            change State.Steady studio { s with now := max s.now time }
            rw [hevents]
            exact hs.run events
          have hdue : timed.Due event := by cases due_of_next? hnext <;> constructor <;> assumption
          have hless : (timed.step studio event).load < timed.load := load_step_lt htimed hdue
          have hhappened : (s.happen studio time event).Steady studio := by
            rw [happen_eq_run]
            exact hs.run _
          have hload : (s.happen studio time event).load = (timed.step studio event).load := rfl
          have hsame : timed.load = s.load := rfl
          exact ih hhappened (by omega)
      · exact .inl (by simpa using hgoes)

/-! ## Runs that take nothing away -/

/-- A call is in progress, or it has ended. -/
def Present (s : State) (id : Nat) : Prop :=
  (∃ job ∈ s.jobs, job.id = id) ∨ ∃ call ∈ s.finished, call.id = id

theorem Present.congr (h : s.Present id) (hjobs : s.jobs ⊆ s'.jobs)
    (hfinished : s.finished ⊆ s'.finished) : s'.Present id :=
  h.imp (fun ⟨job, hjob, hid⟩ => ⟨job, hjobs hjob, hid⟩) fun ⟨call, hcall, hid⟩ =>
    ⟨call, hfinished hcall, hid⟩

theorem Present.fulfil (h : s.Present id) : (s.fulfil job fate).Present id := by
  rcases fate.waits_or_ends s job with ⟨phase, rfl⟩ | ⟨outcome, houtcome⟩
  · refine h.imp_left fun ⟨other, hother, hid⟩ => ?_
    have hmem : id ∈ (s.wait job phase).jobs.map Job.id := by
      rw [ids_wait]
      exact hid ▸ List.mem_map_of_mem hother
    exact List.mem_map.1 hmem
  · have hends := releases_fulfil houtcome
    rcases h with ⟨other, hother, hid⟩ | ⟨call, hcall, hid⟩
    · by_cases hmine : other.id = job.id
      · exact .inr ⟨s.ending job outcome, hends.finished ▸ List.mem_cons_self, hmine.symm.trans hid⟩
      · exact .inl ⟨other, hends.jobs ▸ mem_othersThan.2 ⟨hother, hmine⟩, hid⟩
    · exact .inr ⟨call, hends.finished ▸ List.mem_cons_of_mem _ hcall, hid⟩

theorem Present.stirred (hstirred : s.Stirred studio engine s') (h : s.Present id) :
    s'.Present id := by
  cases hstirred with
  | unheard lines => exact h
  | heard lines =>
      have hmid : (({ s with engine := engine } : State).report lines).Present id := h
      exact hmid.fulfil

theorem Present.started (hstarted : s.Started studio job s') (h : s.Present id) :
    s'.Present id := by
  have hsearched (lines : List LogLine) : (s.searched job lines).Present id := h
  cases hstarted with
  | opens lines hfate => exact (hsearched lines).fulfil
  | asks lines hformat hstirred => exact (hsearched lines).fulfil.stirred hstirred

/-- Nobody disappears without a record, unless his caller leaves. -/
theorem Present.step (h : s.Present id) (studio : Studio) (hleave : event ≠ .leave id) :
    (s.step studio event).Present id := by
  have hhappens := happens_step studio s event
  generalize s.step studio event = s' at hhappens ⊢
  have hentered (document : Document) (options : RenderOptions) :
      (s.entered document options).Present id :=
    h.congr (List.subset_append_left _ _) (List.Subset.refl _)
  cases hhappens with
  | invalid => exact h.congr (List.Subset.refl _) (List.subset_cons_self _ _)
  | refused => exact h.congr (List.Subset.refl _) (List.subset_cons_self _ _)
  | queued => exact hentered _ _
  | admitted hvalid hgranted hstarted => exact (hentered _ _).started hstarted
  | called hjob hphase hpromised hstarted => exact Present.started hstarted h
  | rasterized => exact h.fulfil
  | saved => exact Present.fulfil h
  | expired => exact Present.fulfil h
  | @left job hjob =>
      have hne : job.id ≠ id := fun hsame => hleave (hsame ▸ rfl)
      exact h.imp_left fun ⟨other, hother, hid⟩ =>
        ⟨other, mem_othersThan.2 ⟨hother, fun hsame => hne (hsame.symm.trans hid)⟩, hid⟩
  | stirred hstep hstirred => exact h.stirred hstirred
  | asked hstirred => exact Present.stirred hstirred h
  | held =>
      rw [hold_eq]
      exact h
  | _ => exact h

/-- Whoever arrives is present from then on. -/
theorem present_arrive (studio : Studio) (s : State) (document : Document)
    (options : RenderOptions) :
    (s.step studio (.arrive document options)).Present s.nextId := by
  have hhappens := happens_step studio s (.arrive document options)
  generalize s.step studio (.arrive document options) = s' at hhappens ⊢
  have hentered : (s.entered document options).Present s.nextId :=
    .inl ⟨s.caller document options, List.mem_append_right _ List.mem_cons_self, rfl⟩
  cases hhappens with
  | idle hidle hlooks => exact absurd rfl (hlooks document options)
  | invalid => exact .inr ⟨_, List.mem_cons_self, rfl⟩
  | refused => exact .inr ⟨_, List.mem_cons_self, rfl⟩
  | queued => exact hentered
  | admitted hvalid hgranted hstarted => exact hentered.started hstarted
  | stirred hstep => cases hstep

/-- When no call is in progress, whoever is present has a result. -/
theorem Present.isSome_result? (h : s.Present id) (hjobs : s.jobs = []) :
    (s.result? id).isSome = true := by
  rcases h with ⟨job, hjob, -⟩ | ⟨call, hcall, hid⟩
  · rw [hjobs] at hjob
    cases hjob
  · rw [result?, Option.isSome_map, List.find?_isSome]
    exact ⟨call, hcall, by simp [hid]⟩

/-- What a run of a press leaves as it is if nobody takes slots or leaves. -/
structure Keeps (s s' : State) : Prop where
  apart : ∀ out, s.HeldApart out → s'.HeldApart out
  present : ∀ id, s.Present id → s'.Present id
  capacity : s'.governor.capacity = s.governor.capacity

theorem Keeps.refl (s : State) : s.Keeps s :=
  ⟨fun _ h => h, fun _ h => h, rfl⟩

theorem Keeps.trans {mid : State} (h : s.Keeps mid) (h' : mid.Keeps s') : s.Keeps s' :=
  ⟨fun out hout => h'.apart out (h.apart out hout), fun id hid => h'.present id (h.present id hid),
    h'.capacity.trans h.capacity⟩

theorem keeps_step (hs : s.Sound studio) (hhold : event ≠ .hold)
    (hleave : ∀ id, event ≠ .leave id) : s.Keeps (s.step studio event) where
  apart out hout ticket hticket :=
    (hout ticket hticket).step hs.numbered hs.seated studio fun heq => absurd heq hhold
  present id hid := hid.step studio (hleave id)
  capacity := by
    obtain ⟨steps, hsteps⟩ := governor_step studio s event
    rw [hsteps]
    exact (Governor.capacity_run _ steps).1

theorem keeps_run (hs : s.Sound studio) {events : List Event}
    (hgentle : ∀ event ∈ events, event.isGentle = true) : s.Keeps (s.run studio events) := by
  induction events generalizing s with
  | nil => exact .refl s
  | cons event rest ih =>
      have hfirst := hgentle event List.mem_cons_self
      refine (keeps_step hs (fun heq => ?_) fun id heq => ?_).trans
        (ih (hs.step event) fun other hother => hgentle other (List.mem_cons_of_mem _ hother))
      · rw [heq] at hfirst
        cases hfirst
      · rw [heq] at hfirst
        cases hfirst

theorem keeps_driveEvents (hs : s.Sound studio) (goes : State → Bool) (limit : Option Nat)
    (fuel : Nat) : s.Keeps (s.run studio (s.driveEvents studio goes limit fuel)) :=
  keeps_run hs fun event hevent =>
    Event.isGentle_of_isClockwork (isClockwork_driveEvents goes limit fuel s event hevent)

/-- Whoever is present has a result after a drive that goes on as long as he has none. -/
theorem isSome_result?_drive (hs : s.Steady studio) (hout : s.HeldApart out)
    (hroom : out.length < s.governor.capacity) (hpresent : s.Present id)
    (hgoes : ∀ later : State, goes later = false → (later.result? id).isSome = true) :
    ((s.drive studio goes).result? id).isSome = true := by
  have hkeeps : s.Keeps (s.drive studio goes) := by
    rw [drive, driveWhile_eq_run]
    exact keeps_driveEvents hs.sound _ _ _
  have hlast : (s.drive studio goes).Steady studio := by
    rw [drive, driveWhile_eq_run]
    exact hs.run _
  rcases driveWhile_ends hs (load_lt_eventBound s) with hstopped | hstill
  · exact hgoes _ hstopped
  · have hnobody := hstill.jobs_eq_nil hlast (hkeeps.apart out hout) (hkeeps.capacity ▸ hroom)
    exact (hkeeps.present id hpresent).isSome_result? hnobody

/-- A rendering whose caller is patient returns, unless all slots are held apart from the
calls in progress. -/
theorem isSome_render (hs : s.Steady studio) (hroom : s.outsiders.length < s.governor.capacity)
    (document : Document) (options : RenderOptions) :
    (s.render studio document options none).1.isSome = true := by
  have hkeeps : s.Keeps (s.step studio (.arrive document options)) :=
    keeps_step hs.sound nofun nofun
  refine isSome_result?_drive ((hs.step (.arrive document options)).step (.advance moment))
    (hkeeps.apart _ (heldApart_outsiders s)) (hkeeps.capacity ▸ hroom)
    (present_arrive studio s document options) fun later hstopped => ?_
  simpa using hstopped

end State

end CanvasPress.Press

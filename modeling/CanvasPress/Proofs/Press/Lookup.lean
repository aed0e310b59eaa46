/-
# Calls that begin

A call begins to work when it has its slot, and the first thing it does is to look
its artifact up.  It does so once: a call that has missed is not served from the
cache any more, and a result stays what it is.
-/

import CanvasPress.Proofs.Press.Phases

namespace CanvasPress.Press

variable {studio : Studio} {s s' : State} {job known : Job} {id : Nat}

/-- A call was served from the cache. -/
def Finished.IsHit (call : Finished) : Prop :=
  ∃ rendering, call.outcome = .ok rendering ∧ rendering.metadata.cacheHit = true

namespace State

/-- The call that begins to work in an event: one that arrives while a slot is free,
or one that waits and finds that a slot has been set aside for it. -/
def begins? (s : State) : Event → Option Job
  | .arrive document options =>
    match options.validate with
    | .error _ => none
    | .ok () =>
      if 0 < s.governor.free then
        some ⟨s.nextId, s.governor.nextTicket, document, options, none, .queued⟩
      else none
  | .look id =>
    match s.job? id with
    | some job =>
      match job.phase with
      | .queued => if job.ticket ∈ s.governor.promised then some job else none
      | _ => none
    | none => none
  | _ => none

/-- A call that begins works from a state in which it is listed and holds its slot. -/
theorem step_of_begins (studio : Studio) {event : Event} (hnumbers : s.HasNumbers)
    (hbegins : s.begins? event = some job) :
    ∃ mid, Moves studio s [] mid ∧ mid.now = s.now ∧ mid.cache = s.cache ∧
      mid.engine = s.engine ∧ mid.finished = s.finished ∧ mid.Knows job job ∧
      job.phase = .queued ∧ s.step studio event = mid.begin studio job := by
  cases event with
  | arrive document options =>
      cases hvalid : options.validate with
      | error cause => simp [begins?, hvalid] at hbegins
      | ok _ =>
          simp only [begins?, hvalid] at hbegins
          split_ifs at hbegins with hfree
          cases hbegins
          refine ⟨{ s with
            governor := s.governor.acquire.2
            jobs := s.jobs ++
              [⟨s.nextId, s.governor.nextTicket, document, options, none, .queued⟩]
            nextId := s.nextId + 1 }, ?_, rfl, rfl, rfl, rfl, ?_, rfl, ?_⟩
          · exact (Moves.refl.tail (.govern s.governor.acquire.2)).tail
              (.enter s.governor.nextTicket document options)
          · exact ⟨job?_enter hnumbers rfl, rfl, rfl⟩
          · have hgranted : s.governor.acquire.1 = .granted := by simp [Governor.acquire, hfree]
            simp only [step, arrive, hvalid, hgranted]
  | look id =>
      cases hjob : s.job? id with
      | none => simp [begins?, hjob] at hbegins
      | some listed =>
          cases hphase : listed.phase with
          | queued =>
              simp only [begins?, hjob, hphase] at hbegins
              split_ifs at hbegins with hpromised
              cases hbegins
              refine ⟨{ s with governor := s.governor.poll job.ticket },
                Moves.refl.tail (.govern _), rfl, rfl, rfl, rfl, (knows_self hjob).congr rfl,
                hphase, ?_⟩
              simp only [step, look, hjob, hphase, if_pos hpromised]
          | _ => simp [begins?, hjob, hphase] at hbegins
  | _ => cases hbegins

/-! ## A hit -/

/-- A call that finds its artifact ends with it, and the cache stays as it is. -/
theorem begin_of_hit (studio : Studio) (job : Job) {cache : Cache Rendering}
    {rendering : Rendering} (hcache : s.cache = some cache)
    (hhit : (cache.get s.now (cacheKey job.document job.options)).1 = .hit rendering) :
    (s.begin studio job).finished = s.ending job (.ok rendering.asHit) :: s.finished ∧
      (s.begin studio job).cache = s.cache := by
  have hget := Cache.get_of_hit hhit
  simp only [begin, hcache, hget]
  exact ⟨rfl, rfl⟩

/-! ## A miss -/

/-- The cache has no artifact to serve a call with. -/
def Misses (s : State) (job : Job) : Prop :=
  ∀ cache, s.cache = some cache → ∀ rendering,
    (cache.get s.now (cacheKey job.document job.options)).1 ≠ .hit rendering

/-- A press that has just been opened has nothing to serve. -/
theorem misses_fresh (settings : Settings) (governor : Governor) (job : Job) :
    (fresh settings governor).Misses job := by
  intro cache hcache rendering hhit
  simp only [fresh] at hcache
  split_ifs at hcache
  cases hcache
  cases hhit

/-- A call has looked its artifact up and not found it. -/
structure Missed (s : State) (id : Nat) : Prop where
  numbered : id < s.nextId
  begun : ∀ job ∈ s.jobs, job.id = id → job.phase ≠ .queued
  noHit : ∀ call ∈ s.finished, call.id = id → ¬ call.IsHit

theorem not_isHit_of_error {job : Job} {fault : Fault} :
    ¬ (s.ending job (.error fault)).IsHit := by
  rintro ⟨rendering, houtcome, -⟩
  cases houtcome

theorem not_isHit_of_rendered {job : Job} {work : Work} {conversion : Conversion}
    {filepath : Option String} :
    ¬ (s.ending job (.ok (s.renderingOf job work conversion filepath))).IsHit := by
  rintro ⟨rendering, houtcome, hhit⟩
  cases houtcome
  cases hhit

/-- The end of a call, be it another one or no hit, does not make up for a miss. -/
theorem Missed.ends {outcome : Except Fault Rendering} (hs : s.Missed id)
    (hcloses : s.Closes s' job outcome)
    (hnoHit : job.id = id → ¬ (s.ending job outcome).IsHit) : s'.Missed id where
  numbered := hcloses.nextId ▸ hs.numbered
  begun other hother := by
    rw [hcloses.jobs, mem_othersThan] at hother
    exact hs.begun other hother.1
  noHit call hcall := by
    rw [hcloses.finished] at hcall
    rcases List.mem_cons.1 hcall with rfl | hcall
    · exact hnoHit
    · exact hs.noHit call hcall

theorem Missed.wait {phase : Phase} (hs : s.Missed id) (hphase : phase ≠ .queued) :
    (s.wait job phase).Missed id where
  numbered := hs.numbered
  begun other hother hid := by
    rcases mem_jobs_wait hother with rfl | ⟨hmem, -⟩
    · exact hphase
    · exact hs.begun other hmem hid
  noHit := hs.noHit

end State

/-- No move makes up for a miss. -/
theorem Move.missed {marks : List Mark} (h : Move studio s marks s') (hs : s.Missed id) :
    s'.Missed id := by
  cases h with
  | number => exact ⟨Nat.lt_succ_of_lt hs.numbered, hs.begun, hs.noHit⟩
  | reject document options fault =>
      refine ⟨Nat.lt_succ_of_lt hs.numbered, hs.begun, fun call hcall hid => ?_⟩
      rcases List.mem_cons.1 hcall with rfl | hcall
      · exact absurd hid (Nat.ne_of_gt hs.numbered)
      · exact hs.noHit call hcall hid
  | enter ticket document options =>
      refine ⟨Nat.lt_succ_of_lt hs.numbered, fun job hjob hid => ?_, hs.noHit⟩
      rcases List.mem_append.1 hjob with hjob | hjob
      · exact hs.begun job hjob hid
      · cases List.mem_singleton.1 hjob
        exact absurd hid (Nat.ne_of_gt hs.numbered)
  | drop other =>
      exact ⟨hs.numbered, fun job hjob => hs.begun job (State.mem_othersThan.1 hjob).1, hs.noHit⟩
  | rasterize => exact hs.wait fun h => by cases h
  | paginate => exact hs.wait fun h => by cases h
  | save => exact hs.wait fun h => by cases h
  | hit hknows hphase =>
      -- Only a call that waits for its slot is served, and this one does not wait.
      obtain ⟨hmem, hlisted⟩ := State.mem_of_job? hknows.listed
      exact hs.ends (State.closes_hit _ _ _) fun hid =>
        absurd hphase (hs.begun _ hmem (hlisted.trans hid))
  | deliver =>
      exact hs.ends (State.closes_deliver _ _ _ _ _) fun _ => State.not_isHit_of_rendered
  | fail => exact hs.ends (State.closes_finish _ _ _) fun _ => State.not_isHit_of_error
  | expire => exact hs.ends (State.closes_finish _ _ _) fun _ => State.not_isHit_of_error
  | _ => exact ⟨hs.numbered, hs.begun, hs.noHit⟩

namespace State

/-- Nothing is on record about a call in progress. -/
theorem Numbered.not_mem_finished (hs : s.Numbered) (hknows : s.Knows job known)
    {call : Finished} (hcall : call ∈ s.finished) : call.id ≠ job.id := by
  obtain ⟨hmem, hid⟩ := mem_of_job? hknows.listed
  exact hid ▸ hs.apart known hmem call hcall

/-- A call in progress that waits for something else than its slot has missed. -/
theorem missed_wait (hs : s.Numbered) (hknows : s.Knows job known) {phase : Phase}
    (hphase : phase ≠ .queued) : (s.wait job phase).Missed job.id where
  numbered := hknows.id_lt hs.jobs
  begun other hother hid := by
    rcases mem_jobs_wait hother with rfl | ⟨-, hother⟩
    · exact hphase
    · exact absurd hid hother
  noHit call hcall hid := absurd hid (hs.not_mem_finished hknows hcall)

/-- A call in progress that ends otherwise than with a hit has missed. -/
theorem missed_end {outcome : Except Fault Rendering} (hs : s.Numbered)
    (hknows : s.Knows job known) (hcloses : s.Closes s' job outcome)
    (hnoHit : ¬ (s.ending job outcome).IsHit) : s'.Missed job.id where
  numbered := hcloses.nextId ▸ hknows.id_lt hs.jobs
  begun other hother hid := by
    rw [hcloses.jobs, mem_othersThan] at hother
    exact absurd hid hother.2
  noHit call hcall hid := by
    rw [hcloses.finished] at hcall
    rcases List.mem_cons.1 hcall with rfl | hcall
    · exact hnoHit
    · exact absurd hid (hs.not_mem_finished hknows hcall)

theorem missed_converted (hs : s.Numbered) (hknows : s.Knows job known) (work : Work)
    (outcome : Except Fault Conversion) :
    (s.converted studio job work outcome).Missed job.id := by
  cases outcome with
  | error fault =>
      exact missed_end hs hknows (closes_finish s job (.error fault)) not_isHit_of_error
  | ok conversion =>
      simp only [converted]
      cases studio.settings.outputPath with
      | none =>
          exact missed_end hs hknows (closes_deliver _ _ _ _ _) not_isHit_of_rendered
      | some _ => exact missed_wait hs hknows fun h => by cases h

theorem missed_composed (hs : s.Numbered) (hknows : s.Knows job known) (key : String) :
    (s.composed studio job key).Missed job.id := by
  simp only [composed]
  generalize job.document.composeLog _ = lines
  have hreported : (s.report lines).Numbered := hs.congr rfl rfl rfl
  have hlisted : (s.report lines).Knows job known := hknows.congr rfl
  unfold convert
  cases job.options.format with
  | vector => exact missed_converted hreported hlisted _ _
  | raster => exact missed_wait hreported hlisted fun h => by cases h
  | paginated =>
      exact (leads_withEngine (.ask job.id _) (hlisted.asks hreported.jobs) _).preserve Move.missed
        (missed_wait hreported hlisted fun h => by cases h)

/-- A call that does not find its artifact has missed it for good. -/
theorem missed_begin (hs : s.Numbered) (hknows : s.Knows job known) (hmiss : s.Misses job) :
    (s.begin studio job).Missed job.id := by
  let timed : Job := { job with
    deadline := studio.settings.renderTimeoutMs.map fun ms => s.now + millis ms }
  have htimed : s.Knows timed known := ⟨hknows.listed, hknows.document, hknows.options⟩
  cases hcache : s.cache with
  | none =>
      simp only [begin, hcache]
      exact missed_composed hs htimed _
  | some cache =>
      simp only [begin, hcache]
      cases hfound : (cache.get s.now (cacheKey job.document job.options)).1 with
      | hit rendering => exact absurd hfound (hmiss cache hcache rendering)
      | miss =>
          apply missed_composed
          · exact hs.congr rfl rfl rfl
          · exact htimed.congr rfl
      | aborted report =>
          apply missed_composed
          · exact hs.congr rfl rfl rfl
          · exact htimed.congr rfl

/-- A call that begins and does not find its artifact is never served from the cache. -/
theorem missed_of_begins (studio : Studio) (hnumbered : s.Numbered) {event : Event}
    (hbegins : s.begins? event = some job) (hmiss : s.Misses job) (later : List Event) :
    (s.run studio (event :: later)).Missed job.id := by
  obtain ⟨mid, hmoves, hnow, hsame, -, -, hknows, -, hstep⟩ :=
    step_of_begins studio hnumbered.jobs hbegins
  have hmissed : (s.step studio event).Missed job.id := by
    rw [hstep]
    refine missed_begin (hmoves.preserve Move.numbered hnumbered) hknows ?_
    rw [Misses, hsame, hnow]
    exact hmiss
  exact (run_moves (hnumbered.step event) studio later).preserve Move.missed hmissed

/-! ## Results -/

/-- A result belongs to a call that has ended under this number. -/
theorem mem_finished_of_result? {outcome : Except Fault Rendering}
    (h : s.result? id = some outcome) :
    ∃ call ∈ s.finished, call.id = id ∧ call.outcome = outcome := by
  obtain ⟨call, hcall, houtcome⟩ := Option.map_eq_some_iff.1 h
  exact ⟨call, List.mem_of_find?_eq_some hcall, by simpa using List.find?_some hcall, houtcome⟩

/-- A call that has missed has no hit for its result. -/
theorem Missed.result? (hs : s.Missed id) {rendering : Rendering}
    (h : s.result? id = some (.ok rendering)) : rendering.metadata.cacheHit = false := by
  obtain ⟨call, hmem, hid, houtcome⟩ := mem_finished_of_result? h
  have hnoHit := hs.noHit call hmem hid
  by_contra hhit
  exact hnoHit ⟨rendering, houtcome, by simpa using hhit⟩

end State

/-- Whoever ends in a move has had no result before. -/
theorem Move.ended_apart {marks : List Mark} (h : Move studio s marks s') (hs : s.Numbered)
    {call : Finished} (hcall : call ∈ marks.filterMap Mark.call?) :
    ∀ old ∈ s.finished, old.id ≠ call.id := by
  intro old hold
  cases h with
  | reject document options fault =>
      cases List.mem_singleton.1 hcall
      exact Nat.ne_of_lt (hs.finished old hold)
  | hit hknows =>
      cases List.mem_singleton.1 hcall
      exact hs.not_mem_finished hknows hold
  | deliver filepath hknows =>
      cases List.mem_singleton.1 hcall
      exact hs.not_mem_finished hknows hold
  | fail hknows =>
      cases List.mem_singleton.1 hcall
      exact hs.not_mem_finished hknows hold
  | expire ms hknows =>
      cases List.mem_singleton.1 hcall
      exact hs.not_mem_finished hknows hold
  | _ => cases hcall

/-- A result stays what it is. -/
theorem Move.result? {marks : List Mark} {outcome : Except Fault Rendering}
    (h : Move studio s marks s') (hs : s.Numbered) (hresult : s.result? id = some outcome) :
    s'.result? id = some outcome := by
  obtain ⟨old, hold, hid, -⟩ := State.mem_finished_of_result? hresult
  have hnew : (marks.filterMap Mark.call?).reverse.find? (fun call => call.id == id) = none := by
    refine List.find?_eq_none.2 fun call hcall => ?_
    have hapart := h.ended_apart hs (List.mem_reverse.1 hcall) old hold
    exact fun hsame => hapart (hid.trans (beq_iff_eq.1 hsame).symm)
  rw [State.result?, h.finished, List.find?_append, hnew, Option.none_or]
  exact hresult

theorem Moves.result? {marks : List Mark} {outcome : Except Fault Rendering}
    (h : Moves studio s marks s') (hs : s.Numbered) (hresult : s.result? id = some outcome) :
    s'.result? id = some outcome := by
  induction h with
  | refl => exact hresult
  | tail before move ih => exact move.result? (before.preserve Move.numbered hs) ih

end CanvasPress.Press

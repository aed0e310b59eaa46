/-
# A press that is left alone comes to rest

Nobody is forgotten: a call that waits for the engine has its page on the engine's hands,
and a call is out of time only while it works.  Whatever the clock lets happen takes load
off the press, so after few enough events nothing is due any more.  A press at rest in
which not all slots are held by others has no calls in progress: each of them has ended.
-/

import CanvasPress.Proofs.Engine.Demand
import CanvasPress.Proofs.Press.Printing
import CanvasPress.Proofs.Press.Runs
import CanvasPress.Proofs.Press.Seats

namespace CanvasPress

variable {studio : Press.Studio}

namespace Press

variable {s s' : State} {job known : Job} {fate : Fate} {id time : Nat} {event : Event}
  {engine : Engine} {out : List Nat}

namespace State

/-! ## Nobody is forgotten -/

/-- A call that waits for the engine has its page on the engine's hands. -/
def Attended (s : State) : Prop :=
  ∀ job ∈ s.jobs, ∀ work, job.phase = .paginating work → s.engine.wants job.id = [work.page]

theorem job?_of_mem (hs : s.Numbered) (hjob : job ∈ s.jobs) : s.job? job.id = some job :=
  find?_of_unique hjob (beq_self_eq_true _) fun _ hother hid =>
    List.inj_on_of_nodup_map hs.distinct hother hjob (beq_iff_eq.1 hid)

/-- A final answer is heard by whoever waits for the engine. -/
theorem converted?_of_isFinal {answer : Engine.Reply} (hfinal : answer.IsFinal) (work : Work)
    (options : RenderOptions) : work.converted? options answer ≠ none := by
  cases answer with
  | unavailable reason => exact fun h => by cases h
  | printed pdf => exact fun h => by cases h
  | misprinted fault => exact fun h => by cases h
  | _ => exact hfinal.elim

/-- Who has his turn is not kept waiting for the engine, unless that is his turn. -/
theorem Attended.fulfil (h : s.Attended) (hfate : ∀ work, fate ≠ .waits (.paginating work)) :
    (s.fulfil job fate).Attended := by
  intro other hother work hwaits
  rw [engine_fulfil]
  rcases fate.waits_or_ends s job with ⟨phase, rfl⟩ | ⟨outcome, houtcome⟩
  · rcases mem_jobs_wait hother with rfl | ⟨hmem, -⟩
    · exact absurd (congrArg Fate.waits hwaits) (hfate work)
    · exact h other hmem work hwaits
  · rw [(releases_fulfil houtcome).jobs, mem_othersThan] at hother
    exact h other hother.1 work hwaits

theorem fateOf_ne_paginating (studio : Studio) (now : Nat) (work : Work)
    (outcome : Except Fault Conversion) (other : Work) :
    fateOf studio now work outcome ≠ .waits (.paginating other) := by
  cases outcome with
  | error fault => exact fun h => by cases h
  | ok conversion =>
      simp only [fateOf]
      cases studio.settings.outputPath <;> exact fun h => by cases h

/-- Whoever waits for the engine has been answered or is still attended to. -/
theorem attended_of_stirred (hs : s.Numbered) (hstirred : s.Stirred studio engine s')
    (hmeets : ∀ job ∈ s.jobs, ∀ work, job.phase = .paginating work →
      Engine.Meets s.engine engine job.id [work.page]) : s'.Attended := by
  cases hstirred with
  | unheard lines hunheard =>
      intro job hjob work hphase
      rcases hmeets job hjob work hphase with hperm | ⟨answer, hfinal, hreplies⟩
      · exact List.perm_singleton.1 hperm
      · have hdeaf := hunheard job.id answer hreplies job work (job?_of_mem hs hjob) hphase
        exact absurd hdeaf (converted?_of_isFinal hfinal work job.options)
  | @heard lines heard _ answer _ hjob hphase hreplies hgrounds hconverted =>
      have hothers {other : Job} {work : Work} (hmem : other ∈ s.jobs) (hne : other.id ≠ heard.id)
          (hwaits : other.phase = .paginating work) : engine.wants other.id = [work.page] := by
        rcases hmeets other hmem work hwaits with hperm | ⟨reply, -, hreplied⟩
        · exact List.perm_singleton.1 hperm
        · rw [hreplies] at hreplied
          exact absurd (congrArg Prod.fst (List.cons.inj hreplied).1).symm hne
      intro other hother work hwaits
      rw [engine_fulfil]
      rcases Fate.waits_or_ends (fateOf studio s.now _ _)
          (({ s with engine := engine } : State).report lines) heard with
        ⟨phase, hphase⟩ | ⟨outcome, houtcome⟩
      · rw [hphase] at hother
        rcases mem_jobs_wait hother with rfl | ⟨hmem, hne⟩
        · exact absurd (hphase.trans (congrArg Fate.waits hwaits)) (fateOf_ne_paginating _ _ _ _ _)
        · exact hothers hmem hne hwaits
      · rw [(releases_fulfil houtcome).jobs, mem_othersThan] at hother
        exact hothers hother.1 hother.2 hwaits

/-- A step of the engine that a call has not asked for does not forget it. -/
theorem Attended.meets (h : s.Attended) (studio : Studio) (step : Engine.Step) (hjob : job ∈ s.jobs)
    {work : Work} (hphase : job.phase = .paginating work)
    (hask : ∀ request, step ≠ .ask job.id request) (hleave : step ≠ .leave job.id) :
    Engine.Meets s.engine (s.engine.apply studio.settings.engine studio.browser s.now step) job.id
      [work.page] := by
  rw [← h job hjob work hphase]
  exact Engine.wants_apply _ _ _ hask hleave

theorem Attended.entered (h : s.Attended) (document : Document) (options : RenderOptions) :
    (s.entered document options).Attended := by
  intro job hjob work hwaits
  rcases List.mem_append.1 hjob with hjob | hjob
  · exact h job hjob work hwaits
  · rw [List.mem_singleton.1 hjob] at hwaits
    cases hwaits

/-- A call that begins is attended to, if the engine has not been concerned with it. -/
theorem Attended.started (hstarted : s.Started studio job s') (hs : s.Numbered)
    (hknows : s.Knows job known) (hstranger : ¬ s.engine.Concerns job.id) (h : s.Attended) :
    s'.Attended := by
  cases hstarted with
  | opens lines hfate =>
      refine Attended.fulfil h fun work heq => ?_
      cases hfate with
      | served => cases heq
      | vector => exact fateOf_ne_paginating _ _ _ _ _ heq
      | raster => cases heq
  | asks lines hformat hstirred =>
      have hsearched : (s.searched job lines).Numbered := hs.congr rfl rfl rfl
      refine attended_of_stirred (hsearched.wait (hknows.congr rfl) _) hstirred
        fun other hother work hwaits => ?_
      rcases mem_jobs_wait hother with rfl | ⟨hmem, hne⟩
      · cases hwaits
        have hasked := Engine.wants_ask (e := s.engine) s.now job.id
          (.print (s.workFor studio job).page.1 (s.workFor studio job).page.2) job.id
        rw [Engine.wants_of_not_concerns hstranger] at hasked
        change Engine.Meets s.engine _ job.id _
        simpa [Engine.Request.print, Engine.Request.sheets, Engine.Purpose.sheets, Engine.sheetsOf]
          using hasked
      · exact h.meets studio (.ask job.id _) hmem hwaits
          (fun request heq => hne (Engine.Step.ask.inj heq).1.symm) fun heq => by cases heq

/-- No event makes the engine forget a call that waits for it. -/
theorem Attended.step (hs : s.Numbered) (hstrangers : s.Strangers) (h : s.Attended)
    (studio : Studio) (event : Event) : (s.step studio event).Attended := by
  have hhappens := happens_step studio s event
  generalize s.step studio event = s' at hhappens ⊢
  have hleaves {id : Nat} {other : Job} (hmem : other ∈ s.jobs) (hne : other.id ≠ id) {work : Work}
      (hwaits : other.phase = .paginating work) :
      (s.engine.leave id).wants other.id = [work.page] := by
    rw [Engine.wants_leave hne.symm]
    exact h other hmem work hwaits
  cases hhappens with
  | queued lines hvalid hqueued => exact h.entered _ _
  | @admitted document options _ hvalid hgranted hstarted =>
      exact (h.entered document options).started hstarted (hs.entered studio document options)
        (knows_caller hs.jobs studio document options) (hstrangers.later _ (Nat.le_refl _))
  | @called job _ hjob hphase hpromised hstarted =>
      have hpolled : ({ s with governor := s.governor.poll job.ticket } : State).Numbered :=
        hs.congr rfl rfl rfl
      exact Attended.started hstarted hpolled ⟨hjob, rfl, rfl⟩
        (hstrangers.queued job (mem_of_job? hjob).1 hphase) h
  | rasterized hjob hphase => exact h.fulfil (fateOf_ne_paginating _ _ _ _)
  | saved lines filepath hjob hphase =>
      have hreported : (s.report lines).Attended := h
      exact hreported.fulfil fun work heq => by cases heq
  | @expired job ms hjob hlimit hphase =>
      intro other hother work hwaits
      rw [engine_fulfil]
      rw [(releases_fulfil rfl).jobs, mem_othersThan] at hother
      exact hleaves hother.1 hother.2 hwaits
  | left hjob =>
      intro other hother work hwaits
      rw [mem_othersThan] at hother
      exact hleaves hother.1 hother.2 hwaits
  | @absent id hjob =>
      intro other hother work hwaits
      refine hleaves hother (fun hsame => ?_) hwaits
      have hlisted := job?_of_mem hs hother
      rw [hsame, hjob] at hlisted
      cases hlisted
  | @stirred event step _ hstep hstirred =>
      refine attended_of_stirred hs hstirred fun job hjob work hwaits =>
        h.meets studio step hjob hwaits (fun request heq => ?_) fun heq => ?_
      all_goals
        rw [heq] at hstep
        cases event <;> cases hstep
  | @asked request _ hstirred =>
      refine attended_of_stirred (hs.next studio) hstirred fun job hjob work hwaits =>
        h.meets studio (.ask s.nextId request) hjob hwaits (fun other heq => ?_)
          fun heq => by cases heq
      exact Nat.ne_of_gt (hs.jobs job hjob) (Engine.Step.ask.inj heq).1
  | held =>
      rw [hold_eq]
      exact h
  | _ => exact h

/-! ## Deadlines -/

/-- Only calls that work are to end in time, and only if there is a limit to it. -/
def Timely (studio : Studio) (s : State) : Prop :=
  ∀ job ∈ s.jobs, job.deadline.isSome = true →
    job.phase ≠ .queued ∧ studio.settings.renderTimeoutMs.isSome = true

namespace Timely

theorem fulfil (h : s.Timely studio) (hfate : fate ≠ .waits .queued)
    (hmine : job.deadline.isSome = true → studio.settings.renderTimeoutMs.isSome = true) :
    (s.fulfil job fate).Timely studio := by
  intro other hother hdeadline
  rcases fate.waits_or_ends s job with ⟨phase, rfl⟩ | ⟨outcome, houtcome⟩
  · rcases mem_jobs_wait hother with rfl | ⟨hmem, -⟩
    · exact ⟨fun heq => hfate (congrArg Fate.waits heq), hmine hdeadline⟩
    · exact h other hmem hdeadline
  · rw [(releases_fulfil houtcome).jobs, mem_othersThan] at hother
    exact h other hother.1 hdeadline

theorem stirred (hstirred : s.Stirred studio engine s') (h : s.Timely studio) :
    s'.Timely studio := by
  cases hstirred with
  | unheard lines => exact h
  | heard lines hjob =>
      have hmid : (({ s with engine := engine } : State).report lines).Timely studio := h
      exact hmid.fulfil (fateOf_ne_queued _ _ _ _) fun hdeadline =>
        (h _ (mem_of_job? hjob).1 hdeadline).2

theorem started (hstarted : s.Started studio (s.timed studio job) s') (h : s.Timely studio) :
    s'.Timely studio := by
  have hmine : (s.timed studio job).deadline.isSome = true →
      studio.settings.renderTimeoutMs.isSome = true := by
    simp [timed]
  have hsearched (lines : List LogLine) : (s.searched (s.timed studio job) lines).Timely studio := h
  cases hstarted with
  | opens lines hfate => exact (hsearched lines).fulfil hfate.ne_queued hmine
  | asks lines hformat hstirred =>
      exact ((hsearched lines).fulfil (fun heq => by cases heq) hmine).stirred hstirred

theorem entered (h : s.Timely studio) (document : Document) (options : RenderOptions) :
    (s.entered document options).Timely studio := by
  intro job hjob hdeadline
  rcases List.mem_append.1 hjob with hjob | hjob
  · exact h job hjob hdeadline
  · rw [List.mem_singleton.1 hjob] at hdeadline
    cases hdeadline

theorem step (h : s.Timely studio) (event : Event) : (s.step studio event).Timely studio := by
  have hhappens := happens_step studio s event
  generalize s.step studio event = s' at hhappens ⊢
  have hmine {job : Job} (hjob : s.job? job.id = some job)
      (hdeadline : job.deadline.isSome = true) :
      studio.settings.renderTimeoutMs.isSome = true := (h job (mem_of_job? hjob).1 hdeadline).2
  cases hhappens with
  | queued lines hvalid hqueued => exact h.entered _ _
  | admitted hvalid hgranted hstarted => exact (h.entered _ _).started hstarted
  | called hjob hphase hpromised hstarted => exact Timely.started hstarted h
  | rasterized hjob hphase => exact h.fulfil (fateOf_ne_queued _ _ _ _) (hmine hjob)
  | saved lines filepath hjob hphase =>
      have hreported : (s.report lines).Timely studio := h
      exact hreported.fulfil (fun heq => by cases heq) (hmine hjob)
  | @expired job ms hjob hlimit hphase =>
      have hleft : ({ s with engine := s.engine.leave job.id } : State).Timely studio := h
      exact hleft.fulfil (fun heq => by cases heq) (hmine hjob)
  | left hjob => exact fun job hjob => h job (mem_othersThan.1 hjob).1
  | stirred hstep hstirred => exact h.stirred hstirred
  | asked hstirred => exact Timely.stirred hstirred h
  | held =>
      intro job hjob
      rw [jobs_hold] at hjob
      exact h job hjob
  | _ => exact h

end Timely

/-- What holds of a press after every run, as far as it concerns its getting on. -/
structure Steady (studio : Studio) (s : State) : Prop where
  sound : s.Sound studio
  strangers : s.Strangers
  attended : s.Attended
  timely : s.Timely studio

theorem steady_of_openWith {settings : Settings} {around : Surroundings}
    (hopen : openWith settings around = .ok (studio, s)) : s.Steady studio := by
  have hsound := sound_of_openWith hopen
  obtain ⟨rfl, governor, rfl, -⟩ := governor_of_openWith hopen
  exact ⟨hsound, strangers_fresh _ _, fun _ hjob => absurd hjob List.not_mem_nil,
    fun _ hjob => absurd hjob List.not_mem_nil⟩

theorem Steady.step (h : s.Steady studio) (event : Event) :
    (s.step studio event).Steady studio where
  sound := h.sound.step event
  strangers := (step_moves h.sound.numbered.jobs event).preserve Move.strangers h.strangers
  attended := h.attended.step h.sound.numbered h.strangers studio event
  timely := h.timely.step event

theorem Steady.run (h : s.Steady studio) (events : List Event) :
    (s.run studio events).Steady studio := by
  induction events generalizing s with
  | nil => exact h
  | cons event rest ih => exact ih (h.step event)

end State

/-! ## Load -/

/-- How far a call is from its end. -/
def Phase.load : Phase → Nat
  | .queued => 5
  | .rastering _ _ => 2
  | .paginating _ => 1
  | .saving _ _ _ => 1

/-- How far a call is from its end when it has had its turn. -/
def Fate.load : Fate → Nat
  | .waits phase => phase.load
  | _ => 0

/-- A measure of what there is to do. -/
def State.load (s : State) : Nat :=
  (s.jobs.map fun j => j.phase.load).sum + s.engine.load

namespace State

theorem load_fateOf_le (studio : Studio) (now : Nat) (work : Work)
    (outcome : Except Fault Conversion) : (fateOf studio now work outcome).load ≤ 1 := by
  cases outcome with
  | error fault => exact Nat.zero_le 1
  | ok conversion =>
      simp only [fateOf]
      cases studio.settings.outputPath
      · exact Nat.zero_le 1
      · exact Nat.le_refl 1

theorem Opening.load_le (h : s.Opening studio job fate) : fate.load ≤ 2 := by
  cases h with
  | served => exact Nat.zero_le 2
  | vector => exact Nat.le_succ_of_le (load_fateOf_le _ _ _ _)
  | raster => exact Nat.le_refl 2

/-- A turn takes the load of the call before it off the press, and puts that after it on. -/
theorem load_fulfil (hs : s.Numbered) (hknown : known ∈ s.jobs) (hid : known.id = job.id) :
    (s.fulfil job fate).load + known.phase.load = s.load + fate.load := by
  obtain ⟨before, after, hjobs, hapart⟩ := hs.split hknown
  rcases fate.waits_or_ends s job with ⟨phase, rfl⟩ | ⟨outcome, houtcome⟩
  · have hafter : (s.fulfil job (.waits phase)).jobs =
        before ++ { job with phase := phase } :: after := jobs_wait_of_split hjobs hapart hid phase
    rw [load, load, hafter, hjobs, engine_fulfil]
    simp only [List.map_append, List.map_cons, List.sum_append, List.sum_cons, Fate.load]
    omega
  · have hends := releases_fulfil houtcome
    have hnothing : fate.load = 0 := by
      cases fate with
      | waits phase => cases houtcome
      | _ => rfl
    rw [load, load, hends.jobs, hends.engine, ← hid, othersThan_of_split hjobs hapart, hjobs,
      hnothing]
    simp only [List.map_append, List.map_cons, List.sum_append, List.sum_cons]
    omega

theorem load_stirred_le (hs : s.Numbered) (hstirred : s.Stirred studio engine s') :
    s'.load + s.engine.load ≤ s.load + engine.load := by
  cases hstirred with
  | unheard lines =>
      simp only [load, report]
      omega
  | @heard lines job work answer outcome hjob hphase =>
      have hmid : (({ s with engine := engine } : State).report lines).Numbered :=
        hs.congr rfl rfl rfl
      have hturn := @load_fulfil _ job job (fateOf studio s.now work outcome) hmid
        (mem_of_job? hjob).1 rfl
      have hless := load_fateOf_le studio s.now work outcome
      have hbefore : (({ s with engine := engine } : State).report lines).load + s.engine.load =
          s.load + engine.load := by
        simp only [load, report]
        omega
      rw [hphase] at hturn
      simp only [Phase.load] at hturn
      omega

/-- A call that begins takes load off the press. -/
theorem load_started_lt (hstarted : s.Started studio job s') (hs : s.Numbered)
    (hknows : s.Knows job known) (hphase : known.phase = .queued) : s'.load < s.load := by
  obtain ⟨hmem, hid⟩ := mem_of_job? hknows.listed
  have hsearched (lines : List LogLine) : (s.searched job lines).Numbered := hs.congr rfl rfl rfl
  have hsame (lines : List LogLine) : (s.searched job lines).load = s.load := rfl
  cases hstarted with
  | @opens lines fate hfate =>
      have hturn := @load_fulfil _ job known fate (hsearched lines) hmem hid
      have hless := hfate.load_le
      rw [hphase, hsame] at hturn
      simp only [Phase.load] at hturn
      omega
  | asks lines hformat hstirred =>
      let asking := (s.searched job lines).fulfil job (.waits (.paginating (s.workFor studio job)))
      have hwaits : asking.load + known.phase.load =
          s.load + (Fate.waits (.paginating (s.workFor studio job))).load :=
        load_fulfil (hsearched lines) hmem hid
      have hasked : s'.load + s.engine.load ≤ asking.load + (s.engine.ask s.now job.id
          (.print (s.workFor studio job).page.1 (s.workFor studio job).page.2)).load :=
        load_stirred_le ((hsearched lines).wait (hknows.congr rfl) _) hstirred
      have hmore : (s.engine.ask s.now job.id
          (.print (s.workFor studio job).page.1 (s.workFor studio job).page.2)).load ≤
            s.engine.load + 3 := Engine.load_ask_le _
      rw [hphase] at hwaits
      simp only [Phase.load, Fate.load] at hwaits
      omega

/-! ## What is due -/

/-- The press or its engine has something to do. -/
inductive Due (s : State) : Event → Prop where
  | turn (hbusy : s.engine.busy = none) (hqueue : s.engine.queue ≠ []) : Due s .serveNext
  | call {job : Job} (hjob : job ∈ s.jobs) (hphase : job.phase = .queued)
      (hpromised : job.ticket ∈ s.governor.promised) : Due s (.look job.id)
  | work {job : Job} {time : Nat} (hjob : job ∈ s.jobs) (hends : job.phase.ends? = some time) :
      Due s (.proceed job.id)
  | print {p : Engine.Printing} (hp : p ∈ s.engine.printing) : Due s (.endPrint p.caller)
  | task {task : Engine.Task} (hbusy : s.engine.busy = some task) : Due s .settle
  | deadline {job : Job} {time : Nat} (hjob : job ∈ s.jobs) (hdeadline : job.deadline = some time) :
      Due s (.expire job.id)

/-- Nothing is due, but calls may still be out of time. -/
structure Still (s : State) : Prop where
  busy : s.engine.busy = none
  queue : s.engine.queue = []
  printing : s.engine.printing = []
  works : ∀ job ∈ s.jobs, job.phase.ends? = none
  calls : ∀ job ∈ s.jobs, job.phase = .queued → job.ticket ∉ s.governor.promised

theorem mem_of_earliest {events : List (Nat × Event)} {first : Nat × Event}
    (h : earliest events = some first) : first ∈ events := by
  induction events generalizing first with
  | nil => cases h
  | cons head rest ih =>
      unfold earliest at h
      split at h
      next =>
        cases h
        exact List.mem_cons_self
      next other hother =>
        split_ifs at h
        · cases h
          exact List.mem_cons_self
        · cases h
          exact List.mem_cons_of_mem _ (ih hother)

theorem eq_nil_of_earliest {events : List (Nat × Event)} (h : earliest events = none) :
    events = [] := by
  cases events with
  | nil => rfl
  | cons head rest =>
      unfold earliest at h
      split at h
      · cases h
      · split_ifs at h

theorem mem_lookers {entry : Nat × Event} (h : entry ∈ s.lookers) : s.Due entry.2 := by
  obtain ⟨job, hjob, hentry⟩ := List.mem_filterMap.1 h
  split at hentry
  next hphase =>
    split_ifs at hentry with hpromised
    cases hentry
    exact .call hjob hphase hpromised
  next => cases hentry

/-- What comes next is due. -/
theorem due_of_next? (hnext : s.next? studio = some (time, event)) : s.Due event := by
  unfold next? at hnext
  split_ifs at hnext with hturn
  · cases hnext
    obtain ⟨hbusy, hqueue⟩ := Bool.and_eq_true_iff.1 hturn
    exact .turn (Option.isNone_iff_eq_none.1 hbusy) (by simpa using hqueue)
  · split at hnext
    next first rest hlookers =>
      cases hnext
      exact mem_lookers (hlookers ▸ List.mem_cons_self)
    next =>
      have hmem := mem_of_earliest hnext
      simp only [List.mem_append] at hmem
      rcases hmem with ((hmem | hmem) | hmem) | hmem
      · obtain ⟨job, hjob, hentry⟩ := List.mem_filterMap.1 hmem
        obtain ⟨ends, hends, hentry⟩ := Option.map_eq_some_iff.1 hentry
        cases hentry
        exact .work hjob hends
      · obtain ⟨p, hp, hentry⟩ := List.mem_map.1 hmem
        cases hentry
        exact .print hp
      · unfold lander at hmem
        split at hmem
        next task hbusy =>
          cases List.mem_singleton.1 hmem
          exact .task hbusy
        next => cases hmem
      · obtain ⟨job, hjob, hentry⟩ := List.mem_filterMap.1 hmem
        obtain ⟨deadline, hdeadline, hentry⟩ := Option.map_eq_some_iff.1 hentry
        cases hentry
        exact .deadline hjob hdeadline

/-- When nothing comes next, nothing is due. -/
theorem still_of_next? (hnext : s.next? studio = none) : s.Still := by
  unfold next? at hnext
  split_ifs at hnext with hturn
  split at hnext
  next => cases hnext
  next hlookers =>
    have hnone := eq_nil_of_earliest hnext
    simp only [List.append_eq_nil_iff] at hnone
    obtain ⟨⟨⟨hworkers, hprinters⟩, hlander⟩, -⟩ := hnone
    have hbusy : s.engine.busy = none := by
      unfold lander at hlander
      split at hlander
      next => cases hlander
      next hbusy => exact hbusy
    refine ⟨hbusy, ?_, List.map_eq_nil_iff.1 hprinters, fun job hjob => ?_,
      fun job hjob hphase hpromised => ?_⟩
    · simpa [isTurn, hbusy] using hturn
    · exact Option.map_eq_none_iff.1 (List.filterMap_eq_nil_iff.1 hworkers job hjob)
    · have hnot := List.filterMap_eq_nil_iff.1 hlookers job hjob
      simp [hphase, hpromised] at hnot

/-- Whatever is due takes load off the press. -/
theorem load_step_lt (hs : s.Steady studio) (hdue : s.Due event) :
    (s.step studio event).load < s.load := by
  have hnumbered := hs.sound.numbered
  have hengine (step : Engine.Step) (lines : List LogLine)
      (hless : (s.engine.apply studio.settings.engine studio.browser s.now step).load <
        s.engine.load) :
      (s.withEngine studio (s.engine.apply studio.settings.engine studio.browser s.now step)
        lines).load < s.load := by
    have hstirred := load_stirred_le hnumbered (stirred_withEngine studio s step lines)
    omega
  cases hdue with
  | turn hbusy hqueue => exact hengine .serveNext _ (Engine.load_serveNext_lt hbusy hqueue)
  | print hp => exact hengine (.endPrint _) _ (Engine.load_endPrint_lt hp rfl)
  | task hbusy => exact hengine .settle _ (Engine.load_settle_lt hbusy)
  | @call job hjob hphase hpromised =>
      have hlisted := job?_of_mem hnumbered hjob
      let polled : State := { s with governor := s.governor.poll job.ticket }
      have hstep : s.step studio (.look job.id) = polled.begin studio job := by
        simp only [State.step, look, hlisted, hphase, if_pos hpromised]
        rfl
      have hpolled : polled.Numbered := hnumbered.congr rfl rfl rfl
      have hless : (polled.begin studio job).load < polled.load :=
        load_started_lt (started_begin studio polled job) hpolled ⟨hlisted, rfl, rfl⟩ hphase
      rw [hstep]
      exact hless
  | @work job ends hjob hends =>
      have hlisted := job?_of_mem hnumbered hjob
      cases hphase : job.phase with
      | queued => rw [hphase] at hends; cases hends
      | paginating work => rw [hphase] at hends; cases hends
      | rastering work ends =>
          have hturn := @load_fulfil _ job job (fateOf studio s.now work
            (Conversion.raster (studio.painter job.id) work.svg job.options
              studio.settings.rasterQuality)) hnumbered hjob rfl
          have hless := load_fateOf_le studio s.now work
            (Conversion.raster (studio.painter job.id) work.svg job.options
              studio.settings.rasterQuality)
          rw [← converted_eq, hphase] at hturn
          simp only [State.step, proceed, hlisted, hphase]
          simp only [Phase.load] at hturn
          omega
      | saving work conversion ends =>
          have hturn (lines : List LogLine) (filepath : Option String) :
              ((s.report lines).deliver job work conversion filepath).load + 1 = s.load := by
            have hreported : (s.report lines).Numbered := hnumbered.congr rfl rfl rfl
            have hturn := @load_fulfil _ job job (.delivered work conversion filepath) hreported
              hjob rfl
            rw [hphase] at hturn
            exact hturn
          simp only [State.step, proceed, hlisted, hphase]
          split
          · have hsame : s.report [] = s := by rw [report, List.append_nil]
            have hsaved := hturn [] (some (copyPath studio work conversion))
            rw [hsame] at hsaved
            omega
          · exact Nat.lt_of_succ_le (Nat.le_of_eq (hturn _ none))
  | @deadline job ends hjob hdeadline =>
      have hlisted := job?_of_mem hnumbered hjob
      obtain ⟨hphase, hlimited⟩ := hs.timely job hjob (by simp [hdeadline])
      obtain ⟨ms, hlimit⟩ := Option.isSome_iff_exists.1 hlimited
      let left : State := { s with engine := s.engine.leave job.id }
      have hleft : left.Numbered := hnumbered.congr rfl rfl rfl
      have hstep : s.step studio (.expire job.id) = left.fulfil job (.failed (.timeout ms)) := by
        simp only [State.step, expire, hlisted, hlimit]
        rfl
      have hturn := @load_fulfil _ job job (.failed (.timeout ms)) hleft hjob rfl
      have hfewer : left.load ≤ s.load := Nat.add_le_add_left Engine.load_leave_le _
      have hworks : 0 < job.phase.load := by cases job.phase <;> exact Nat.succ_pos _
      rw [hstep]
      simp only [Fate.load] at hturn
      omega

/-- The bound on the number of events is one. -/
theorem load_lt_eventBound (s : State) : s.load < s.eventBound := by
  have hjobs (jobs : List Job) : (jobs.map fun j => j.phase.load).sum ≤ 5 * jobs.length := by
    induction jobs with
    | nil => exact Nat.le_refl 0
    | cons job rest ih =>
        have hone : job.phase.load ≤ 5 := by cases job.phase <;> simp [Phase.load]
        simp only [List.map_cons, List.sum_cons, List.length_cons]
        omega
  have hcalls := hjobs s.jobs
  have htasks : s.engine.busy.toList.length ≤ 1 := by cases s.engine.busy <;> simp
  simp only [load, Engine.load, eventBound]
  omega

/-! ## Rest -/

/-- Nobody has a slot under other tickets than the given ones but a call in progress. -/
def HeldApart (out : List Nat) (s : State) : Prop :=
  ∀ ticket ∉ out, s.Owned ticket

/-- Tickets under which a slot is held apart from the calls in progress. -/
def outsiders (s : State) : List Nat :=
  s.governor.held.filter fun ticket => s.jobs.all fun j => j.ticket != ticket

theorem heldApart_outsiders (s : State) : s.HeldApart s.outsiders := by
  intro ticket hticket hheld
  by_contra hnobody
  refine hticket (List.mem_filter.2 ⟨hheld, List.all_eq_true.2 fun job hjob => bne_iff_ne.2 ?_⟩)
  exact fun hsame => hnobody ⟨job, hjob, hsame⟩

/-- A press at rest in which not all slots are held apart has no calls in progress. -/
theorem Still.jobs_eq_nil (h : s.Still) (hs : s.Steady studio) (hout : s.HeldApart out)
    (hroom : out.length < s.governor.capacity) : s.jobs = [] := by
  have hbooks := hs.sound.books
  have hline : s.governor.queue = inLine none s.jobs := Seating.line hs.sound.seated
  have hqueued : ∀ job ∈ s.jobs, job.phase = .queued := by
    intro job hjob
    have hworks := h.works job hjob
    cases hphase : job.phase with
    | queued => rfl
    | rastering work ends => rw [hphase] at hworks; cases hworks
    | saving work conversion ends => rw [hphase] at hworks; cases hworks
    | paginating work =>
        have hwants := hs.attended job hjob work hphase
        rw [Engine.wants_of_still h.busy h.queue h.printing] at hwants
        cases hwants
  have hpromised : s.governor.promised = [] := by
    refine List.eq_nil_iff_forall_not_mem.2 fun ticket hticket => ?_
    have hwaits : ticket ∈ inLine none s.jobs := hline ▸ List.mem_append_left _ hticket
    obtain ⟨job, hjob, rfl⟩ := List.mem_map.1 hwaits
    have hmem := (List.mem_filter.1 hjob).1
    exact h.calls job hmem (hqueued job hmem) hticket
  by_contra hsome
  obtain ⟨first, hfirst⟩ := List.exists_mem_of_ne_nil _ hsome
  have hwaits {job : Job} (hjob : job ∈ s.jobs) : job.ticket ∈ s.governor.queue := by
    rw [hline]
    exact mem_inLine_of_isQueued hjob (Job.isQueued_iff.2 (hqueued job hjob))
  -- Somebody waits, so no slot is free, and all are held by others.
  have hfree : s.governor.free = 0 := by
    by_contra hfree
    have hnobody := hbooks.idle (Nat.pos_of_ne_zero hfree)
    have hmine := hwaits hfirst
    rw [Governor.queue, hpromised, hnobody] at hmine
    cases hmine
  have hheld : s.governor.held ⊆ out := by
    intro ticket hticket
    by_contra hmine
    obtain ⟨job, hjob, rfl⟩ := hout ticket hmine hticket
    exact hbooks.not_mem_queue_of_mem_held hticket (hwaits hjob)
  have hall := hbooks.slots
  have hfew := (hbooks.nodup_held.subperm hheld).length_le
  rw [hfree, hpromised, List.length_nil] at hall
  omega

end State

end Press

end CanvasPress

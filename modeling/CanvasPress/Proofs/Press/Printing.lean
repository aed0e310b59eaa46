/-
# Calls for printed documents

A call that wants a printed document has nothing to do with the engine before it has
its slot.  Then it asks once, and ends in one of a few ways: with an artifact from the
cache, out of time, with the markup in place of the document, or with what a print for
it has led to.  A failed engine begins no print, so a call that comes to it afterwards
ends without one.
-/

import CanvasPress.Proofs.Engine.Callers
import CanvasPress.Proofs.Press.Lookup

namespace CanvasPress.Press

variable {studio : Studio} {s s' : State} {job known : Job} {id : Nat} {marks : List Mark}

/-! ## The engine along moves -/

/-- A move that touches the engine is a step of it. -/
theorem Move.engine_cases (h : Move studio s marks s') :
    s'.engine = s.engine ∨ ∃ step, s.Asks step ∧
      s'.engine = s.engine.apply studio.settings.engine studio.browser s.now step := by
  cases h with
  | engine step hasks => exact .inr ⟨step, hasks, rfl⟩
  | hit => exact .inl (State.closes_hit _ _ _).engine
  | deliver => exact .inl (State.closes_deliver _ _ _ _ _).engine
  | fail => exact .inl (State.closes_finish _ _ _).engine
  | expire => exact .inl (State.closes_finish _ _ _).engine
  | _ => exact .inl rfl

theorem Move.orderly (h : Move studio s marks s') (horderly : s.engine.Orderly) :
    s'.engine.Orderly := by
  rcases h.engine_cases with hsame | ⟨step, -, happlied⟩
  · exact hsame ▸ horderly
  · rw [happlied]
    exact horderly.apply _ _ _ step

/-- Failure is final, and the launcher is left alone, whatever the press does. -/
theorem Move.failed (h : Move studio s marks s') (horderly : s.engine.Orderly)
    (hfailed : s.engine.IsFailed) :
    s'.engine.IsFailed ∧ s'.engine.launches = s.engine.launches := by
  rcases h.engine_cases with hsame | ⟨step, -, happlied⟩
  · rw [hsame]
    exact ⟨hfailed, rfl⟩
  · rw [happlied]
    exact hfailed.apply horderly _ _ _ step

namespace State

/-- The engine concerns nobody who waits for a slot, and nobody who has not come yet. -/
structure Strangers (s : State) : Prop where
  queued : ∀ job ∈ s.jobs, job.phase = .queued → ¬ s.engine.Concerns job.id
  later : ∀ who, s.nextId ≤ who → ¬ s.engine.Concerns who

theorem strangers_fresh (settings : Settings) (governor : Governor) :
    (fresh settings governor).Strangers where
  queued _ hjob := by cases hjob
  later _ _ := Engine.not_concerns_fresh

namespace Strangers

theorem congr (hs : s.Strangers) (hengine : s'.engine = s.engine)
    (hjobs : ∀ job ∈ s'.jobs, job.phase = .queued → job ∈ s.jobs)
    (hnext : s.nextId ≤ s'.nextId) : s'.Strangers where
  queued job hjob hphase := hengine ▸ hs.queued job (hjobs job hjob hphase) hphase
  later who hwho := hengine ▸ hs.later who (Nat.le_trans hnext hwho)

theorem wait (hs : s.Strangers) {phase : Phase} (hphase : phase ≠ .queued) :
    (s.wait job phase).Strangers := by
  refine hs.congr rfl (fun other hother hqueued => ?_) (Nat.le_refl _)
  rcases mem_jobs_wait hother with rfl | ⟨hmem, -⟩
  · exact absurd hqueued hphase
  · exact hmem

theorem ends (hs : s.Strangers) {outcome : Except Fault Rendering}
    (hcloses : s.Closes s' job outcome) : s'.Strangers := by
  refine hs.congr hcloses.engine (fun other hother _ => ?_) (Nat.le_of_eq hcloses.nextId.symm)
  rw [hcloses.jobs, mem_othersThan] at hother
  exact hother.1

end Strangers

end State

/-- A call stays a stranger to the engine until it waits for it. -/
theorem Move.strangers (h : Move studio s marks s') (hs : s.Strangers) : s'.Strangers := by
  cases h with
  | engine step hasks =>
      have hstranger {who : Nat} (hwho : ∀ request, step ≠ .ask who request)
          (hnever : ¬ s.engine.Concerns who) :
          ¬ (s.engine.apply studio.settings.engine studio.browser s.now step).Concerns who := by
        intro hconcerns
        rcases hconcerns.of_apply with ⟨request, hask⟩ | hbefore
        · exact hwho request hask
        · exact hnever hbefore
      refine ⟨fun job hjob hphase => hstranger (fun request hask => ?_) (hs.queued job hjob hphase),
        fun who hwho => hstranger (fun request hask => ?_) (hs.later who hwho)⟩
      · rw [hask] at hasks
        exact hasks.2 job hjob rfl hphase
      · rw [hask] at hasks
        exact absurd hasks.1 (Nat.not_lt.2 hwho)
  | number => exact hs.congr rfl (fun _ hjob _ => hjob) (Nat.le_succ _)
  | reject => exact hs.congr rfl (fun _ hjob _ => hjob) (Nat.le_succ _)
  | enter ticket document options =>
      refine ⟨fun job hjob hphase => ?_, fun who hwho => hs.later who (Nat.le_of_succ_le hwho)⟩
      rcases List.mem_append.1 hjob with hjob | hjob
      · exact hs.queued job hjob hphase
      · cases List.mem_singleton.1 hjob
        exact hs.later _ (Nat.le_refl _)
  | drop id =>
      exact hs.congr rfl (fun _ hjob _ => (State.mem_othersThan.1 hjob).1) (Nat.le_refl _)
  | rasterize => exact hs.wait fun h => by cases h
  | paginate => exact hs.wait fun h => by cases h
  | save => exact hs.wait fun h => by cases h
  | hit => exact hs.ends (State.closes_hit _ _ _)
  | deliver => exact hs.ends (State.closes_deliver _ _ _ _ _)
  | fail => exact hs.ends (State.closes_finish _ _ _)
  | expire => exact hs.ends (State.closes_finish _ _ _)
  | _ => exact hs.congr rfl (fun _ hjob _ => hjob) (Nat.le_refl _)

/-! ## How a call for a printed document ends -/

/-- The ways in which a call for a printed document that has had its slot may end, given
the engine. -/
inductive Ends (e : Engine) (id : Nat) : Except Fault Rendering → Prop where
  | timedOut (ms : Nat) : Ends e id (.error (.timeout ms))
  | hit {rendering : Rendering} (h : rendering.metadata.cacheHit = true) :
      Ends e id (.ok rendering)
  | fallback {rendering : Rendering} (h : rendering.metadata.fallback = true) :
      Ends e id (.ok rendering)
  | printed {rendering : Rendering} {pdf : ByteArray} (hreply : (id, .printed pdf) ∈ e.replies) :
      Ends e id (.ok rendering)
  | misprinted {fault : Fault} (hreply : (id, .misprinted fault) ∈ e.replies) :
      Ends e id (.error fault)

/-- What such a call delivers is marked as markup in place of a document, or comes from a
print. -/
def Prints (e : Engine) (id : Nat) (conversion : Conversion) : Prop :=
  conversion.fallback = true ∨ ∃ pdf, (id, .printed pdf) ∈ e.replies

section Replies

variable {e e' : Engine}

theorem Ends.mono {outcome : Except Fault Rendering} (h : Ends e id outcome)
    (hreplies : e.replies ⊆ e'.replies) : Ends e' id outcome := by
  cases h with
  | timedOut ms => exact .timedOut ms
  | hit h => exact .hit h
  | fallback h => exact .fallback h
  | printed hreply => exact .printed (hreplies hreply)
  | misprinted hreply => exact .misprinted (hreplies hreply)

theorem Prints.mono {conversion : Conversion} (h : Prints e id conversion)
    (hreplies : e.replies ⊆ e'.replies) : Prints e' id conversion :=
  h.imp_right fun ⟨pdf, hreply⟩ => ⟨pdf, hreplies hreply⟩

theorem Prints.ends {work : Work} {conversion : Conversion} {filepath : Option String}
    (h : Prints e id conversion) :
    Ends e id (.ok (s.renderingOf job work conversion filepath)) := by
  rcases h with hfallback | ⟨pdf, hreply⟩
  · exact .fallback hfallback
  · exact .printed hreply

/-- Whoever was neither served from the cache nor ran out of time, and was not delivered
the markup, was told by the engine how his print ended. -/
theorem Ends.told_of_not_fallback {outcome : Except Fault Rendering} (h : Ends e id outcome)
    (hmissed : ∀ rendering, outcome = .ok rendering → rendering.metadata.cacheHit = false)
    (htime : ∀ ms, outcome ≠ .error (.timeout ms))
    (hmarked : ¬ ∃ rendering, outcome = .ok rendering ∧ rendering.metadata.fallback = true) :
    (∃ rendering pdf, outcome = .ok rendering ∧ (id, .printed pdf) ∈ e.replies) ∨
      ∃ fault, outcome = .error fault ∧ (id, .misprinted fault) ∈ e.replies := by
  cases h with
  | timedOut ms => exact absurd rfl (htime ms)
  | hit hhit =>
      rw [hmissed _ rfl] at hhit
      cases hhit
  | fallback h => exact absurd ⟨_, rfl, h⟩ hmarked
  | printed hreply => exact .inl ⟨_, _, rfl, hreply⟩
  | misprinted hreply => exact .inr ⟨_, rfl, hreply⟩

/-- Whoever the engine never printed for, and who neither was served from the cache nor
ran out of time, was delivered the markup. -/
theorem Ends.fallback_of_neverPrinted {outcome : Except Fault Rendering}
    (h : Ends e id outcome) (hnever : e.NeverPrinted id)
    (hmissed : ∀ rendering, outcome = .ok rendering → rendering.metadata.cacheHit = false)
    (htime : ∀ ms, outcome ≠ .error (.timeout ms)) :
    ∃ rendering, outcome = .ok rendering ∧ rendering.metadata.fallback = true := by
  by_contra hmarked
  rcases h.told_of_not_fallback hmissed htime hmarked with ⟨_, _, -, hreply⟩ | ⟨_, -, hreply⟩
  · exact hnever.noPage _ hreply
  · exact hnever.noFault _ hreply

end Replies

namespace State

/-- A call for a printed document that has its slot, or has ended. -/
structure Pursues (s : State) (id : Nat) : Prop where
  numbered : id < s.nextId
  wants : ∀ job ∈ s.jobs, job.id = id → job.options.format = .paginated
  saves : ∀ job ∈ s.jobs, job.id = id → ∀ work conversion ends,
    job.phase = .saving work conversion ends → Prints s.engine id conversion
  ends : ∀ call ∈ s.finished, call.id = id → Ends s.engine id call.outcome

namespace Pursues

/-- What a call for a printed document is converted into. -/
theorem converts {work : Work} {outcome : Except Fault Conversion} (hs : s.Pursues job.id)
    (hfitting : s.Fitting) (hknows : s.Knows job known)
    (hconverts : s.Converts studio job known work outcome) :
    (∃ conversion, outcome = .ok conversion ∧ Prints s.engine job.id conversion) ∨
      ∃ fault, outcome = .error fault ∧ (job.id, .misprinted fault) ∈ s.engine.replies := by
  obtain ⟨hmem, hid⟩ := mem_of_job? hknows.listed
  have hwants : job.options.format = .paginated := hknows.options ▸ hs.wants known hmem hid
  cases hconverts with
  | vector hphase hkey hformat =>
      rw [hwants] at hformat
      cases hformat
  | raster hphase =>
      have hfits := hknows.fits hfitting
      rw [hphase] at hfits
      cases hwants.symm.trans hfits.2
  | fallback hphase hfailed => exact .inl ⟨_, rfl, .inl rfl⟩
  | printed hphase hreply => exact .inl ⟨_, rfl, .inr ⟨_, hreply⟩⟩
  | misprinted hphase hreply => exact .inr ⟨_, rfl, hreply⟩
  | kept hphase => exact .inl ⟨_, rfl, hs.saves known hmem hid _ _ _ hphase⟩

theorem prints {work : Work} {conversion : Conversion} (hs : s.Pursues job.id)
    (hfitting : s.Fitting) (hknows : s.Knows job known)
    (hconverts : s.Converts studio job known work (.ok conversion)) :
    Prints s.engine job.id conversion := by
  rcases hs.converts hfitting hknows hconverts with ⟨_, hsame, hprints⟩ | ⟨_, hsame, -⟩
  · cases hsame
    exact hprints
  · cases hsame

theorem congr (hs : s.Pursues id) (hnext : s.nextId ≤ s'.nextId)
    (hjobs : ∀ job ∈ s'.jobs, job.id = id → job ∈ s.jobs)
    (hfinished : ∀ call ∈ s'.finished, call.id = id → call ∈ s.finished)
    (hreplies : s.engine.replies ⊆ s'.engine.replies) : s'.Pursues id where
  numbered := Nat.lt_of_lt_of_le hs.numbered hnext
  wants job hjob hid := hs.wants job (hjobs job hjob hid) hid
  saves job hjob hid work conversion ends hphase :=
    (hs.saves job (hjobs job hjob hid) hid work conversion ends hphase).mono hreplies
  ends call hcall hid := (hs.ends call (hfinished call hcall hid) hid).mono hreplies

/-- A call waits on; what it saves is fit to be saved. -/
theorem wait (hs : s.Pursues id) (hknows : s.Knows job known) {phase : Phase}
    (hsaves : job.id = id → ∀ work conversion ends, phase = .saving work conversion ends →
      Prints s.engine id conversion) : (s.wait job phase).Pursues id where
  numbered := hs.numbered
  wants other hother hid := by
    rcases mem_jobs_wait hother with rfl | ⟨hmem, -⟩
    · obtain ⟨hmem, hknown⟩ := mem_of_job? hknows.listed
      exact hknows.options ▸ hs.wants known hmem (hknown.trans hid)
    · exact hs.wants other hmem hid
  saves other hother hid work conversion ends hphase := by
    rcases mem_jobs_wait hother with rfl | ⟨hmem, -⟩
    · exact hsaves hid work conversion ends hphase
    · exact hs.saves other hmem hid work conversion ends hphase
  ends := hs.ends

/-- A call ends; if it is this one, it ends in one of the ways. -/
theorem finish {outcome : Except Fault Rendering} (hs : s.Pursues id)
    (hcloses : s.Closes s' job outcome) (hends : job.id = id → Ends s.engine id outcome) :
    s'.Pursues id where
  numbered := hcloses.nextId ▸ hs.numbered
  wants other hother hid := by
    rw [hcloses.jobs, mem_othersThan] at hother
    exact hs.wants other hother.1 hid
  saves other hother hid work conversion ends hphase := by
    rw [hcloses.jobs, mem_othersThan] at hother
    rw [hcloses.engine]
    exact hs.saves other hother.1 hid work conversion ends hphase
  ends call hcall hid := by
    rw [hcloses.finished] at hcall
    rw [hcloses.engine]
    rcases List.mem_cons.1 hcall with rfl | hcall
    · exact hends hid
    · exact hs.ends call hcall hid

end Pursues

end State

/-- Every move takes a call for a printed document closer to one of its ends. -/
theorem Move.pursues (h : Move studio s marks s') (hfitting : s.Fitting) (hs : s.Pursues id) :
    s'.Pursues id := by
  cases h with
  | engine step hasks =>
      exact hs.congr (Nat.le_refl _) (fun _ hjob _ => hjob) (fun _ hcall _ => hcall)
        (Engine.replies_subset_apply _ _ _ _ step)
  | number =>
      exact hs.congr (Nat.le_succ _) (fun _ hjob _ => hjob) (fun _ hcall _ => hcall) fun _ h => h
  | reject document options fault =>
      refine hs.congr (Nat.le_succ _) (fun _ hjob _ => hjob) (fun call hcall hid => ?_) fun _ h => h
      rcases List.mem_cons.1 hcall with rfl | hcall
      · exact absurd hid (Nat.ne_of_gt hs.numbered)
      · exact hcall
  | enter ticket document options =>
      refine hs.congr (Nat.le_succ _) (fun job hjob hid => ?_) (fun _ hcall _ => hcall) fun _ h => h
      rcases List.mem_append.1 hjob with hjob | hjob
      · exact hjob
      · cases List.mem_singleton.1 hjob
        exact absurd hid (Nat.ne_of_gt hs.numbered)
  | drop other =>
      exact hs.congr (Nat.le_refl _) (fun _ hjob _ => (State.mem_othersThan.1 hjob).1)
        (fun _ hcall _ => hcall) fun _ h => h
  | rasterize ends hknows => exact hs.wait hknows fun _ _ _ _ h => by cases h
  | paginate hknows => exact hs.wait hknows fun _ _ _ _ h => by cases h
  | save ends hknows hconverts =>
      refine hs.wait hknows fun hid work conversion ends hphase => ?_
      cases hphase
      subst hid
      exact hs.prints hfitting hknows hconverts
  | hit => exact hs.finish (State.closes_hit _ _ _) fun _ => .hit rfl
  | deliver filepath hknows hconverts =>
      refine hs.finish (State.closes_deliver _ _ _ _ _) fun hid => ?_
      subst hid
      exact (hs.prints hfitting hknows hconverts).ends
  | fail hknows hconverts =>
      refine hs.finish (State.closes_finish _ _ _) fun hid => ?_
      subst hid
      rcases hs.converts hfitting hknows hconverts with ⟨_, hsame, -⟩ | ⟨_, hsame, hreply⟩
      · cases hsame
      · cases hsame
        exact .misprinted hreply
  | expire ms => exact hs.finish (State.closes_finish _ _ _) fun _ => .timedOut ms
  | _ => exact hs.congr (Nat.le_refl _) (fun _ hjob _ => hjob) (fun _ hcall _ => hcall) fun _ h => h

namespace State

/-- What a call for a printed document that begins has for its result, whatever happens
later. -/
theorem ends_of_begins (studio : Studio) (hnumbered : s.Numbered) (hfitting : s.Fitting)
    {event : Event} (hbegins : s.begins? event = some job)
    (hformat : job.options.format = .paginated) (later : List Event)
    {outcome : Except Fault Rendering}
    (hresult : (s.run studio (event :: later)).result? job.id = some outcome) :
    Ends (s.run studio (event :: later)).engine job.id outcome := by
  obtain ⟨mid, hmoves, -, -, -, -, hknows, hphase, hstep⟩ :=
    step_of_begins studio hnumbered.jobs hbegins
  have hmidNumbered := hmoves.preserve Move.numbered hnumbered
  have hmidFitting := hmoves.preserve Move.fitting hfitting
  have hmid : mid.Pursues job.id := by
    refine ⟨hknows.id_lt hmidNumbered.jobs, fun other hother hid => ?_,
      fun other hother hid work conversion ends hsaving => ?_,
      fun call hcall hid => absurd hid (hmidNumbered.not_mem_finished hknows hcall)⟩
    · rw [hmidNumbered.eq_known hknows hother hid]
      exact hformat
    · rw [hmidNumbered.eq_known hknows hother hid, hphase] at hsaving
      cases hsaving
  have hkept {s s' : State} {marks : List Mark} (hmove : Move studio s marks s')
      (h : s.Fitting ∧ s.Pursues job.id) : s'.Fitting ∧ s'.Pursues job.id :=
    ⟨hmove.fitting h.1, hmove.pursues h.1 h.2⟩
  have hled : Leads studio mid (s.step studio event) :=
    hstep ▸ leads_begin hmidNumbered.jobs hknows hphase
  have hbegun := hled.preserve hkept ⟨hmidFitting, hmid⟩
  have hlast := (run_moves (hnumbered.step event) studio later).preserve hkept hbegun
  obtain ⟨call, hcall, hid, rfl⟩ := mem_finished_of_result? hresult
  exact hlast.2.ends call hcall hid

theorem Strangers.run (hs : s.Strangers) (hnumbered : s.Numbered) (studio : Studio)
    (events : List Event) : (s.run studio events).Strangers :=
  (run_moves hnumbered studio events).preserve Move.strangers hs

/-- A call that begins has had nothing to do with the engine. -/
theorem not_concerns_of_begins (studio : Studio) (hnumbered : s.Numbered)
    (hstrangers : s.Strangers) {event : Event} (hbegins : s.begins? event = some job) :
    ¬ s.engine.Concerns job.id := by
  obtain ⟨mid, hmoves, -, -, hengine, -, hknows, hphase, -⟩ :=
    step_of_begins studio hnumbered.jobs hbegins
  have hmid := hmoves.preserve Move.strangers hstrangers
  exact hengine ▸ hmid.queued job (mem_of_job? hknows.listed).1 hphase

end State

end CanvasPress.Press

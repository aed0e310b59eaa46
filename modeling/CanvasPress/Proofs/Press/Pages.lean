/-
# The pages that are printed for a call

A call for a printed document hands one page to the browser, the page around its composed
markup, and what it delivers is what the browser has returned for that.  What is handed over
is counted along a run, since the engine forgets a print that has ended.

The count is kept by phases.  Nothing was handed over for a call that has not come yet or
waits for its slot, because the engine does not know it.  While a call waits for the engine,
the prints under way for it are all there were.  When it has been answered there are no
more, because nobody has two dealings with the engine.
-/

import CanvasPress.Proofs.Engine.Handover
import CanvasPress.Proofs.Press.Misprints
import CanvasPress.Proofs.Press.Provenance

namespace CanvasPress.Press

variable {studio : Studio} {s s' : State} {job known : Job} {fate : Fate} {id : Nat} {event : Event}
  {engine : Engine} {marks : List Mark} {svg : String} {body : Body} {turn : Engine.Step}
  {handed : List Engine.Printing}

/-! ## Before a call begins -/

/-- The call with a number has not come yet, or waits for its slot. -/
def State.Outside (s : State) (id : Nat) : Prop :=
  s.nextId ≤ id ∨ ∃ job ∈ s.jobs, job.id = id ∧ job.phase = .queued

theorem State.Strangers.not_concerns (hs : s.Strangers) (hout : s.Outside id) :
    ¬ s.engine.Concerns id := by
  rcases hout with hlater | ⟨job, hjob, rfl, hphase⟩
  · exact hs.later id hlater
  · exact hs.queued job hjob hphase

/-- Whoever is outside after a move was so before. -/
theorem Move.outside (h : Move studio s marks s') (hout : s'.Outside id) : s.Outside id := by
  have hstays (hjobs : ∀ job ∈ s'.jobs, job.phase = .queued → job ∈ s.jobs)
      (hnext : s.nextId ≤ s'.nextId) : s.Outside id := by
    rcases hout with hlater | ⟨job, hjob, hid, hphase⟩
    · exact .inl (Nat.le_trans hnext hlater)
    · exact .inr ⟨job, hjobs job hjob hphase, hid, hphase⟩
  have hwaits {phase : Phase} {job : Job} (hphase : phase ≠ .queued)
      (hjobs : s'.jobs = (s.wait job phase).jobs) : ∀ other ∈ s'.jobs,
        other.phase = .queued → other ∈ s.jobs := by
    intro other hother hqueued
    rw [hjobs] at hother
    rcases State.mem_jobs_wait hother with rfl | ⟨hmem, -⟩
    · exact absurd hqueued hphase
    · exact hmem
  have hcloses {job : Job} {outcome : Except Fault Rendering}
      (hends : s.Closes s' job outcome) : s.Outside id := by
    refine hstays (fun other hother _ => ?_) (Nat.le_of_eq hends.nextId.symm)
    rw [hends.jobs, State.mem_othersThan] at hother
    exact hother.1
  cases h with
  | number => exact hstays (fun _ hjob _ => hjob) (Nat.le_succ _)
  | reject => exact hstays (fun _ hjob _ => hjob) (Nat.le_succ _)
  | enter ticket document options =>
      rcases hout with hlater | ⟨job, hjob, hid, hphase⟩
      · exact .inl (Nat.le_of_succ_le hlater)
      · rcases List.mem_append.1 hjob with hjob | hjob
        · exact .inr ⟨job, hjob, hid, hphase⟩
        · cases List.mem_singleton.1 hjob
          exact .inl (Nat.le_of_eq hid)
  | drop other => exact hstays (fun _ hjob _ => (State.mem_othersThan.1 hjob).1) (Nat.le_refl _)
  | rasterize => exact hstays (hwaits (fun heq => by cases heq) rfl) (Nat.le_refl _)
  | paginate => exact hstays (hwaits (fun heq => by cases heq) rfl) (Nat.le_refl _)
  | save => exact hstays (hwaits (fun heq => by cases heq) rfl) (Nat.le_refl _)
  | hit => exact hcloses (State.closes_hit _ _ _)
  | deliver => exact hcloses (State.closes_deliver _ _ _ _ _)
  | fail => exact hcloses (State.closes_finish _ _ _)
  | expire => exact hcloses (State.closes_finish _ _ _)
  | _ => exact hstays (fun _ hjob _ => hjob) (Nat.le_refl _)

theorem State.outside_of_step (hs : s.Numbered) (hout : (s.step studio event).Outside id) :
    s.Outside id := by
  by_contra hinside
  exact (step_moves hs.jobs event).preserve
    (P := fun s => ¬ s.Outside id) (fun hmove hbefore hafter => hbefore (hmove.outside hafter))
    hinside hout

/-! ## What is handed over -/

/-- The prints of a call that begin in a run, in order. -/
def State.begunFor (studio : Studio) (id : Nat) : State → List Event → List Engine.Printing
  | _, [] => []
  | s, event :: rest =>
    s.engine.begunFor (s.step studio event).engine id ++
      begunFor studio id (s.step studio event) rest

/-- One page was handed to the browser, the one around some markup, and the browser has
returned the body. -/
def IsPrintOf (browser : Browser) (svg : String) (body : Body) (handed : List Engine.Printing) :
    Prop :=
  ∃ p pdf, handed = [p] ∧ (p.html, p.page) = (Page.around svg, .a4Landscape) ∧
    (browser.print p.number p.html p.page).ending = .returned pdf ∧ body = .text pdf

/-- Some body comes from the one print that there is for a caller, and the engine has
answered him. -/
structure Shown (browser : Browser) (e : Engine) (id : Nat) (svg : String) (body : Body)
    (handed : List Engine.Printing) : Prop where
  answered : ∃ answer, (id, answer) ∈ e.replies
  print : IsPrintOf browser svg body handed

/-- Whoever has been answered is handed nothing more. -/
theorem Shown.append (h : Shown studio.browser s.engine id svg body handed)
    (hreplies : s.engine.replies ⊆ engine.replies) (hsingle : engine.dealings id ≤ 1) :
    Shown studio.browser engine id svg body (handed ++ s.engine.begunFor engine id) := by
  obtain ⟨answer, hanswer⟩ := h.answered
  have hkept := hreplies hanswer
  rw [Engine.begunFor_of_answered hsingle hkept, List.append_nil]
  exact ⟨⟨answer, hkept⟩, h.print⟩

/-- A conversion for a call is shown where it is a printed document. -/
def Work.Shows (studio : Studio) (e : Engine) (job : Job) (handed : List Engine.Printing)
    (conversion : Conversion) (work : Work) : Prop :=
  conversion.format = .paginated →
    Shown studio.browser e job.id (studio.svg job.document job.options work.generatedAt)
      conversion.body handed

/-- What a call has made is shown where it is a printed document. -/
def Finished.Shows (studio : Studio) (e : Engine) (handed : List Engine.Printing)
    (call : Finished) : Prop :=
  ∀ rendering, call.Stores rendering → rendering.format = .paginated →
    Shown studio.browser e call.id
      (studio.svg call.document call.options rendering.metadata.generatedAt) rendering.body handed

/-- What was handed over for a call that waits in a phase. -/
def Phase.Hands (studio : Studio) (e : Engine) (job : Job) (handed : List Engine.Printing) :
    Phase → Prop
  | .queued => True
  | .rastering _ _ => True
  | .paginating _ => e.printsFor job.id = handed
  | .saving work conversion _ => work.Shows studio e job handed conversion

/-- What was handed over for a call that has its turn. -/
def Fate.Hands (studio : Studio) (e : Engine) (job : Job) (handed : List Engine.Printing) :
    Fate → Prop
  | .waits phase => phase.Hands studio e job handed
  | .served _ => True
  | .delivered work conversion _ => work.Shows studio e job handed conversion
  | .failed _ => True

theorem hands_fateOf {e : Engine} {work : Work} {outcome : Except Fault Conversion}
    (h : ∀ conversion, outcome = .ok conversion → work.Shows studio e job handed conversion)
    (now : Nat) : (State.fateOf studio now work outcome).Hands studio e job handed := by
  cases outcome with
  | error fault => trivial
  | ok conversion =>
      simp only [State.fateOf]
      cases studio.settings.outputPath with
      | none => exact h conversion rfl
      | some _ => exact h conversion rfl

/-- A document that the engine has answered with is what comes of the one print that was
under way. -/
theorem shown_of_answer {work : Work} {answer : Engine.Reply} {conversion : Conversion}
    (hsingle : s.engine.dealings job.id ≤ 1)
    (hreplies : engine.replies = (job.id, answer) :: s.engine.replies)
    (hgrounds : Engine.Grounds studio.browser s.engine.printing engine job.id answer)
    (hprints : ∀ p ∈ s.engine.printing, p.caller = job.id → (p.html, p.page) = work.page)
    (hhanded : s.engine.printsFor job.id = handed)
    (hconverted : work.converted? job.options answer = some (.ok conversion))
    (hformat : conversion.format = .paginated) :
    Shown studio.browser engine job.id work.svg conversion.body handed := by
  refine ⟨⟨answer, hreplies ▸ List.mem_cons_self⟩, ?_⟩
  cases hgrounds with
  | unavailable hstatus =>
      cases hconverted
      cases hformat
  | @printed p pdf hp hcaller hresult =>
      cases hconverted
      rw [Engine.printsFor_of_single hsingle hp hcaller] at hhanded
      exact ⟨p, pdf, hhanded.symm, hprints p hp hcaller, Conversion.printed_eq_ok_iff.1 hresult,
        rfl⟩
  | _ => cases hconverted

namespace State

/-- What was handed over for the call with a number, in progress or on record. -/
structure Handed (studio : Studio) (s : State) (id : Nat) (handed : List Engine.Printing) :
    Prop where
  jobs : ∀ job ∈ s.jobs, job.id = id → job.phase.Hands studio s.engine job handed
  calls : ∀ call ∈ s.finished, call.id = id → call.Shows studio s.engine handed

theorem handed_fresh (studio : Studio) (settings : Settings) (governor : Governor) (id : Nat) :
    (fresh settings governor).Handed studio id [] where
  jobs _ hjob := absurd hjob List.not_mem_nil
  calls _ hcall := absurd hcall List.not_mem_nil

/-- A call has its turn, with what was handed over for it. -/
theorem handed_fulfil
    (hothers : ∀ other ∈ s.jobs, other.id = id → other.id ≠ job.id →
      other.phase.Hands studio s.engine other handed)
    (hcalls : ∀ call ∈ s.finished, call.id = id → call.Shows studio s.engine handed)
    (hmine : job.id = id → fate.Hands studio s.engine job handed) :
    (s.fulfil job fate).Handed studio id handed := by
  rcases fate.waits_or_ends s job with ⟨phase, rfl⟩ | ⟨outcome, houtcome⟩
  · refine ⟨fun other hother hid => ?_, hcalls⟩
    rcases mem_jobs_wait hother with rfl | ⟨hmem, hne⟩
    · exact hmine hid
    · exact hothers other hmem hid hne
  · have hends := releases_fulfil houtcome
    refine ⟨fun other hother hid => ?_, fun call hcall hid rendering hstores hformat => ?_⟩
    · rw [hends.jobs, mem_othersThan] at hother
      rw [hends.engine]
      exact hothers other hother.1 hid hother.2
    · rw [hends.engine]
      rw [hends.finished] at hcall
      rcases List.mem_cons.1 hcall with rfl | hcall
      · -- Only a delivery makes something: what is served is marked as such.
        obtain ⟨hreturned, hnew⟩ := hstores
        cases fate with
        | waits phase => cases houtcome
        | served stored =>
            cases houtcome
            cases hreturned
            cases hnew
        | delivered work conversion filepath =>
            cases houtcome
            cases hreturned
            obtain rfl : job.id = id := hid
            exact hmine rfl hformat
        | failed fault =>
            cases houtcome
            cases hreturned
      · exact hcalls call hcall hid rendering hstores hformat

namespace Handed

theorem fulfil (h : s.Handed studio id handed)
    (hmine : job.id = id → fate.Hands studio s.engine job handed) :
    (s.fulfil job fate).Handed studio id handed :=
  handed_fulfil (fun other hother hid _ => h.jobs other hother hid) h.calls hmine

/-- Calls in progress and calls that have ended are all that matters beside the engine. -/
theorem congr (h : s.Handed studio id handed) (hengine : s'.engine = s.engine)
    (hjobs : s'.jobs ⊆ s.jobs) (hfinished : s'.finished = s.finished) :
    s'.Handed studio id handed where
  jobs job hjob := hengine ▸ h.jobs job (hjobs hjob)
  calls call hcall := hengine ▸ h.calls call (hfinished ▸ hcall)

end Handed

/-! ## Steps of the engine -/

/-- A call that waits on while the engine takes a step, and is neither answered nor leaves,
is handed what begins for it. -/
theorem hands_of_apply {phase : Phase}
    (hengine : s.engine.apply studio.settings.engine studio.browser s.now turn = engine)
    (hsingle : engine.dealings job.id ≤ 1) (h : phase.Hands studio s.engine job handed)
    (hwaits : ∀ work, phase = .paginating work → turn ≠ .leave job.id ∧
      ∀ answer : Engine.Reply, answer.IsFinal →
        engine.replies ≠ (job.id, answer) :: s.engine.replies) :
    phase.Hands studio engine job (handed ++ s.engine.begunFor engine job.id) := by
  subst hengine
  cases phase with
  | queued => trivial
  | rastering work ends => trivial
  | paginating work =>
      obtain ⟨hleave, hunheard⟩ := hwaits work rfl
      have hunder : s.engine.printsFor job.id = handed := h
      rw [← hunder]
      exact (Engine.turns_apply _ _ _ _ turn).printsFor_eq hsingle hleave hunheard
  | saving work conversion ends =>
      intro hformat
      exact (h hformat).append (Engine.replies_subset_apply _ _ _ _ turn) hsingle

namespace Handed

/-- What a call has delivered stays what it was, whatever the engine does. -/
theorem calls_of_apply (h : s.Handed studio id handed)
    (hengine : s.engine.apply studio.settings.engine studio.browser s.now turn = engine)
    (hsingle : engine.dealings id ≤ 1) : ∀ call ∈ s.finished, call.id = id →
      call.Shows studio engine (handed ++ s.engine.begunFor engine id) := by
  subst hengine
  rintro call hcall rfl rendering hstores hformat
  exact (h.calls call hcall rfl rendering hstores hformat).append
    (Engine.replies_subset_apply _ _ _ _ turn) hsingle

/-- The engine takes a step, and a call hears from it or none does. -/
theorem stirred (turn : Engine.Step) (hstirred : s.Stirred studio engine s')
    (hengine : s.engine.apply studio.settings.engine studio.browser s.now turn = engine)
    (hleave : turn ≠ .leave id) (hs : s.Numbered) (htruthful : s.Truthful studio)
    (hown : s.PrintsOwn id) (hbefore : s.engine.dealings id ≤ 1) (hafter : engine.dealings id ≤ 1)
    (h : s.Handed studio id handed) :
    s'.Handed studio id (handed ++ s.engine.begunFor engine id) := by
  have hcalls := h.calls_of_apply hengine hafter
  cases hstirred with
  | unheard lines hunheard =>
      refine ⟨fun job hjob hid => ?_, hcalls⟩
      subst hid
      refine hands_of_apply hengine hafter (h.jobs job hjob rfl) fun work hphase => ⟨hleave, ?_⟩
      intro answer hfinal hreplies
      have hdeaf := hunheard job.id answer hreplies job work (job?_of_mem hs hjob) hphase
      exact converted?_of_isFinal hfinal work job.options hdeaf
  | @heard lines heard work answer outcome hjob hphase hreplies hgrounds hconverted =>
      refine handed_fulfil (fun other hother hid hne => ?_) hcalls fun hid => ?_
      · subst hid
        refine hands_of_apply hengine hafter (h.jobs other hother rfl) fun work hphase =>
          ⟨hleave, fun answer hfinal hsame => ?_⟩
        have htwice := hreplies.symm.trans hsame
        exact hne (congrArg Prod.fst (List.cons.inj htwice).1).symm
      · subst hid
        have hmem := (mem_of_job? hjob).1
        have hunder : s.engine.printsFor heard.id = handed := by
          have hhands := h.jobs heard hmem rfl
          rwa [hphase] at hhands
        have hwork := htruthful.jobs heard hmem
        rw [hphase] at hwork
        have hnothing : s.engine.begunFor engine heard.id = [] := by
          subst hengine
          exact Engine.begunFor_of_begun
            ((Engine.turns_apply _ _ _ _ turn).begun_of_reply hreplies)
        rw [hnothing, List.append_nil]
        refine hands_fateOf (fun conversion hok hformat => ?_) _
        rw [hok] at hconverted
        rw [← hwork.1.svg]
        exact shown_of_answer hbefore hreplies hgrounds (hown heard hmem rfl work hphase) hunder
          hconverted hformat

/-- A call begins to work, before anything was handed over for it. -/
theorem started (hstarted : s.Started studio job s') (hs : s.Numbered)
    (hknows : s.Knows job known) (htruthful : s.Truthful studio) (hown : s.PrintsOwn id)
    (hstranger : ¬ s.engine.Concerns job.id) (hnew : job.id = id → handed = [])
    (hbefore : s.engine.dealings id ≤ 1) (hafter : s'.engine.dealings id ≤ 1)
    (h : s.Handed studio id handed) :
    s'.Handed studio id (handed ++ s.engine.begunFor s'.engine id) := by
  have hsearched (lines : List LogLine) : (s.searched job lines).Handed studio id handed :=
    ⟨h.jobs, h.calls⟩
  cases hstarted with
  | opens lines hfate =>
      rw [engine_fulfil]
      have hnothing : s.engine.begunFor (s.searched job lines).engine id = [] :=
        Engine.begunFor_of_begun (Engine.begun_of_subset (List.Subset.refl _))
      rw [hnothing, List.append_nil]
      refine (hsearched lines).fulfil fun hid => ?_
      cases hfate with
      | served hcache hhit => trivial
      | vector hformat =>
          refine hands_fateOf (fun conversion hok hprinted => ?_) _
          cases hok
          cases hprinted
      | raster hformat => trivial
  | asks lines hformat hstirred =>
      rw [engine_stirred hstirred] at hafter ⊢
      have hlisted : (s.searched job lines).Numbered := hs.congr rfl rfl rfl
      have hwork : (s.workFor studio job).IsFor studio job.document job.options := ⟨rfl, rfl⟩
      have htrue : (s.searched job lines).Truthful studio := ⟨htruthful.jobs, htruthful.calls⟩
      have hwaits : ((s.searched job lines).fulfil job
          (.waits (.paginating (s.workFor studio job)))).Handed studio id handed := by
        refine (hsearched lines).fulfil fun hid => ?_
        change s.engine.printsFor job.id = handed
        rw [hnew hid, Engine.printsFor_of_not_concerns hstranger]
      have hworks : ((s.searched job lines).fulfil job
          (.waits (.paginating (s.workFor studio job)))).Truthful studio :=
        htrue.fulfil ⟨hwork, hformat⟩
      have hasked := hwaits.stirred (.ask job.id _) hstirred rfl (fun heq => by cases heq)
        (hlisted.wait (hknows.congr rfl) _) hworks (hown.wait hstranger _) hbefore hafter
      exact hasked

theorem entered (h : s.Handed studio id handed) (document : Document) (options : RenderOptions) :
    (s.entered document options).Handed studio id handed := by
  refine ⟨fun job hjob hid => ?_, h.calls⟩
  rcases List.mem_append.1 hjob with hjob | hjob
  · exact h.jobs job hjob hid
  · rw [List.mem_singleton.1 hjob]
    trivial

theorem reject (h : s.Handed studio id handed) (document : Document) (options : RenderOptions)
    (fault : Fault) : (s.reject document options fault).Handed studio id handed := by
  refine ⟨h.jobs, fun call hcall hid rendering hstores hformat => ?_⟩
  rcases List.mem_cons.1 hcall with rfl | hcall
  · obtain ⟨hreturned, -⟩ := hstores
    cases hreturned
  · exact h.calls call hcall hid rendering hstores hformat

/-- Every event adds what begins for the call. -/
theorem step (hs : s.Steady studio) (htruthful : s.Truthful studio) (hsingle : s.IsSingle)
    (hnew : s.Outside id → handed = []) (h : s.Handed studio id handed) (event : Event) :
    (s.step studio event).Handed studio id
      (handed ++ s.engine.begunFor (s.step studio event).engine id) := by
  have hhappens := happens_step studio s event
  have hnumbered := hs.sound.numbered
  have hown := hs.attended.printsOwn id
  have hbefore := hsingle id
  have hafter := hsingle.step hs.strangers studio event id
  generalize s.step studio event = s' at hhappens hafter ⊢
  -- Where the engine is left alone, or somebody leaves it, no print begins.
  have hsame (hengine : s'.engine = s.engine) (h' : s'.Handed studio id handed) :
      s'.Handed studio id (handed ++ s.engine.begunFor s'.engine id) := by
    have hnothing : s.engine.begunFor s'.engine id = [] :=
      Engine.begunFor_of_begun (Engine.begun_of_subset (hengine ▸ List.Subset.refl _))
    rwa [hnothing, List.append_nil]
  have hleaves (who : Nat) : s.engine.apply studio.settings.engine studio.browser s.now
      (.leave who) = s.engine.leave who := rfl
  have hlate (who : Nat) : (s.engine.leave who).dealings id ≤ 1 :=
    Nat.le_trans (Engine.dealings_leave_le who id) hbefore
  have hstays {who : Nat} {other : Job} (hmem : other ∈ s.jobs) (hid : other.id = id)
      (hne : other.id ≠ who) : other.phase.Hands studio (s.engine.leave who) other
        (handed ++ s.engine.begunFor (s.engine.leave who) id) := by
    subst hid
    refine hands_of_apply (hleaves who) (hlate who) (h.jobs other hmem rfl)
      fun work hphase => ⟨fun heq => hne (Engine.Step.leave.inj heq).symm, ?_⟩
    exact fun answer hfinal hreplies => List.cons_ne_self _ _ hreplies.symm
  have hcalls (who : Nat) := h.calls_of_apply (hleaves who) (hlate who)
  have hgoverned (governor : Governor) :
      ({ s with governor := governor } : State).Handed studio id handed := ⟨h.jobs, h.calls⟩
  cases hhappens with
  | idle => exact hsame rfl h
  | invalid hinvalid => exact hsame rfl (h.reject _ _ _)
  | refused hvalid hrefused => exact hsame rfl ((hgoverned _).reject _ _ _)
  | queued lines hvalid hqueued =>
      exact hsame rfl ((h.entered _ _).congr rfl (List.Subset.refl _) rfl)
  | @admitted document options _ hvalid hgranted hstarted =>
      have hattended := hs.attended.entered document options
      have hbegins := (h.entered document options).started hstarted
        (hnumbered.entered studio document options)
        (knows_caller hnumbered.jobs studio document options) (htruthful.entered document options)
        (hattended.printsOwn id) (hs.strangers.later _ (Nat.le_refl _))
        (fun hid => hnew (.inl (Nat.le_of_eq hid))) hbefore hafter
      exact hbegins
  | @called job _ hjob hphase hpromised hstarted =>
      have hmem := (mem_of_job? hjob).1
      have hpolled : ({ s with governor := s.governor.poll job.ticket } : State).Numbered :=
        hnumbered.congr rfl rfl rfl
      have hbegins := (hgoverned _).started hstarted hpolled ⟨hjob, rfl, rfl⟩
        ⟨htruthful.jobs, htruthful.calls⟩ hown (hs.strangers.queued job hmem hphase)
        (fun hid => hnew (.inr ⟨job, hmem, hid, hphase⟩)) hbefore hafter
      exact hbegins
  | @rasterized job work ends hjob hphase =>
      refine hsame (engine_fulfil _ _ _) (h.fulfil fun _ => hands_fateOf ?_ _)
      intro conversion hok hformat
      obtain ⟨image, rfl⟩ := Conversion.exists_eq_of_raster hok
      cases hformat
  | @saved job work conversion ends lines filepath hjob hphase =>
      have hreported : (s.report lines).Handed studio id handed := ⟨h.jobs, h.calls⟩
      refine hsame (engine_fulfil _ _ _) (hreported.fulfil fun hid => ?_)
      have hhands := h.jobs job (mem_of_job? hjob).1 hid
      rw [hphase] at hhands
      exact hhands
  | @expired job ms hjob hlimit hphase =>
      rw [engine_fulfil]
      exact handed_fulfil (fun other hmem hid hne => hstays hmem hid hne) (hcalls _)
        fun _ => trivial
  | left hjob =>
      refine ⟨fun other hother hid => ?_, hcalls _⟩
      obtain ⟨hmem, hne⟩ := mem_othersThan.1 hother
      exact hstays hmem hid hne
  | @absent who hjob =>
      refine ⟨fun other hother hid => hstays hother hid fun hsame => ?_, hcalls _⟩
      have hlisted := job?_of_mem hnumbered hother
      rw [hsame, hjob] at hlisted
      cases hlisted
  | @stirred event step _ hstep hstirred =>
      obtain ⟨-, hleave⟩ := ne_of_engineStep? hstep id
      rw [engine_stirred hstirred] at hafter ⊢
      exact h.stirred step hstirred rfl hleave hnumbered htruthful hown hbefore hafter
  | @asked request _ hstirred =>
      rw [engine_stirred hstirred] at hafter ⊢
      have hnumber : ({ s with nextId := s.nextId + 1 } : State).Handed studio id handed :=
        ⟨h.jobs, h.calls⟩
      have hasked := hnumber.stirred (.ask s.nextId request) hstirred rfl (fun heq => by cases heq)
        (hnumbered.next studio) ⟨htruthful.jobs, htruthful.calls⟩ hown hbefore hafter
      exact hasked
  | held =>
      have hheld : s.hold.2.engine = s.engine ∧ s.hold.2.Handed studio id handed := by
        rw [hold_eq]
        exact ⟨rfl, hgoverned _⟩
      exact hsame hheld.1 hheld.2
  | _ => exact hsame rfl ⟨h.jobs, h.calls⟩

theorem run (hs : s.Steady studio) (htruthful : s.Truthful studio) (hsingle : s.IsSingle)
    (hnew : s.Outside id → handed = []) (h : s.Handed studio id handed) (events : List Event) :
    (s.run studio events).Handed studio id (handed ++ s.begunFor studio id events) := by
  induction events generalizing s handed with
  | nil => rwa [begunFor, List.append_nil]
  | cons event rest ih =>
      have hsteady := hs.step event
      have hlater : (s.step studio event).Outside id →
          handed ++ s.engine.begunFor (s.step studio event).engine id = [] := by
        intro hout
        rw [hnew (outside_of_step hs.sound.numbered hout),
          Engine.begunFor_of_not_concerns (hsteady.strangers.not_concerns hout)]
        rfl
      rw [begunFor, ← List.append_assoc]
      exact ih hsteady (htruthful.step hs event) (hsingle.step hs.strangers studio event) hlater
        (h.step hs htruthful hsingle hnew event)

end Handed

/-- What an opened press has handed over for a call in any run. -/
theorem handed_run {settings : Settings} {around : Surroundings} {start : State}
    (hopen : openWith settings around = .ok (studio, start)) (events : List Event) (id : Nat) :
    (start.run studio events).Handed studio id (start.begunFor studio id events) := by
  have hsteady := steady_of_openWith hopen
  obtain ⟨-, governor, rfl⟩ := fresh_of_openWith hopen
  exact (handed_fresh studio settings governor id).run hsteady
    (Truthful.fresh studio settings governor) (isSingle_fresh settings governor) (fun _ => rfl)
    events

end State

end CanvasPress.Press

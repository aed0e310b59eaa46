/-
# What becomes of a call on its own

Without a cache and without limits, with a browser that prints the same page in the same
way each time and one painter for all calls, the result of a call follows from its course:
its document and options, the time of day at which it begins to work, and what comes of the
engine.  The other calls decide when it begins, and nothing else.

A run in which nobody asks for the end of the engine takes a call that has arrived along its
course, event by event.
-/

import CanvasPress.Proofs.Engine.Outlook
import CanvasPress.Proofs.Press.Accounts
import CanvasPress.Proofs.Press.Progress

namespace CanvasPress

/-- The browser prints the same page in the same way each time, if not in the same time. -/
def Browser.PrintsAlike (browser : Browser) : Prop :=
  ∀ number html page,
    (browser.print number html page).ending = (browser.print 0 html page).ending

/-- An artifact apart from its name and the circumstances of its making. -/
structure Content where
  format : Format
  fallback : Bool
  bytes : ByteArray

def Conversion.content (conversion : Conversion) : Content :=
  ⟨conversion.format, conversion.fallback, conversion.body.bytes⟩

def Rendering.content (rendering : Rendering) : Content :=
  ⟨rendering.format, rendering.metadata.fallback, rendering.body.bytes⟩

namespace Press

variable {studio : Studio} {s s' : State} {job known : Job} {fate : Fate} {id : Nat} {event : Event}
  {engine : Engine} {coming : Engine.Status} {document : Document} {options : RenderOptions}
  {began : Option Timestamp}

/-! ## Courses -/

/-- All that the result of a call depends on, apart from the press. -/
structure Course where
  document : Document
  options : RenderOptions
  /-- The time of day at which the call begins to work. -/
  time : Timestamp
  /-- What comes of the engine. -/
  coming : Engine.Status

namespace Course

variable {course : Course} {work : Work}

/-- The composed markup. -/
def svg (studio : Studio) (course : Course) : String :=
  course.document.compose (studio.templates.get course.document.kind course.options.theme)
    course.options course.time

/-- What the document is converted into. -/
def conversion (studio : Studio) (course : Course) : Except Fault Conversion :=
  match course.options.format with
  | .vector => .ok (.vector (course.svg studio) false)
  | .raster =>
    Conversion.raster (studio.painter 0) (course.svg studio) course.options
      studio.settings.rasterQuality
  | .paginated =>
    match course.coming with
    | .ready =>
      (Conversion.printed
        (studio.browser.print 0 (Page.around (course.svg studio)) .a4Landscape).ending).map
          fun pdf => .paginated pdf course.options
    | _ => .ok (.vector (course.svg studio) true)

/-- The result of the call, as far as it does not tell about other calls. -/
def result (studio : Studio) (course : Course) : Except Fault Content :=
  (course.conversion studio).map Conversion.content

/-- The work that the call begins with. -/
structure IsWork (studio : Studio) (course : Course) (work : Work) : Prop where
  time : work.generatedAt = course.time
  svg : work.svg = course.svg studio

/-- The call may wait in a phase once it works. -/
def Reaches (studio : Studio) (course : Course) : Phase → Prop
  | .queued => False
  | .rastering work _ => course.IsWork studio work ∧ course.options.format = .raster
  | .paginating work => course.IsWork studio work ∧ course.options.format = .paginated
  | .saving work conversion _ =>
    work.generatedAt = course.time ∧ course.conversion studio = .ok conversion

/-- The call may be listed in this way once it works. -/
def Lists (studio : Studio) (course : Course) (job : Job) : Prop :=
  job.options = course.options ∧ course.Reaches studio job.phase

/-- The call may end in this way. -/
def Yields (studio : Studio) (course : Course) (outcome : Except Fault Rendering) : Prop :=
  outcome.map Rendering.content = course.result studio ∧
    ∀ rendering, outcome = .ok rendering → rendering.metadata.generatedAt = course.time

/-- What may become of the call when it has its turn. -/
def Leads (studio : Studio) (course : Course) : Fate → Prop
  | .waits phase => course.Reaches studio phase
  | .served _ => False
  | .delivered work conversion _ =>
    work.generatedAt = course.time ∧ course.conversion studio = .ok conversion
  | .failed fault => course.conversion studio = .error fault

theorem Leads.yields {outcome : Except Fault Rendering} (h : course.Leads studio fate)
    (houtcome : fate.outcome? s job = some outcome) : course.Yields studio outcome := by
  cases fate with
  | waits phase => cases houtcome
  | served rendering => exact h.elim
  | delivered work conversion filepath =>
      cases houtcome
      refine ⟨?_, fun rendering hrendering => ?_⟩
      · rw [result, h.2]
        rfl
      · cases hrendering
        exact h.1
  | failed fault =>
      cases houtcome
      have hfails : course.conversion studio = .error fault := h
      refine ⟨?_, fun rendering hrendering => by cases hrendering⟩
      rw [result, hfails]
      rfl

/-- A call whose conversion has ended as it must goes on as it may. -/
theorem leads_fateOf {outcome : Except Fault Conversion} (htime : work.generatedAt = course.time)
    (houtcome : course.conversion studio = outcome) (now : Nat) :
    course.Leads studio (State.fateOf studio now work outcome) := by
  cases outcome with
  | error fault => exact houtcome
  | ok conversion =>
      simp only [State.fateOf]
      cases studio.settings.outputPath with
      | none => exact ⟨htime, houtcome⟩
      | some _ => exact ⟨htime, houtcome⟩

theorem conversion_of_raster (hwork : course.IsWork studio work)
    (hformat : course.options.format = .raster) : course.conversion studio =
      Conversion.raster (studio.painter 0) work.svg course.options
        studio.settings.rasterQuality := by
  simp only [conversion, hformat, hwork.svg]

/-- An answer of the engine with its grounds makes of the call what it must. -/
theorem conversion_of_answer {answer : Engine.Reply} {outcome : Except Fault Conversion} {who : Nat}
    (halike : studio.browser.PrintsAlike) (hwork : course.IsWork studio work)
    (hformat : course.options.format = .paginated)
    (hgrounds : Engine.Grounds studio.browser s.engine.printing engine who answer)
    (hfailed : ∀ reason, engine.status = .failed reason → course.coming = .failed reason)
    (hprints : ∀ p ∈ s.engine.printing, p.caller = who →
      course.coming = .ready ∧ (p.html, p.page) = work.page)
    (hconverted : work.converted? course.options answer = some outcome) :
    course.conversion studio = outcome := by
  have hprinted {p : Engine.Printing} (hp : p ∈ s.engine.printing) (hcaller : p.caller = who) :
      course.conversion studio =
        (p.result studio.browser).map fun pdf => .paginated pdf course.options := by
    obtain ⟨hready, hpage⟩ := hprints p hp hcaller
    obtain ⟨hhtml, hsize⟩ := Prod.mk.inj hpage
    simp only [conversion, hformat, hready, ← hwork.svg, Engine.Printing.result, halike p.number,
      hhtml, hsize]
  cases hgrounds with
  | unavailable hstatus =>
      cases hconverted
      simp only [conversion, hformat, hfailed _ hstatus, hwork.svg]
  | printed hp hcaller hresult =>
      cases hconverted
      rw [hprinted hp hcaller, hresult]
      rfl
  | misprinted hp hcaller hresult =>
      cases hconverted
      rw [hprinted hp hcaller, hresult]
      rfl
  | _ => cases hconverted

end Course

/-! ## Presses in which nothing interferes -/

/-- Calls have no limits, the browser is reliable in what it prints, and it does not depend on
the call who paints. -/
structure Studio.IsPlain (studio : Studio) : Prop where
  untimed : studio.settings.renderTimeoutMs = none
  unlimited : studio.settings.maxQueueDepth = none
  alike : studio.browser.PrintsAlike
  painter : ∀ id, studio.painter id = studio.painter 0

/-- Nobody asks for the end of the engine. -/
def Event.IsMild : Event → Prop
  | .askEngine request => request.IsMild
  | _ => True

namespace State

theorem engine_stirred (hstirred : s.Stirred studio engine s') : s'.engine = engine := by
  cases hstirred with
  | unheard lines => rfl
  | heard lines => exact engine_fulfil _ _ _

section Settled

variable {settings : LaunchSettings}

theorem settled_started (hstarted : s.Started studio job s')
    (h : s.engine.Settled studio.settings.engine studio.browser coming) :
    Engine.Abides studio.settings.engine studio.browser coming s.engine s'.engine := by
  cases hstarted with
  | opens lines hfate =>
      rw [engine_fulfil]
      exact h.abides
  | asks lines hformat hstirred =>
      rw [engine_stirred hstirred]
      exact h.ask (Engine.isMild_print _ _) s.now job.id

/-- What comes of the engine stays settled. -/
theorem settled_step (h : s.engine.Settled studio.settings.engine studio.browser coming)
    (hmild : event.IsMild) :
    (s.step studio event).engine.Settled studio.settings.engine studio.browser coming := by
  have hhappens := happens_step studio s event
  generalize s.step studio event = s' at hhappens ⊢
  cases hhappens with
  | admitted hvalid hgranted hstarted => exact (settled_started hstarted h).settled
  | called hjob hphase hpromised hstarted => exact (settled_started hstarted h).settled
  | rasterized hjob hphase => rwa [engine_fulfil]
  | saved lines filepath hjob hphase => rwa [engine_fulfil]
  | expired hjob hlimit hphase =>
      rw [engine_fulfil]
      exact (h.leave _).settled
  | left hjob => exact (h.leave _).settled
  | absent hjob => exact (h.leave _).settled
  | @stirred event step _ hstep hstirred =>
      rw [engine_stirred hstirred]
      have hmildStep : step.IsMild := by cases event <;> cases hstep <;> trivial
      exact (h.apply hmildStep s.now).settled
  | asked hstirred =>
      rw [engine_stirred hstirred]
      exact (h.ask hmild s.now s.nextId).settled
  | held =>
      rwa [hold_eq]
  | _ => exact h

end Settled

end State

/-- A press without a cache stays without one. -/
theorem Move.uncached {marks : List Mark} (h : Move studio s marks s') (hs : s.cache = none) :
    s'.cache = none := by
  cases h with
  | lookUp document options hcache =>
      rw [hs] at hcache
      cases hcache
  | hit => rwa [State.cache_finish]
  | deliver =>
      rw [State.deliver, State.cache_finish]
      exact Option.map_eq_none_iff.2 hs
  | fail => rwa [State.cache_finish]
  | expire => rwa [State.cache_finish]
  | purge => exact Option.map_eq_none_iff.2 hs
  | clear => exact Option.map_eq_none_iff.2 hs
  | _ => exact hs

namespace State

/-- Nothing but its own course decides what becomes of a call. -/
structure Undisturbed (studio : Studio) (s : State) (coming : Engine.Status) : Prop where
  steady : s.Steady studio
  settled : s.engine.Settled studio.settings.engine studio.browser coming
  uncached : s.cache = none

theorem Undisturbed.step (h : s.Undisturbed studio coming) (hmild : event.IsMild) :
    (s.step studio event).Undisturbed studio coming where
  steady := h.steady.step event
  settled := settled_step h.settled hmild
  uncached := (step_moves h.steady.sound.numbered.jobs event).preserve Move.uncached h.uncached

theorem Undisturbed.run (h : s.Undisturbed studio coming) {events : List Event}
    (hmild : ∀ event ∈ events, event.IsMild) : (s.run studio events).Undisturbed studio coming := by
  induction events generalizing s with
  | nil => exact h
  | cons event rest ih =>
      exact ih (h.step (hmild event List.mem_cons_self)) fun other hother =>
        hmild other (List.mem_cons_of_mem _ hother)

/-! ## Calls that work -/

/-- The call with a number follows a course: it works, or it has ended. -/
structure Takes (studio : Studio) (s : State) (id : Nat) (course : Course) : Prop where
  given : id < s.nextId
  jobs : ∀ job ∈ s.jobs, job.id = id → course.Lists studio job
  calls : ∀ call ∈ s.finished, call.id = id → course.Yields studio call.outcome
  prints : ∀ p ∈ s.engine.printing, p.caller = id → course.coming = .ready

/-- What is printed for a call that waits for the engine is its page. -/
def PrintsOwn (s : State) (id : Nat) : Prop :=
  ∀ job ∈ s.jobs, job.id = id → ∀ work, job.phase = .paginating work →
    ∀ p ∈ s.engine.printing, p.caller = id → (p.html, p.page) = work.page

theorem Attended.printsOwn (h : s.Attended) (id : Nat) : s.PrintsOwn id := by
  intro job hjob hid work hphase p hp hcaller
  have hwanted := Engine.mem_wants_of_mem_printing hp
  rw [hcaller, ← hid, h job hjob work hphase] at hwanted
  exact List.mem_singleton.1 hwanted

/-- A call has its turn in a way that its course allows, or another call has. -/
theorem takes_fulfil {course : Course} (hgiven : id < s.nextId)
    (hothers : ∀ other ∈ s.jobs, other.id = id → other.id ≠ job.id → course.Lists studio other)
    (hcalls : ∀ call ∈ s.finished, call.id = id → course.Yields studio call.outcome)
    (hprints : ∀ p ∈ s.engine.printing, p.caller = id → course.coming = .ready)
    (hmine : job.id = id → job.options = course.options ∧ course.Leads studio fate) :
    (s.fulfil job fate).Takes studio id course := by
  rcases fate.waits_or_ends s job with ⟨phase, rfl⟩ | ⟨outcome, houtcome⟩
  · refine ⟨hgiven, fun other hother hid => ?_, hcalls, hprints⟩
    rcases mem_jobs_wait hother with rfl | ⟨hmem, hne⟩
    · exact hmine hid
    · exact hothers other hmem hid hne
  · have hends := releases_fulfil houtcome
    refine ⟨hends.nextId ▸ hgiven, fun other hother hid => ?_, fun call hcall hid => ?_,
      hends.engine ▸ hprints⟩
    · rw [hends.jobs, mem_othersThan] at hother
      exact hothers other hother.1 hid hother.2
    · rw [hends.finished] at hcall
      rcases List.mem_cons.1 hcall with rfl | hcall
      · exact (hmine hid).2.yields houtcome
      · exact hcalls call hcall hid

namespace Takes

variable {course : Course}

theorem congr (h : s.Takes studio id course) (hnext : s.nextId ≤ s'.nextId)
    (hjobs : ∀ job ∈ s'.jobs, job.id = id → job ∈ s.jobs)
    (hfinished : ∀ call ∈ s'.finished, call.id = id → call ∈ s.finished)
    (hprinting : s'.engine.printing ⊆ s.engine.printing) : s'.Takes studio id course where
  given := Nat.lt_of_lt_of_le h.given hnext
  jobs job hjob hid := h.jobs job (hjobs job hjob hid) hid
  calls call hcall hid := h.calls call (hfinished call hcall hid) hid
  prints p hp := h.prints p (hprinting hp)

theorem fulfil (h : s.Takes studio id course)
    (hmine : job.id = id → job.options = course.options ∧ course.Leads studio fate) :
    (s.fulfil job fate).Takes studio id course :=
  takes_fulfil h.given (fun other hother hid _ => h.jobs other hother hid) h.calls h.prints hmine

/-- A step of the engine takes a call along its course. -/
theorem stirred (hstirred : s.Stirred studio engine s') (h : s.Takes studio id course)
    (halike : studio.browser.PrintsAlike) (hown : s.PrintsOwn id)
    (habides : Engine.Abides studio.settings.engine studio.browser course.coming s.engine engine) :
    s'.Takes studio id course := by
  have hmid (lines : List LogLine) :
      (({ s with engine := engine } : State).report lines).Takes studio id course :=
    ⟨h.given, h.jobs, h.calls, fun p hp hcaller =>
      (habides.printing p hp).elim (fun hold => h.prints p hold hcaller) fun hready => hready⟩
  cases hstirred with
  | unheard lines => exact hmid lines
  | heard lines hjob hphase hreplies hgrounds hconverted =>
      refine (hmid lines).fulfil fun hid => ?_
      have hmem := (mem_of_job? hjob).1
      obtain ⟨hoptions, hreaches⟩ := h.jobs _ hmem hid
      rw [hphase] at hreaches
      rw [hoptions] at hconverted
      rw [hid] at hgrounds
      have hconversion := Course.conversion_of_answer halike hreaches.1 hreaches.2 hgrounds
        (fun reason hfailed => habides.settled.coming_of_failed hfailed)
        (fun p hp hcaller => ⟨h.prints p hp hcaller, hown _ hmem hid _ hphase p hp hcaller⟩)
        hconverted
      exact ⟨hoptions, Course.leads_fateOf hreaches.1.time hconversion _⟩

/-- Another call begins to work. -/
theorem started (hstarted : s.Started studio job s') (h : s.Takes studio id course)
    (halike : studio.browser.PrintsAlike) (hown : s.PrintsOwn id)
    (hsettled : s.engine.Settled studio.settings.engine studio.browser course.coming)
    (hne : job.id ≠ id) : s'.Takes studio id course := by
  have hsearched (lines : List LogLine) : (s.searched job lines).Takes studio id course :=
    ⟨h.given, h.jobs, h.calls, h.prints⟩
  cases hstarted with
  | opens lines hfate => exact (hsearched lines).fulfil fun hid => absurd hid hne
  | asks lines hformat hstirred =>
      have hwaits : ((s.searched job lines).fulfil job
          (.waits (.paginating (s.workFor studio job)))).Takes studio id course :=
        (hsearched lines).fulfil fun hid => absurd hid hne
      refine hwaits.stirred hstirred halike (fun other hother hid work hphase => ?_)
        (hsettled.ask (Engine.isMild_print _ _) s.now job.id)
      rcases mem_jobs_wait hother with rfl | ⟨hmem, -⟩
      · exact absurd hid hne
      · exact hown other hmem hid work hphase

theorem entered (h : s.Takes studio id course) (document : Document) (options : RenderOptions) :
    (s.entered document options).Takes studio id course := by
  refine h.congr (Nat.le_succ _) (fun job hjob hid => ?_) (fun _ hcall _ => hcall) fun _ hp => hp
  rcases List.mem_append.1 hjob with hjob | hjob
  · exact hjob
  · cases List.mem_singleton.1 hjob
    exact absurd hid (Nat.ne_of_gt h.given)

theorem reject (h : s.Takes studio id course) (document : Document) (options : RenderOptions)
    (fault : Fault) : (s.reject document options fault).Takes studio id course := by
  refine h.congr (Nat.le_succ _) (fun _ hjob _ => hjob) (fun call hcall hid => ?_) fun _ hp => hp
  rcases List.mem_cons.1 hcall with rfl | hcall
  · exact absurd hid (Nat.ne_of_gt h.given)
  · exact hcall

/-- Every event takes a call that works along its course. -/
theorem step (hs : s.Undisturbed studio course.coming) (hplain : studio.IsPlain)
    (hmild : event.IsMild) (h : s.Takes studio id course) :
    (s.step studio event).Takes studio id course := by
  have hhappens := happens_step studio s event
  generalize s.step studio event = s' at hhappens ⊢
  have hown := hs.steady.attended.printsOwn id
  have hreports (lines : List LogLine) : (s.report lines).Takes studio id course :=
    ⟨h.given, h.jobs, h.calls, h.prints⟩
  have hgoverned (governor : Governor) :
      ({ s with governor := governor } : State).Takes studio id course :=
    ⟨h.given, h.jobs, h.calls, h.prints⟩
  have hleaves (who : Nat) : (s.engine.leave who).printing ⊆ s.engine.printing :=
    fun _ hp => (List.mem_filter.1 hp).1
  cases hhappens with
  | idle => exact h
  | invalid hinvalid => exact h.reject _ _ _
  | refused hvalid hrefused => exact (hgoverned _).reject _ _ _
  | @queued document options lines hvalid hqueued =>
      have hentered := h.entered document options
      exact ⟨hentered.given, hentered.jobs, hentered.calls, hentered.prints⟩
  | @admitted document options _ hvalid hgranted hstarted =>
      have hentered := hs.steady.attended.entered document options
      exact (h.entered document options).started hstarted hplain.alike (hentered.printsOwn id)
        hs.settled (Nat.ne_of_gt h.given)
  | @called job _ hjob hphase hpromised hstarted =>
      refine (hgoverned _).started hstarted hplain.alike hown hs.settled fun hid => ?_
      have hreaches := (h.jobs job (mem_of_job? hjob).1 hid).2
      rw [hphase] at hreaches
      exact hreaches
  | @rasterized job work ends hjob hphase =>
      refine h.fulfil fun hid => ?_
      obtain ⟨hoptions, hreaches⟩ := h.jobs job (mem_of_job? hjob).1 hid
      rw [hphase] at hreaches
      refine ⟨hoptions, Course.leads_fateOf hreaches.1.time ?_ _⟩
      rw [hoptions, hplain.painter]
      exact Course.conversion_of_raster hreaches.1 hreaches.2
  | @saved job work conversion ends lines filepath hjob hphase =>
      refine (hreports lines).fulfil fun hid => ?_
      obtain ⟨hoptions, hreaches⟩ := h.jobs job (mem_of_job? hjob).1 hid
      rw [hphase] at hreaches
      exact ⟨hoptions, hreaches⟩
  | expired hjob hlimit hphase =>
      rw [hplain.untimed] at hlimit
      cases hlimit
  | left hjob =>
      exact h.congr (Nat.le_refl _) (fun _ hjob _ => (mem_othersThan.1 hjob).1)
        (fun _ hcall _ => hcall) (hleaves _)
  | absent hjob =>
      exact h.congr (Nat.le_refl _) (fun _ hjob _ => hjob) (fun _ hcall _ => hcall) (hleaves _)
  | @stirred event step _ hstep hstirred =>
      have hmildStep : step.IsMild := by cases event <;> cases hstep <;> trivial
      exact h.stirred hstirred hplain.alike hown (hs.settled.apply hmildStep s.now)
  | asked hstirred =>
      have hnumber : ({ s with nextId := s.nextId + 1 } : State).Takes studio id course :=
        ⟨Nat.lt_succ_of_lt h.given, h.jobs, h.calls, h.prints⟩
      exact hnumber.stirred hstirred hplain.alike hown (hs.settled.ask hmild s.now s.nextId)
  | held =>
      rw [hold_eq]
      exact hgoverned _
  | _ => exact ⟨h.given, h.jobs, h.calls, h.prints⟩

end Takes

/-! ## Calls that wait for a slot -/

/-- The call with a number has not begun to work. -/
structure Awaits (s : State) (id : Nat) (document : Document) (options : RenderOptions) :
    Prop where
  given : id < s.nextId
  jobs : ∀ job ∈ s.jobs, job.id = id →
    job.phase = .queued ∧ job.document = document ∧ job.options = options
  calls : ∀ call ∈ s.finished, call.id ≠ id

/-- A call that begins to work takes its course from then on. -/
theorem takes_of_started (hstarted : s.Started studio job s') (hs : s.Numbered)
    (hknows : s.Knows job known) (hnocache : s.cache = none)
    (hstranger : ¬ s.engine.Concerns job.id) (halike : studio.browser.PrintsAlike)
    (hsettled : s.engine.Settled studio.settings.engine studio.browser coming) :
    s'.Takes studio job.id ⟨job.document, job.options, s.timeOfDay studio, coming⟩ := by
  have hbegins (lines : List LogLine) {fate : Fate}
      (hleads : Course.Leads studio ⟨job.document, job.options, s.timeOfDay studio, coming⟩ fate) :
      ((s.searched job lines).fulfil job fate).Takes studio job.id
        ⟨job.document, job.options, s.timeOfDay studio, coming⟩ :=
    takes_fulfil (hknows.id_lt hs.jobs) (fun _ _ hid hne => absurd hid hne)
      (fun call hcall hid => absurd hid (hs.not_mem_finished hknows hcall))
      (fun p hp hcaller => absurd (.printing hp hcaller) hstranger) fun _ => ⟨rfl, hleads⟩
  cases hstarted with
  | opens lines hfate =>
      refine hbegins lines ?_
      cases hfate with
      | served hcache hhit =>
          rw [hnocache] at hcache
          cases hcache
      | vector hformat =>
          refine Course.leads_fateOf rfl ?_ _
          simp only [Course.conversion, hformat]
          rfl
      | raster hformat => exact ⟨⟨rfl, rfl⟩, hformat⟩
  | asks lines hformat hstirred =>
      have hwaits := @hbegins lines (.waits (.paginating (s.workFor studio job)))
        ⟨⟨rfl, rfl⟩, hformat⟩
      exact hwaits.stirred hstirred halike
        (fun _ _ _ _ _ p hp hcaller => absurd (.printing hp hcaller) hstranger)
        (hsettled.ask (Engine.isMild_print _ _) s.now job.id)

namespace Awaits

theorem fulfil (h : s.Awaits id document options) (hne : job.id ≠ id) :
    (s.fulfil job fate).Awaits id document options := by
  rcases fate.waits_or_ends s job with ⟨phase, rfl⟩ | ⟨outcome, houtcome⟩
  · refine ⟨h.given, fun other hother hid => ?_, h.calls⟩
    rcases mem_jobs_wait hother with rfl | ⟨hmem, -⟩
    · exact absurd hid hne
    · exact h.jobs other hmem hid
  · have hends := releases_fulfil houtcome
    refine ⟨hends.nextId ▸ h.given, fun other hother hid => ?_, fun call hcall => ?_⟩
    · rw [hends.jobs, mem_othersThan] at hother
      exact h.jobs other hother.1 hid
    · rw [hends.finished] at hcall
      rcases List.mem_cons.1 hcall with rfl | hcall
      · exact hne
      · exact h.calls call hcall

theorem stirred (hstirred : s.Stirred studio engine s') (h : s.Awaits id document options) :
    s'.Awaits id document options := by
  have hmid (lines : List LogLine) :
      (({ s with engine := engine } : State).report lines).Awaits id document options :=
    ⟨h.given, h.jobs, h.calls⟩
  cases hstirred with
  | unheard lines => exact hmid lines
  | heard lines hjob hphase =>
      refine (hmid lines).fulfil fun hid => ?_
      rw [(h.jobs _ (mem_of_job? hjob).1 hid).1] at hphase
      cases hphase

theorem started (hstarted : s.Started studio job s') (h : s.Awaits id document options)
    (hne : job.id ≠ id) : s'.Awaits id document options := by
  have hsearched (lines : List LogLine) : (s.searched job lines).Awaits id document options :=
    ⟨h.given, h.jobs, h.calls⟩
  cases hstarted with
  | opens lines hfate => exact (hsearched lines).fulfil hne
  | asks lines hformat hstirred => exact ((hsearched lines).fulfil hne).stirred hstirred

theorem entered (h : s.Awaits id document options) (other : Document) (others : RenderOptions) :
    (s.entered other others).Awaits id document options := by
  refine ⟨Nat.lt_succ_of_lt h.given, fun job hjob hid => ?_, h.calls⟩
  rcases List.mem_append.1 hjob with hjob | hjob
  · exact h.jobs job hjob hid
  · cases List.mem_singleton.1 hjob
    exact absurd hid (Nat.ne_of_gt h.given)

theorem reject (h : s.Awaits id document options) (other : Document) (others : RenderOptions)
    (fault : Fault) : (s.reject other others fault).Awaits id document options := by
  refine ⟨Nat.lt_succ_of_lt h.given, h.jobs, fun call hcall => ?_⟩
  rcases List.mem_cons.1 hcall with rfl | hcall
  · exact Nat.ne_of_gt h.given
  · exact h.calls call hcall

end Awaits

/-! ## Beginnings -/

/-- The time of day, if the call with a number begins to work in an event. -/
def beginsAt? (studio : Studio) (s : State) (event : Event) (id : Nat) : Option Timestamp :=
  (s.begins? event).bind fun job => if job.id = id then some (s.timeOfDay studio) else none

/-- The time of day at which the call with a number begins to work in a run, if it does. -/
def beganAt? (studio : Studio) : State → List Event → Nat → Option Timestamp
  | _, [], _ => none
  | s, event :: rest, id =>
    (s.beginsAt? studio event id).or (beganAt? studio (s.step studio event) rest id)

theorem beginsAt?_of_begins (hbegins : s.begins? event = some job) (studio : Studio) :
    s.beginsAt? studio event job.id = some (s.timeOfDay studio) := by
  simp [beginsAt?, hbegins]

theorem beginsAt?_of_ne (hbegins : s.begins? event = some job) (hne : job.id ≠ id)
    (studio : Studio) : s.beginsAt? studio event id = none := by
  simp [beginsAt?, hbegins, hne]

theorem beginsAt?_of_nobody (hbegins : s.begins? event = none) (studio : Studio) (id : Nat) :
    s.beginsAt? studio event id = none := by
  simp [beginsAt?, hbegins]

theorem beganAt?_append (studio : Studio) (s : State) (events more : List Event) (id : Nat) :
    s.beganAt? studio (events ++ more) id =
      (s.beganAt? studio events id).or ((s.run studio events).beganAt? studio more id) := by
  induction events generalizing s with
  | nil => rfl
  | cons event rest ih =>
      change (s.beginsAt? studio event id).or (beganAt? studio _ (rest ++ more) id) = _
      rw [ih, ← Option.or_assoc]
      rfl

/-- Where the call with a number stands, given when it has begun to work. -/
def Stands (studio : Studio) (s : State) (id : Nat) (document : Document)
    (options : RenderOptions) (coming : Engine.Status) : Option Timestamp → Prop
  | none => s.Awaits id document options
  | some time => s.Takes studio id ⟨document, options, time, coming⟩

/-- A call that waits for its slot goes on to wait, unless it begins to work. -/
theorem stands_of_awaits (hs : s.Undisturbed studio coming) (hplain : studio.IsPlain)
    (h : s.Awaits id document options) :
    (s.step studio event).Stands studio id document options coming
      (s.beginsAt? studio event id) := by
  have hhappens := happens_step studio s event
  generalize s.step studio event = s' at hhappens ⊢
  have hnobody (hnone : s.begins? event = none) (h' : s'.Awaits id document options) :
      s'.Stands studio id document options coming (s.beginsAt? studio event id) := by
    rwa [beginsAt?_of_nobody hnone]
  have hmid (mid : State) (hjobs : mid.jobs = s.jobs) (hfinished : mid.finished = s.finished)
      (hnext : s.nextId ≤ mid.nextId) : mid.Awaits id document options :=
    ⟨Nat.lt_of_lt_of_le h.given hnext, hjobs ▸ h.jobs, hfinished ▸ h.calls⟩
  have hworks {job : Job} (hjob : s.job? job.id = some job) (hphase : job.phase ≠ .queued) :
      job.id ≠ id := fun hid => hphase (h.jobs job (mem_of_job? hjob).1 hid).1
  cases hhappens with
  | idle hidle => exact hnobody hidle h
  | invalid hinvalid => exact hnobody (by simp [begins?, hinvalid]) (h.reject _ _ _)
  | refused hvalid hrefused =>
      exact hnobody (begins?_of_not_granted (by simp [hrefused]))
        ((hmid { s with governor := s.governor.acquire.2 } rfl rfl (Nat.le_refl _)).reject _ _ _)
  | @queued other others lines hvalid hqueued =>
      have hentered := h.entered other others
      exact hnobody (begins?_of_not_granted (by simp [hqueued]))
        ⟨hentered.given, hentered.jobs, hentered.calls⟩
  | @admitted other others _ hvalid hgranted hstarted =>
      have hne : s.nextId ≠ id := Nat.ne_of_gt h.given
      rw [beginsAt?_of_ne (begins?_of_granted hvalid hgranted) hne]
      exact (h.entered other others).started hstarted hne
  | @called job _ hjob hphase hpromised hstarted =>
      have hbegins := begins?_of_called hjob hphase hpromised
      have hmem := (mem_of_job? hjob).1
      by_cases hid : job.id = id
      · subst hid
        obtain ⟨-, rfl, rfl⟩ := h.jobs job hmem rfl
        let polled : State := { s with governor := s.governor.poll job.ticket }
        have hpolled : polled.Numbered := hs.steady.sound.numbered.congr rfl rfl rfl
        rw [beginsAt?_of_begins hbegins]
        have hlisted : polled.Knows (s.timed studio job) job := ⟨hjob, rfl, rfl⟩
        have htakes := takes_of_started hstarted hpolled hlisted hs.uncached
          (hs.steady.strangers.queued job hmem hphase) hplain.alike hs.settled
        exact htakes
      · rw [beginsAt?_of_ne hbegins hid]
        exact (hmid { s with governor := s.governor.poll job.ticket } rfl rfl
          (Nat.le_refl _)).started hstarted hid
  | rasterized hjob hphase => exact hnobody rfl (h.fulfil (hworks hjob (by simp [hphase])))
  | saved lines filepath hjob hphase =>
      exact hnobody rfl ((hmid (s.report lines) rfl rfl (Nat.le_refl _)).fulfil
        (hworks hjob (by simp [hphase])))
  | @expired job ms hjob hlimit hphase =>
      exact hnobody rfl ((hmid { s with engine := s.engine.leave job.id } rfl rfl
        (Nat.le_refl _)).fulfil (hworks hjob hphase))
  | left hjob =>
      exact hnobody rfl ⟨h.given, fun other hother => h.jobs other (mem_othersThan.1 hother).1,
        h.calls⟩
  | stirred hstep hstirred =>
      refine hnobody ?_ (h.stirred hstirred)
      cases event with
      | settle => rfl
      | serveNext => rfl
      | endPrint who => rfl
      | _ => cases hstep
  | asked hstirred =>
      exact hnobody rfl
        ((hmid { s with nextId := s.nextId + 1 } rfl rfl (Nat.le_succ _)).stirred hstirred)
  | held =>
      refine hnobody rfl ?_
      rw [hold_eq]
      exact hmid _ rfl rfl (Nat.le_refl _)
  | _ => exact hnobody rfl (hmid _ rfl rfl (Nat.le_refl _))

/-- A call that arrives with valid options waits for its slot or takes its course. -/
theorem stands_arrive (hs : s.Undisturbed studio coming) (hplain : studio.IsPlain)
    (hvalid : options.validate = .ok ()) (document : Document) :
    (s.step studio (.arrive document options)).Stands studio s.nextId document options coming
      (s.beginsAt? studio (.arrive document options) s.nextId) := by
  have hnumbered := hs.steady.sound.numbered
  have hhappens := happens_step studio s (.arrive document options)
  generalize s.step studio (.arrive document options) = s' at hhappens ⊢
  cases hhappens with
  | idle hidle hlooks => exact absurd rfl (hlooks document options)
  | invalid hinvalid =>
      rw [hvalid] at hinvalid
      cases hinvalid
  | refused _ hrefused =>
      have hlimit := (Governor.acquire_of_refused hrefused).1
      rw [hs.steady.sound.limit, hplain.unlimited] at hlimit
      cases hlimit
  | queued lines _ hqueued =>
      rw [beginsAt?_of_nobody (begins?_of_not_granted (by simp [hqueued]))]
      refine ⟨Nat.lt_succ_self _, fun job hjob hid => ?_,
        fun call hcall => Nat.ne_of_lt (hnumbered.finished call hcall)⟩
      rcases List.mem_append.1 hjob with hjob | hjob
      · exact absurd hid (Nat.ne_of_lt (hnumbered.jobs job hjob))
      · rw [List.mem_singleton.1 hjob]
        exact ⟨rfl, rfl, rfl⟩
  | admitted _ hgranted hstarted =>
      have hbegins : s.begins? (.arrive document options) = some (s.caller document options) :=
        begins?_of_granted hvalid hgranted
      have hnow : s.beginsAt? studio (.arrive document options) s.nextId =
          some (s.timeOfDay studio) := beginsAt?_of_begins hbegins studio
      rw [hnow]
      exact takes_of_started hstarted (hnumbered.entered studio document options)
        (knows_caller hnumbered.jobs studio document options) hs.uncached
        (hs.steady.strangers.later _ (Nat.le_refl _)) hplain.alike hs.settled
  | stirred hstep => cases hstep

/-- A run takes a call that has arrived along its course, from the time on at which it
begins. -/
theorem stands_run (hs : s.Undisturbed studio coming) (hplain : studio.IsPlain)
    {events : List Event} (hmild : ∀ event ∈ events, event.IsMild)
    (h : s.Stands studio id document options coming began) :
    (s.run studio events).Stands studio id document options coming
      (began.or (s.beganAt? studio events id)) := by
  induction events generalizing s began with
  | nil => simpa [beganAt?, run] using h
  | cons event rest ih =>
      have hfirst := hmild event List.mem_cons_self
      have hstep : (s.step studio event).Stands studio id document options coming
          (began.or (s.beginsAt? studio event id)) := by
        cases began with
        | none => exact stands_of_awaits hs hplain h
        | some time => exact Takes.step hs hplain hfirst h
      have hrest := ih (hs.step hfirst)
        (fun other hother => hmild other (List.mem_cons_of_mem _ hother)) hstep
      rwa [Option.or_assoc] at hrest

/-! ## Numbers -/

end State

theorem Move.nextId_le {marks : List Mark} (h : Move studio s marks s') : s.nextId ≤ s'.nextId := by
  cases h with
  | number => exact Nat.le_succ _
  | reject => exact Nat.le_succ _
  | enter => exact Nat.le_succ _
  | hit => exact Nat.le_of_eq (State.closes_hit _ _ _).nextId.symm
  | deliver => exact Nat.le_of_eq (State.closes_deliver _ _ _ _ _).nextId.symm
  | fail => exact Nat.le_of_eq (State.closes_finish _ _ _).nextId.symm
  | expire => exact Nat.le_of_eq (State.closes_finish _ _ _).nextId.symm
  | _ => exact Nat.le_refl _

namespace State

/-- Numbers are given out in order. -/
theorem nextId_le_run (hs : s.Numbered) (studio : Studio) (events : List Event) :
    s.nextId ≤ (s.run studio events).nextId := by
  have hlater {mid last : State} {marks : List Mark} (hmove : Move studio mid marks last)
      (h : s.nextId ≤ mid.nextId) : s.nextId ≤ last.nextId := Nat.le_trans h hmove.nextId_le
  exact (run_moves hs studio events).preserve hlater (Nat.le_refl s.nextId)

/-- Nobody begins to work under a number that has not been given out. -/
theorem beginsAt?_of_later (hs : s.Numbered) (hlater : (s.step studio event).nextId ≤ id) :
    s.beginsAt? studio event id = none := by
  cases hbegins : s.begins? event with
  | none => exact beginsAt?_of_nobody hbegins studio id
  | some job =>
      obtain ⟨mid, hmoves, -, -, -, -, hknows, hphase, hstep⟩ :=
        step_of_begins studio hs.jobs hbegins
      have hmid := hmoves.preserve Move.numbered hs
      have hgiven : job.id < mid.nextId := hknows.id_lt hmid.jobs
      have hless : mid.nextId ≤ (mid.begin studio job).nextId := by
        have hled : Leads studio mid (mid.begin studio job) := leads_begin hmid.jobs hknows hphase
        have hlater {before after : State} {marks : List Mark}
            (hmove : Move studio before marks after) (h : mid.nextId ≤ before.nextId) :
            mid.nextId ≤ after.nextId :=
          Nat.le_trans h hmove.nextId_le
        exact hled.preserve hlater (Nat.le_refl _)
      rw [hstep] at hlater
      exact beginsAt?_of_ne hbegins (Nat.ne_of_lt (by omega)) studio

theorem beganAt?_of_later (hs : s.Numbered) {events : List Event}
    (hlater : (s.run studio events).nextId ≤ id) : s.beganAt? studio events id = none := by
  induction events generalizing s with
  | nil => rfl
  | cons event rest ih =>
      have hrest : (s.step studio event).nextId ≤ (s.run studio (event :: rest)).nextId :=
        nextId_le_run (hs.step event) studio rest
      rw [beganAt?, beginsAt?_of_later hs (Nat.le_trans hrest hlater), Option.none_or]
      exact ih (hs.step event) hlater

/-- Where a call stands after a run in which it has arrived with valid options. -/
theorem stands_of_arrive (hs : s.Undisturbed studio coming) (hplain : studio.IsPlain)
    {before after : List Event} (hvalid : options.validate = .ok ())
    (hmild : ∀ event ∈ before ++ .arrive document options :: after, event.IsMild)
    (hid : (s.run studio before).nextId = id) :
    (s.run studio (before ++ .arrive document options :: after)).Stands studio id document options
      coming (s.beganAt? studio (before ++ .arrive document options :: after) id) := by
  subst hid
  have hmid := hs.run fun event hevent => hmild event (List.mem_append_left _ hevent)
  have harrived := stands_arrive hmid hplain hvalid document
  have harrives : (Event.arrive document options).IsMild := trivial
  have hlast := stands_run (hmid.step harrives) hplain
    (fun event hevent => hmild event (List.mem_append_right _ (List.mem_cons_of_mem _ hevent)))
    harrived
  rw [run_append, beganAt?_append,
    beganAt?_of_later hs.steady.sound.numbered (Nat.le_refl _), Option.none_or]
  exact hlast

end State

end Press

end CanvasPress

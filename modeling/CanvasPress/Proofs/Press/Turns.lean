/-
# What an event does to calls

Whatever happens to a press, at most one call has its turn: it waits on for something
else, or it ends, and what it ends with was decided by what it had waited for.  Here
every event is read as such a turn, together with what it does to the governor, the
cache and the engine before.  All that is said elsewhere about slots, counters and
results of calls is read off from that.
-/

import CanvasPress.Proofs.Press.Lookup

namespace CanvasPress.Press

variable {studio : Studio} {s s' : State} {job known : Job} {fate : Fate} {id : Nat}
  {event : Event} {engine : Engine} {outcome : Except Fault Rendering}

/-- What becomes of a call that has its turn. -/
inductive Fate where
  | waits (phase : Phase)
  /-- It is served from the cache. -/
  | served (rendering : Rendering)
  | delivered (work : Work) (conversion : Conversion) (filepath : Option String)
  | failed (fault : Fault)

/-- The result of a call that ends, given the state in which it has its turn. -/
def Fate.outcome? (s : State) (job : Job) : Fate → Option (Except Fault Rendering)
  | .waits _ => none
  | .served rendering => some (.ok rendering.asHit)
  | .delivered work conversion filepath =>
    some (.ok (s.renderingOf job work conversion filepath))
  | .failed fault => some (.error fault)

/-- A call waits on, or ends. -/
theorem Fate.waits_or_ends (fate : Fate) (s : State) (job : Job) :
    (∃ phase, fate = .waits phase) ∨ ∃ outcome, fate.outcome? s job = some outcome := by
  cases fate with
  | waits phase => exact .inl ⟨phase, rfl⟩
  | served rendering => exact .inr ⟨_, rfl⟩
  | delivered work conversion filepath => exact .inr ⟨_, rfl⟩
  | failed fault => exact .inr ⟨_, rfl⟩

namespace State

/-- A call has its turn. -/
def fulfil (job : Job) (fate : Fate) (s : State) : State :=
  match fate with
  | .waits phase => s.wait job phase
  | .served rendering => { s with hits := s.hits + 1 }.finish job (.ok rendering.asHit)
  | .delivered work conversion filepath => s.deliver job work conversion filepath
  | .failed fault => s.finish job (.error fault)

@[simp]
theorem governor_finish (s : State) (job : Job) (outcome : Except Fault Rendering) :
    (s.finish job outcome).governor = s.governor.release job.ticket := by
  cases outcome <;> rfl

/-- A call that has its slot is over, and gives it back. -/
structure Releases (s s' : State) (job : Job) (outcome : Except Fault Rendering) : Prop
    extends s.Closes s' job outcome where
  governor : s'.governor = s.governor.release job.ticket
  now : s'.now = s.now

theorem releases_fulfil (houtcome : fate.outcome? s job = some outcome) :
    s.Releases (s.fulfil job fate) job outcome := by
  cases fate with
  | waits phase => cases houtcome
  | served rendering =>
      cases houtcome
      exact ⟨closes_hit s job (.ok rendering.asHit), governor_finish _ _ _, now_finish _ _ _⟩
  | delivered work conversion filepath =>
      cases houtcome
      exact ⟨closes_deliver _ _ _ _ _, governor_finish _ _ _, now_finish _ _ _⟩
  | failed fault =>
      cases houtcome
      exact ⟨closes_finish s job (.error fault), governor_finish _ _ _, now_finish _ _ _⟩

@[simp]
theorem engine_fulfil (s : State) (job : Job) (fate : Fate) :
    (s.fulfil job fate).engine = s.engine := by
  rcases fate.waits_or_ends s job with ⟨phase, rfl⟩ | ⟨outcome, houtcome⟩
  · rfl
  · exact (releases_fulfil houtcome).engine

@[simp]
theorem nextId_fulfil (s : State) (job : Job) (fate : Fate) :
    (s.fulfil job fate).nextId = s.nextId := by
  rcases fate.waits_or_ends s job with ⟨phase, rfl⟩ | ⟨outcome, houtcome⟩
  · rfl
  · exact (releases_fulfil houtcome).nextId

/-! ## After a conversion -/

/-- What becomes of a call whose conversion has ended at some time. -/
def fateOf (studio : Studio) (now : Nat) (work : Work) : Except Fault Conversion → Fate
  | .error fault => .failed fault
  | .ok conversion =>
    match studio.settings.outputPath with
    | none => .delivered work conversion none
    | some _ => .waits (.saving work conversion (now + saveTime))

theorem converted_eq (studio : Studio) (s : State) (job : Job) (work : Work)
    (outcome : Except Fault Conversion) :
    s.converted studio job work outcome = s.fulfil job (fateOf studio s.now work outcome) := by
  cases outcome with
  | error fault => rfl
  | ok conversion =>
      simp only [converted, fateOf]
      cases studio.settings.outputPath <;> rfl

/-- A conversion that has ended leaves nobody waiting for a slot. -/
theorem fateOf_ne_queued (studio : Studio) (now : Nat) (work : Work)
    (outcome : Except Fault Conversion) : fateOf studio now work outcome ≠ .waits .queued := by
  cases outcome with
  | error fault => exact fun h => by cases h
  | ok conversion =>
      simp only [fateOf]
      cases studio.settings.outputPath <;> exact fun h => by cases h

/-! ## Answers of the engine -/

end State

/-- The page that a call for a printed document has printed. -/
def Work.page (work : Work) : String × PageSize :=
  (Page.around work.svg, .a4Landscape)

/-- What an answer of the engine makes of the work of a call that waits for it, if the
call waits for such an answer. -/
def Work.converted? (work : Work) (options : RenderOptions) :
    Engine.Reply → Option (Except Fault Conversion)
  | .unavailable _ => some (.ok (.vector work.svg true))
  | .printed pdf => some (.ok (.paginated pdf options))
  | .misprinted fault => some (.error fault)
  | .ready => none
  | .done => none
  | .status _ _ _ => none

namespace State

/-- What follows when the engine has taken a step to `engine`: nobody waits for its
answer, or one call does and has its turn. -/
inductive Stirred (studio : Studio) (s : State) (engine : Engine) : State → Prop where
  | unheard (lines : List LogLine)
      (hunheard : ∀ who answer, engine.replies = (who, answer) :: s.engine.replies →
        ∀ job work, s.job? who = some job → job.phase = .paginating work →
          work.converted? job.options answer = none) :
      Stirred studio s engine (({ s with engine := engine } : State).report lines)
  | heard (lines : List LogLine) {job : Job} {work : Work} {answer : Engine.Reply}
      {outcome : Except Fault Conversion} (hjob : s.job? job.id = some job)
      (hphase : job.phase = .paginating work)
      (hreplies : engine.replies = (job.id, answer) :: s.engine.replies)
      (hgrounds : Engine.Grounds studio.browser s.engine.printing engine job.id answer)
      (hconverted : work.converted? job.options answer = some outcome) :
      Stirred studio s engine ((({ s with engine := engine } : State).report lines).fulfil job
        (fateOf studio s.now work outcome))

/-- An answer takes the call on that waits for it. -/
theorem answered_eq (studio : Studio) (s : State) (job : Job) (work : Work)
    (answer : Engine.Reply) :
    s.answered studio job work answer = s ∧ work.converted? job.options answer = none ∨
      ∃ lines outcome, work.converted? job.options answer = some outcome ∧
        s.answered studio job work answer =
          (s.report lines).fulfil job (fateOf studio s.now work outcome) := by
  have hconverts (outcome : Except Fault Conversion) : s.converted studio job work outcome =
      (s.report []).fulfil job (fateOf studio s.now work outcome) := by
    rw [report, List.append_nil]
    exact converted_eq studio s job work outcome
  cases answer with
  | unavailable reason =>
      exact .inr ⟨_, _, rfl, converted_eq studio (s.report (Engine.fallbackLog reason)) job work
        (.ok (.vector work.svg true))⟩
  | printed pdf => exact .inr ⟨[], _, rfl, hconverts (.ok (.paginated pdf job.options))⟩
  | misprinted fault => exact .inr ⟨[], _, rfl, hconverts (.error fault)⟩
  | ready => exact .inl ⟨rfl, rfl⟩
  | done => exact .inl ⟨rfl, rfl⟩
  | status found attempts printed => exact .inl ⟨rfl, rfl⟩

theorem stirred_withEngine (studio : Studio) (s : State) (step : Engine.Step)
    (lines : List LogLine) :
    s.Stirred studio (s.engine.apply studio.settings.engine studio.browser s.now step)
      (s.withEngine studio (s.engine.apply studio.settings.engine studio.browser s.now step)
        lines) := by
  have hengine := Engine.answersOnce_apply studio.settings.engine studio.browser s.now s.engine step
  generalize s.engine.apply studio.settings.engine studio.browser s.now step = engine at hengine ⊢
  rcases hengine with hsame | ⟨who, answer, hreplies, hgrounds⟩
  · have hnobody : s.withEngine studio engine lines =
        ({ s with engine := engine } : State).report lines := by
      simp [withEngine, hsame]
    rw [hnobody]
    exact .unheard lines fun who answer hreplies => by simp [hsame] at hreplies
  · have hpassed : s.withEngine studio engine lines =
        (({ s with engine := engine } : State).report lines).passOn studio (who, answer) := by
      have hnew : (engine.replies.take (engine.replies.length - s.engine.replies.length)).reverse =
          [(who, answer)] := by
        simp [hreplies]
      simp only [withEngine, hnew, List.foldl_cons, List.foldl_nil]
    rw [hpassed]
    -- Nobody but the caller named first among the answers can have heard one.
    have hunheard (hdeaf : ∀ job work, s.job? who = some job → job.phase = .paginating work →
        work.converted? job.options answer = none) :
        s.Stirred studio engine (({ s with engine := engine } : State).report lines) := by
      refine .unheard lines fun other reply hother => ?_
      rw [hreplies] at hother
      cases hother
      exact hdeaf
    have hlisted : (({ s with engine := engine } : State).report lines).job? who = s.job? who := rfl
    unfold passOn
    rw [hlisted]
    cases hjob : s.job? who with
    | none =>
        refine hunheard fun job work hsome => ?_
        rw [hjob] at hsome
        cases hsome
    | some job =>
        obtain ⟨-, rfl⟩ := mem_of_job? hjob
        cases hphase : job.phase with
        | paginating work =>
            dsimp only
            rw [hphase]
            rcases answered_eq studio (({ s with engine := engine } : State).report lines) job work
              answer with ⟨hstays, hdeaf⟩ | ⟨more, outcome, hconverted, hturn⟩
            · dsimp only
              rw [hstays]
              refine hunheard fun other otherWork hother hwaits => ?_
              rw [hjob] at hother
              cases hother
              rw [hphase] at hwaits
              cases hwaits
              exact hdeaf
            · dsimp only
              rw [hturn]
              have hlines : (({ s with engine := engine } : State).report lines).report more =
                  ({ s with engine := engine } : State).report (lines ++ more) := by
                simp [report]
              rw [hlines]
              exact .heard _ hjob hphase hreplies hgrounds hconverted
        | _ =>
            dsimp only
            rw [hphase]
            refine hunheard fun other work hother hwaits => ?_
            rw [hjob] at hother
            cases hother
            rw [hphase] at hwaits
            cases hwaits

/-! ## Calls that begin -/

/-- A lookup that may drop what is stale under a key. -/
def looked (key : String) (s : State) : State :=
  { s with cache := s.cache.map fun cache => (cache.get s.now key).2 }

/-- The work of a call that begins now. -/
def workFor (studio : Studio) (job : Job) (s : State) : Work where
  key := cacheKey job.document job.options
  generatedAt := s.timeOfDay studio
  svg := job.document.compose (studio.templates.get job.document.kind job.options.theme)
    job.options (s.timeOfDay studio)
  started := s.now

/-- What becomes at once of a call that begins to work and does not ask the engine. -/
inductive Opening (studio : Studio) (s : State) (job : Job) : Fate → Prop where
  | served {cache : Cache Rendering} {rendering : Rendering} (hcache : s.cache = some cache)
      (hhit : (cache.get s.now (cacheKey job.document job.options)).1 = .hit rendering) :
      Opening studio s job (.served rendering)
  | vector (hformat : job.options.format = .vector) :
      Opening studio s job (fateOf studio s.now (s.workFor studio job)
        (.ok (.vector (s.workFor studio job).svg false)))
  | raster (hformat : job.options.format = .raster) :
      Opening studio s job (.waits (.rastering (s.workFor studio job) (s.now + rasterTime)))

theorem Opening.ne_queued (h : s.Opening studio job fate) : fate ≠ .waits .queued := by
  cases h with
  | served hcache hhit => exact fun heq => by cases heq
  | vector hformat => exact fateOf_ne_queued _ _ _ _
  | raster hformat => exact fun heq => by cases heq

/-- A call has looked for its artifact, and something has been reported. -/
def searched (job : Job) (lines : List LogLine) (s : State) : State :=
  (s.looked (cacheKey job.document job.options)).report lines

/-- What follows when a call that is listed and has its slot begins to work. -/
inductive Started (studio : Studio) (s : State) (job : Job) : State → Prop where
  | opens (lines : List LogLine) {fate : Fate} (hfate : s.Opening studio job fate) :
      Started studio s job ((s.searched job lines).fulfil job fate)
  | asks (lines : List LogLine) {s' : State} (hformat : job.options.format = .paginated)
      (hstirred : ((s.searched job lines).fulfil job
        (.waits (.paginating (s.workFor studio job)))).Stirred studio
          (s.engine.ask s.now job.id
            (.print (s.workFor studio job).page.1 (s.workFor studio job).page.2)) s') :
      Started studio s job s'

/-- A call that begins now is to end in time. -/
def timed (studio : Studio) (s : State) (job : Job) : Job :=
  { job with deadline := studio.settings.renderTimeoutMs.map fun ms => s.now + millis ms }

theorem started_composed (studio : Studio) (s : State) (job : Job) (lines : List LogLine) :
    s.Started studio job
      ((s.searched job lines).composed studio job (cacheKey job.document job.options)) := by
  obtain ⟨more, hcomposed⟩ : ∃ more,
      (s.searched job lines).composed studio job (cacheKey job.document job.options) =
        (s.searched job (lines ++ more)).convert studio job (s.workFor studio job) := by
    refine ⟨job.document.composeLog (s.workFor studio job).svg, ?_⟩
    simp only [composed, searched, report, List.append_assoc]
    rfl
  rw [hcomposed, convert]
  cases hformat : job.options.format with
  | vector =>
      dsimp only
      rw [converted_eq]
      exact .opens _ (.vector hformat)
  | raster => exact .opens _ (.raster hformat)
  | paginated => exact .asks _ hformat (stirred_withEngine studio _ (.ask job.id _) _)

theorem started_begin (studio : Studio) (s : State) (job : Job) :
    s.Started studio (s.timed studio job) (s.begin studio job) := by
  have hmissed (lines : List LogLine) := started_composed studio s (s.timed studio job) lines
  let key := cacheKey job.document job.options
  cases hcache : s.cache with
  | none =>
      have hlooked : s.searched (s.timed studio job) [] = s := by
        rw [searched, report, List.append_nil, looked, hcache, Option.map_none, ← hcache]
      have hstarted := hmissed []
      rw [hlooked] at hstarted
      simp only [begin, hcache]
      exact hstarted
  | some cache =>
      have hlooked (lines more : List LogLine) :
          (({ s with cache := some (cache.get s.now key).2 } : State).report lines).report more =
            s.searched (s.timed studio job) (lines ++ more) := by
        rw [searched, looked, hcache]
        simp only [report, List.append_assoc]
        rfl
      simp only [begin, hcache]
      cases hfound : (cache.get s.now (cacheKey job.document job.options)).1 with
      | hit rendering =>
          have hserved : s.Started studio (s.timed studio job)
              ((s.searched (s.timed studio job) (cache.getLog s.now key ++
                [⟨.debug, "Cache hit for " ++ shortKey key⟩])).fulfil (s.timed studio job)
                (.served rendering)) :=
            .opens _ (.served hcache hfound)
          rw [← hlooked] at hserved
          exact hserved
      | miss =>
          dsimp only
          rw [hlooked]
          exact hmissed _
      | aborted _ =>
          dsimp only
          rw [hlooked]
          exact hmissed _

/-! ## Events -/

/-- The call that arrives now. -/
def caller (document : Document) (options : RenderOptions) (s : State) : Job :=
  ⟨s.nextId, s.governor.nextTicket, document, options, none, .queued⟩

/-- A call has arrived and asked for a slot. -/
def entered (document : Document) (options : RenderOptions) (s : State) : State :=
  { s with
    governor := s.governor.acquire.2
    jobs := s.jobs ++ [s.caller document options]
    nextId := s.nextId + 1 }

/-- The step of the engine that an event is. -/
def engineStep? : Event → Option Engine.Step
  | .settle => some .settle
  | .serveNext => some .serveNext
  | .endPrint who => some (.endPrint who)
  | _ => none

/-- What an event may do to a press. -/
inductive Happens (studio : Studio) (s : State) : Event → State → Prop where
  /-- The event concerns a call that is not there, or not in that phase. -/
  | idle {event : Event} (hidle : s.begins? event = none)
      (hlooks : ∀ document options, event ≠ .arrive document options) : Happens studio s event s
  | invalid {document : Document} {options : RenderOptions} {cause : ConfigFault}
      (hinvalid : options.validate = .error cause) :
      Happens studio s (.arrive document options) (s.reject document options (.config cause))
  | refused {document : Document} {options : RenderOptions} {waiting limit : Nat}
      (hvalid : options.validate = .ok ())
      (hrefused : s.governor.acquire.1 = .refused waiting limit) :
      Happens studio s (.arrive document options)
        (({ s with governor := s.governor.acquire.2 } : State).reject document options
          (.queueFull waiting limit))
  | queued {document : Document} {options : RenderOptions} (lines : List LogLine)
      (hvalid : options.validate = .ok ()) (hqueued : s.governor.acquire.1 = .queued) :
      Happens studio s (.arrive document options) ((s.entered document options).report lines)
  | admitted {document : Document} {options : RenderOptions} {s' : State}
      (hvalid : options.validate = .ok ()) (hgranted : s.governor.acquire.1 = .granted)
      (hstarted : (s.entered document options).Started studio
        (s.timed studio (s.caller document options)) s') :
      Happens studio s (.arrive document options) s'
  | called {job : Job} {s' : State} (hjob : s.job? job.id = some job)
      (hphase : job.phase = .queued) (hpromised : job.ticket ∈ s.governor.promised)
      (hstarted : ({ s with governor := s.governor.poll job.ticket } : State).Started studio
        (s.timed studio job) s') :
      Happens studio s (.look job.id) s'
  | rasterized {job : Job} {work : Work} {ends : Nat} (hjob : s.job? job.id = some job)
      (hphase : job.phase = .rastering work ends) :
      Happens studio s (.proceed job.id) (s.fulfil job (fateOf studio s.now work
        (Conversion.raster (studio.painter job.id) work.svg job.options
          studio.settings.rasterQuality)))
  | saved {job : Job} {work : Work} {conversion : Conversion} {ends : Nat}
      (lines : List LogLine) (filepath : Option String) (hjob : s.job? job.id = some job)
      (hphase : job.phase = .saving work conversion ends) :
      Happens studio s (.proceed job.id)
        ((s.report lines).fulfil job (.delivered work conversion filepath))
  | expired {job : Job} {ms : Nat} (hjob : s.job? job.id = some job)
      (hlimit : studio.settings.renderTimeoutMs = some ms) (hphase : job.phase ≠ .queued) :
      Happens studio s (.expire job.id)
        (({ s with engine := s.engine.leave job.id } : State).fulfil job (.failed (.timeout ms)))
  | left {job : Job} (hjob : s.job? job.id = some job) :
      Happens studio s (.leave job.id)
        { s with
          jobs := s.othersThan job.id
          governor := (s.governor.release job.ticket).cancel job.ticket
          engine := s.engine.leave job.id }
  | absent {id : Nat} (hjob : s.job? id = none) :
      Happens studio s (.leave id) { s with engine := s.engine.leave id }
  | stirred {event : Event} {step : Engine.Step} {s' : State}
      (hstep : engineStep? event = some step)
      (hstirred : s.Stirred studio
        (s.engine.apply studio.settings.engine studio.browser s.now step) s') :
      Happens studio s event s'
  | asked {request : Engine.Request} {s' : State}
      (hstirred : ({ s with nextId := s.nextId + 1 } : State).Stirred studio
        (s.engine.apply studio.settings.engine studio.browser s.now (.ask s.nextId request)) s') :
      Happens studio s (.askEngine request) s'
  | held : Happens studio s .hold s.hold.2
  | unheld (ticket : Nat) : Happens studio s (.unhold ticket) (s.unhold ticket)
  | advanced (nanos : Nat) : Happens studio s (.advance nanos) (s.advance nanos)
  | cleared : Happens studio s .clearCache s.clearCache
  | purged : Happens studio s .purgeCache s.purgeCache
  | reported (lines : List LogLine) : Happens studio s (.report lines) (s.report lines)

theorem happens_arrive (studio : Studio) (s : State) (document : Document)
    (options : RenderOptions) :
    s.Happens studio (.arrive document options) (s.arrive studio document options) := by
  unfold arrive
  split
  next cause hinvalid => exact .invalid hinvalid
  next hvalid =>
    dsimp only
    split
    next waiting limit hrefused => exact .refused hvalid hrefused
    next hqueued => exact .queued _ hvalid hqueued
    next hgranted =>
      exact .admitted hvalid hgranted (started_begin studio (s.entered document options) _)

theorem happens_look (studio : Studio) (s : State) (id : Nat) :
    s.Happens studio (.look id) (s.look studio id) := by
  have harrives (document : Document) (options : RenderOptions) :
      Event.look id ≠ .arrive document options := by simp
  unfold look
  cases hjob : s.job? id with
  | none => exact .idle (by simp [begins?, hjob]) harrives
  | some job =>
      obtain ⟨-, rfl⟩ := mem_of_job? hjob
      cases hphase : job.phase with
      | queued =>
          dsimp only
          rw [hphase]
          dsimp only
          split_ifs with hpromised
          · exact .called hjob hphase hpromised (started_begin studio _ job)
          · exact .idle (by simp [begins?, hjob, hphase, hpromised]) harrives
      | _ =>
          dsimp only
          rw [hphase]
          exact .idle (by simp [begins?, hjob, hphase]) harrives

theorem happens_proceed (studio : Studio) (s : State) (id : Nat) :
    s.Happens studio (.proceed id) (s.proceed studio id) := by
  unfold proceed
  split
  next job hjob =>
    obtain ⟨-, rfl⟩ := mem_of_job? hjob
    split
    next work ends hphase =>
      rw [converted_eq]
      exact .rasterized hjob hphase
    next work conversion ends hphase =>
      dsimp only
      split
      next =>
        have hsaved : s.Happens studio (.proceed job.id) ((s.report []).fulfil job
            (.delivered work conversion (some (copyPath studio work conversion)))) :=
          .saved [] _ hjob hphase
        rwa [report, List.append_nil] at hsaved
      next => exact .saved _ none hjob hphase
    next => exact .idle rfl nofun
  next => exact .idle rfl nofun

theorem happens_expire (studio : Studio) (s : State) (id : Nat) :
    s.Happens studio (.expire id) (s.expire studio id) := by
  unfold expire
  split
  next job ms hjob hlimit =>
    obtain ⟨-, rfl⟩ := mem_of_job? hjob
    split
    next => exact .idle rfl nofun
    next hphase => exact .expired hjob hlimit hphase
  next => exact .idle rfl nofun

theorem happens_leave (studio : Studio) (s : State) (id : Nat) :
    s.Happens studio (.leave id) (s.leave id) := by
  unfold leave
  split
  next job hjob =>
    obtain ⟨-, rfl⟩ := mem_of_job? hjob
    exact .left hjob
  next hjob => exact .absent hjob

/-- Every event does one of these. -/
theorem happens_step (studio : Studio) (s : State) (event : Event) :
    s.Happens studio event (s.step studio event) := by
  cases event with
  | arrive document options => exact happens_arrive studio s document options
  | look id => exact happens_look studio s id
  | proceed id => exact happens_proceed studio s id
  | expire id => exact happens_expire studio s id
  | leave id => exact happens_leave studio s id
  | settle => exact .stirred rfl (stirred_withEngine studio s .settle _)
  | serveNext => exact .stirred rfl (stirred_withEngine studio s .serveNext _)
  | endPrint who => exact .stirred rfl (stirred_withEngine studio s (.endPrint who) _)
  | askEngine request =>
      exact .asked (stirred_withEngine studio { s with nextId := s.nextId + 1 }
        (.ask s.nextId request) _)
  | hold => exact .held
  | unhold ticket => exact .unheld ticket
  | advance nanos => exact .advanced nanos
  | clearCache => exact .cleared
  | purgeCache => exact .purged
  | report lines => exact .reported lines

/-! ## Who is in progress -/

/-- Taking a slot without rendering anything concerns the governor alone. -/
theorem hold_eq (s : State) : s.hold.2 = { s with governor := s.hold.2.governor } := by
  unfold State.hold
  dsimp only
  split <;> rfl

@[simp]
theorem jobs_hold (s : State) : s.hold.2.jobs = s.jobs := by
  rw [hold_eq]

/-- A call that is in progress is the same as one before, though it may wait for something
else. -/
structure Continues (later job : Job) : Prop where
  id : later.id = job.id
  ticket : later.ticket = job.ticket
  document : later.document = job.document
  options : later.options = job.options

theorem Continues.refl (job : Job) : Continues job job :=
  ⟨rfl, rfl, rfl, rfl⟩

theorem Continues.trans {later mid : Job} (h : Continues later mid) (h' : Continues mid job) :
    Continues later job :=
  ⟨h.id.trans h'.id, h.ticket.trans h'.ticket, h.document.trans h'.document,
    h.options.trans h'.options⟩

theorem mem_jobs_fulfil {later : Job} (hlater : later ∈ (s.fulfil job fate).jobs) :
    later ∈ s.jobs ∨ Continues later job := by
  rcases fate.waits_or_ends s job with ⟨phase, rfl⟩ | ⟨outcome, houtcome⟩
  · rcases mem_jobs_wait hlater with rfl | ⟨hmem, -⟩
    · exact .inr ⟨rfl, rfl, rfl, rfl⟩
    · exact .inl hmem
  · rw [(releases_fulfil houtcome).jobs, mem_othersThan] at hlater
    exact .inl hlater.1

theorem mem_jobs_stirred {later : Job} (hstirred : s.Stirred studio engine s')
    (hlater : later ∈ s'.jobs) : ∃ job ∈ s.jobs, Continues later job := by
  cases hstirred with
  | unheard lines => exact ⟨later, hlater, .refl later⟩
  | heard lines hjob hphase hreplies hgrounds hconverted =>
      rcases mem_jobs_fulfil hlater with hmem | hsame
      · exact ⟨later, hmem, .refl later⟩
      · exact ⟨_, (mem_of_job? hjob).1, hsame⟩

theorem mem_jobs_started {later : Job} (hstarted : s.Started studio job s')
    (hlater : later ∈ s'.jobs) : (∃ old ∈ s.jobs, Continues later old) ∨ Continues later job := by
  cases hstarted with
  | opens lines hfate =>
      exact (mem_jobs_fulfil hlater).imp_left fun hold => ⟨later, hold, .refl later⟩
  | asks lines hformat hstirred =>
      obtain ⟨mid, hmid, hsame⟩ := mem_jobs_stirred hstirred hlater
      exact (mem_jobs_fulfil hmid).imp (fun hold => ⟨mid, hold, hsame⟩) hsame.trans

/-- Whoever is in progress after an event was so before, or has just arrived with valid
options. -/
theorem mem_jobs_step {later : Job} (studio : Studio)
    (hlater : later ∈ (s.step studio event).jobs) :
    (∃ job ∈ s.jobs, Continues later job) ∨ ∃ document options,
      event = .arrive document options ∧ options.validate = .ok () ∧
        Continues later (s.caller document options) := by
  have hhappens := happens_step studio s event
  generalize s.step studio event = s' at hhappens hlater
  have hold (hmem : later ∈ s.jobs) : (∃ job ∈ s.jobs, Continues later job) ∨
      ∃ document options, event = .arrive document options ∧ options.validate = .ok () ∧
        Continues later (s.caller document options) :=
    .inl ⟨later, hmem, .refl later⟩
  have hentered {document : Document} {options : RenderOptions} {old : Job}
      (hmem : old ∈ (s.entered document options).jobs) (hsame : Continues later old) :
      (∃ job ∈ s.jobs, Continues later job) ∨ Continues later (s.caller document options) := by
    rcases List.mem_append.1 hmem with hmem | hmem
    · exact .inl ⟨old, hmem, hsame⟩
    · exact .inr (List.mem_singleton.1 hmem ▸ hsame)
  cases hhappens with
  | @queued document options lines hvalid hqueued =>
      rcases hentered hlater (.refl later) with hjob | hsame
      · exact .inl hjob
      · exact .inr ⟨document, options, rfl, hvalid, hsame⟩
  | @admitted document options _ hvalid hgranted hstarted =>
      rcases mem_jobs_started hstarted hlater with ⟨old, hmem, hsame⟩ | hsame
      · rcases hentered hmem hsame with hjob | hsame
        · exact .inl hjob
        · exact .inr ⟨document, options, rfl, hvalid, hsame⟩
      · exact .inr ⟨document, options, rfl, hvalid, hsame.trans ⟨rfl, rfl, rfl, rfl⟩⟩
  | called hjob hphase hpromised hstarted =>
      rcases mem_jobs_started hstarted hlater with hjob | hsame
      · exact .inl hjob
      · exact .inl ⟨_, (mem_of_job? hjob).1, hsame.trans ⟨rfl, rfl, rfl, rfl⟩⟩
  | rasterized hjob hphase =>
      rcases mem_jobs_fulfil hlater with hmem | hsame
      · exact hold hmem
      · exact .inl ⟨_, (mem_of_job? hjob).1, hsame⟩
  | saved lines filepath hjob hphase =>
      rcases mem_jobs_fulfil hlater with hmem | hsame
      · exact hold hmem
      · exact .inl ⟨_, (mem_of_job? hjob).1, hsame⟩
  | expired hjob hlimit hphase =>
      rcases mem_jobs_fulfil hlater with hmem | hsame
      · exact hold hmem
      · exact .inl ⟨_, (mem_of_job? hjob).1, hsame⟩
  | left hjob => exact hold (mem_othersThan.1 hlater).1
  | stirred hstep hstirred => exact .inl (mem_jobs_stirred hstirred hlater)
  | asked hstirred =>
      obtain ⟨job, hjob, hsame⟩ := mem_jobs_stirred hstirred hlater
      exact .inl ⟨job, hjob, hsame⟩
  | held =>
      refine hold ?_
      rwa [jobs_hold] at hlater
  | _ => exact hold hlater

end State

end CanvasPress.Press

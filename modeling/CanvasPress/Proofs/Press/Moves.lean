/-
# Events as sequences of moves

An event takes a call through several parts of the press at once: a waiting call
that looks may find its artifact, or be composed, converted and stored.  Here each
event is taken apart into moves, each of which changes one thing and says why it
may.  What every move preserves, every event and every run preserves.

A move lists what it adds to the history of the press: the calls that it ends, and
whether it clears the cache.
-/

import CanvasPress.Press.Basic
import CanvasPress.Proofs.Cache.History
import CanvasPress.Proofs.Engine.Answers

namespace CanvasPress.Press

/-- An event in the history of a press. -/
inductive Mark where
  | finished (call : Finished)
  | cleared

/-- The press lists the call that works as `job` under its number; only its phase and
its deadline may have to be brought up to date. -/
structure State.Knows (s : State) (job known : Job) : Prop where
  listed : s.job? job.id = some known
  document : known.document = job.document
  options : known.options = job.options

/-- How the conversion of a call comes about, by the phase in which it is listed. -/
inductive State.Converts (studio : Studio) (s : State) (job known : Job) :
    Work → Except Fault Conversion → Prop where
  | vector {work : Work} (hphase : known.phase = .queued)
      (hkey : work.key = cacheKey job.document job.options)
      (hformat : job.options.format = .vector) :
      Converts studio s job known work (.ok (.vector work.svg false))
  | raster {work : Work} {ends : Nat} (hphase : known.phase = .rastering work ends) :
      Converts studio s job known work
        (Conversion.raster (studio.painter job.id) work.svg job.options
          studio.settings.rasterQuality)
  /-- The engine has failed, so the markup is delivered instead. -/
  | fallback {work : Work} {reason : String} (hphase : known.phase = .paginating work)
      (hfailed : s.engine.status = .failed reason) :
      Converts studio s job known work (.ok (.vector work.svg true))
  | printed {work : Work} {pdf : ByteArray} (hphase : known.phase = .paginating work)
      (hreply : (job.id, .printed pdf) ∈ s.engine.replies) :
      Converts studio s job known work (.ok (.paginated pdf job.options))
  | misprinted {work : Work} {fault : Fault} (hphase : known.phase = .paginating work)
      (hreply : (job.id, .misprinted fault) ∈ s.engine.replies) :
      Converts studio s job known work (.error fault)
  /-- The copy of what was converted before has been written or given up. -/
  | kept {work : Work} {conversion : Conversion} {ends : Nat}
      (hphase : known.phase = .saving work conversion ends) :
      Converts studio s job known work (.ok conversion)

/-- A call that ends now. -/
def State.ending (s : State) (job : Job) (outcome : Except Fault Rendering) : Finished :=
  ⟨job.id, job.document, job.options, s.now, outcome⟩

/-- Whoever asks the engine has been given a number and does not wait for a slot. -/
def State.Asks (s : State) : Engine.Step → Prop
  | .ask who _ => who < s.nextId ∧ ∀ job ∈ s.jobs, job.id = who → job.phase ≠ .queued
  | _ => True

/-- One change of a press. -/
inductive Move (studio : Studio) (s : State) : List Mark → State → Prop where
  | report (lines : List LogLine) : Move studio s [] (s.report lines)
  | advance (nanos : Nat) : Move studio s [] (s.advance nanos)
  | govern (governor : Governor) : Move studio s [] { s with governor := governor }
  /-- A number is used up by a call that is not one of the press. -/
  | number : Move studio s [] { s with nextId := s.nextId + 1 }
  | engine (step : Engine.Step) (hasks : s.Asks step) :
      Move studio s [] { s with
        engine := s.engine.apply studio.settings.engine studio.browser s.now step }
  | reject (document : Document) (options : RenderOptions) (fault : Fault) :
      Move studio s [.finished ⟨s.nextId, document, options, s.now, .error fault⟩]
        (s.reject document options fault)
  | enter (ticket : Nat) (document : Document) (options : RenderOptions) :
      Move studio s [] { s with
        jobs := s.jobs ++ [⟨s.nextId, ticket, document, options, none, .queued⟩]
        nextId := s.nextId + 1 }
  | drop (id : Nat) : Move studio s [] { s with jobs := s.othersThan id }
  /-- A lookup drops what is stale under its key. -/
  | lookUp {cache : Cache Rendering} (document : Document) (options : RenderOptions)
      (hcache : s.cache = some cache) :
      Move studio s [] { s with cache := some (cache.get s.now (cacheKey document options)).2 }
  | hit {job known : Job} {cache : Cache Rendering} {rendering : Rendering}
      (hknows : s.Knows job known) (hphase : known.phase = .queued) (hcache : s.cache = some cache)
      (hhit : (cache.get s.now (cacheKey job.document job.options)).1 = .hit rendering) :
      Move studio s [.finished (s.ending job (.ok rendering.asHit))]
        ({ s with hits := s.hits + 1 }.finish job (.ok rendering.asHit))
  | rasterize {job known : Job} {work : Work} (ends : Nat) (hknows : s.Knows job known)
      (hphase : known.phase = .queued)
      (hkey : work.key = cacheKey job.document job.options)
      (hformat : job.options.format = .raster) :
      Move studio s [] (s.wait job (.rastering work ends))
  | paginate {job known : Job} {work : Work} (hknows : s.Knows job known)
      (hphase : known.phase = .queued)
      (hkey : work.key = cacheKey job.document job.options)
      (hformat : job.options.format = .paginated) :
      Move studio s [] (s.wait job (.paginating work))
  | save {job known : Job} {work : Work} {conversion : Conversion} (ends : Nat)
      (hknows : s.Knows job known)
      (hconverts : s.Converts studio job known work (.ok conversion)) :
      Move studio s [] (s.wait job (.saving work conversion ends))
  | deliver {job known : Job} {work : Work} {conversion : Conversion} (filepath : Option String)
      (hknows : s.Knows job known)
      (hconverts : s.Converts studio job known work (.ok conversion)) :
      Move studio s
        [.finished (s.ending job (.ok (s.renderingOf job work conversion filepath)))]
        (s.deliver job work conversion filepath)
  | fail {job known : Job} {work : Work} {fault : Fault} (hknows : s.Knows job known)
      (hconverts : s.Converts studio job known work (.error fault)) :
      Move studio s [.finished (s.ending job (.error fault))] (s.finish job (.error fault))
  | expire {job known : Job} (ms : Nat) (hknows : s.Knows job known)
      (hphase : known.phase ≠ .queued) :
      Move studio s [.finished (s.ending job (.error (.timeout ms)))]
        (s.finish job (.error (.timeout ms)))
  | purge : Move studio s [] s.purgeCache
  | clear : Move studio s [.cleared] s.clearCache

/-- Moves in order, with all that they add to the history. -/
inductive Moves (studio : Studio) (s : State) : List Mark → State → Prop where
  | refl : Moves studio s [] s
  | tail {marks more : List Mark} {mid last : State} (before : Moves studio s marks mid)
      (move : Move studio mid more last) : Moves studio s (marks ++ more) last

variable {studio : Studio} {s s' mid : State} {job known : Job}

theorem Moves.trans {marks more : List Mark} (first : Moves studio s marks mid)
    (second : Moves studio mid more s') : Moves studio s (marks ++ more) s' := by
  induction second with
  | refl => rwa [List.append_nil]
  | tail _ last ih =>
      rw [← List.append_assoc]
      exact ih.tail last

/-- One state leads to another by moves that clear nothing. -/
def Leads (studio : Studio) (s s' : State) : Prop :=
  ∃ ended : List Finished, Moves studio s (ended.map .finished) s'

theorem Leads.refl (s : State) : Leads studio s s :=
  ⟨[], .refl⟩

theorem Leads.trans (first : Leads studio s mid) (second : Leads studio mid s') :
    Leads studio s s' := by
  obtain ⟨ended, hfirst⟩ := first
  obtain ⟨more, hsecond⟩ := second
  refine ⟨ended ++ more, ?_⟩
  rw [List.map_append]
  exact hfirst.trans hsecond

theorem Leads.quiet (before : Leads studio s mid) (last : Move studio mid [] s') :
    Leads studio s s' := by
  obtain ⟨ended, hbefore⟩ := before
  exact ⟨ended, by simpa using hbefore.tail last⟩

theorem Leads.ends {call : Finished} (before : Leads studio s mid)
    (last : Move studio mid [.finished call] s') : Leads studio s s' := by
  obtain ⟨ended, hbefore⟩ := before
  exact ⟨ended ++ [call], by simpa using hbefore.tail last⟩

namespace State

/-! ## The calls that a press knows -/

/-- Every call in progress has a number that was given to it. -/
def HasNumbers (s : State) : Prop :=
  ∀ job ∈ s.jobs, job.id < s.nextId

theorem mem_of_job? {id : Nat} (h : s.job? id = some job) : job ∈ s.jobs ∧ job.id = id :=
  ⟨List.mem_of_find?_eq_some h, by simpa using List.find?_some h⟩

/-- Whom the press knows is a matter of the calls in progress alone. -/
theorem Knows.congr (h : s.Knows job known) (hjobs : s'.jobs = s.jobs) : s'.Knows job known where
  listed := by
    rw [job?, hjobs]
    exact h.listed
  document := h.document
  options := h.options

/-- A listed call knows itself. -/
theorem knows_self {id : Nat} (h : s.job? id = some job) : s.Knows job job := by
  obtain ⟨-, rfl⟩ := mem_of_job? h
  exact ⟨h, rfl, rfl⟩

/-- A known call has its number from the press. -/
theorem Knows.id_lt (hknows : s.Knows job known) (hs : s.HasNumbers) : job.id < s.nextId := by
  obtain ⟨hmem, hid⟩ := mem_of_job? hknows.listed
  exact hid ▸ hs known hmem

/-- The calls in progress while one of them waits in a new phase. -/
theorem mem_jobs_wait {other : Job} {phase : Phase} (h : other ∈ (s.wait job phase).jobs) :
    other = { job with phase := phase } ∨ (other ∈ s.jobs ∧ other.id ≠ job.id) := by
  obtain ⟨before, hbefore, rfl⟩ := List.mem_map.1 h
  by_cases hid : before.id = job.id
  · exact .inl (if_pos hid)
  · rw [if_neg hid]
    exact .inr ⟨hbefore, hid⟩

/-- A call that waits for the engine may ask it. -/
theorem Knows.asks (hknows : s.Knows job known) (hnumbers : s.HasNumbers) {work : Work}
    {request : Engine.Request} :
    (s.wait job (.paginating work)).Asks (.ask job.id request) := by
  refine ⟨hknows.id_lt hnumbers, fun other hother hid => ?_⟩
  rcases mem_jobs_wait hother with rfl | ⟨-, hother⟩
  · exact fun h => by cases h
  · exact absurd hid hother

/-! ## Conversions -/

theorem leads_converted {work : Work} {outcome : Except Fault Conversion}
    (hknows : s.Knows job known) (hconverts : s.Converts studio job known work outcome) :
    Leads studio s (s.converted studio job work outcome) := by
  cases outcome with
  | error fault => exact (Leads.refl s).ends (.fail hknows hconverts)
  | ok conversion =>
      simp only [converted]
      cases studio.settings.outputPath with
      | none => exact (Leads.refl s).ends (.deliver none hknows hconverts)
      | some _ => exact (Leads.refl s).quiet (.save _ hknows hconverts)

/-! ## Answers of the engine -/

/-- An answer that the engine has given takes its call on. -/
theorem leads_passOn {who : Nat} {answer : Engine.Reply}
    (hgiven : (who, answer) ∈ s.engine.replies)
    (hfailed : ∀ reason, answer = .unavailable reason → s.engine.status = .failed reason) :
    Leads studio s (s.passOn studio (who, answer)) := by
  cases hjob : s.job? who with
  | none =>
      simp only [passOn, hjob]
      exact .refl s
  | some job =>
      obtain ⟨-, rfl⟩ := mem_of_job? hjob
      have hknows := knows_self hjob
      cases hphase : job.phase with
      | paginating work =>
          simp only [passOn, hjob, hphase]
          cases answer with
          | unavailable reason =>
              have hreported : (s.report (Engine.fallbackLog reason)).Knows job job :=
                hknows.congr rfl
              exact ((Leads.refl s).quiet (.report _)).trans
                (leads_converted hreported (.fallback hphase (hfailed reason rfl)))
          | printed pdf => exact leads_converted hknows (.printed hphase hgiven)
          | misprinted fault => exact leads_converted hknows (.misprinted hphase hgiven)
          | ready => exact .refl s
          | done => exact .refl s
          | status found attempts printed => exact .refl s
      | queued =>
          simp only [passOn, hjob, hphase]
          exact .refl s
      | rastering work ends =>
          simp only [passOn, hjob, hphase]
          exact .refl s
      | saving work conversion ends =>
          simp only [passOn, hjob, hphase]
          exact .refl s

/-- A step of the engine leads on, since it answers one caller at most. -/
theorem leads_withEngine (step : Engine.Step) (hasks : s.Asks step) (lines : List LogLine) :
    Leads studio s (s.withEngine studio
      (s.engine.apply studio.settings.engine studio.browser s.now step) lines) := by
  have hengine := Engine.answersOnce_apply studio.settings.engine studio.browser s.now s.engine step
  generalize happlied : s.engine.apply studio.settings.engine studio.browser s.now step = engine
    at hengine ⊢
  have hmoved : Leads studio s ({ s with engine := engine }.report lines) := by
    subst happlied
    exact ((Leads.refl s).quiet (.engine step hasks)).quiet (.report lines)
  rcases hengine with hsame | ⟨who, answer, hreplies, hgrounds⟩
  · simpa [withEngine, hsame] using hmoved
  · have hnew : (engine.replies.take (engine.replies.length - s.engine.replies.length)).reverse =
        [(who, answer)] := by
      simp [hreplies]
    simp only [withEngine, hnew, List.foldl_cons, List.foldl_nil]
    refine hmoved.trans (leads_passOn ?_ fun reason hanswer => ?_)
    · change (who, answer) ∈ engine.replies
      rw [hreplies]
      exact List.mem_cons_self
    · subst hanswer
      cases hgrounds with
      | unavailable hfailed => exact hfailed

/-! ## A call that begins to work -/

/-- A call whose document has been composed is converted. -/
theorem leads_convert {work : Work} (hnumbers : s.HasNumbers) (hknows : s.Knows job known)
    (hphase : known.phase = .queued)
    (hkey : work.key = cacheKey job.document job.options) :
    Leads studio s (s.convert studio job work) := by
  cases hformat : job.options.format with
  | vector =>
      simp only [convert, hformat]
      exact leads_converted hknows (.vector hphase hkey hformat)
  | raster =>
      simp only [convert, hformat]
      exact (Leads.refl s).quiet (.rasterize _ hknows hphase hkey hformat)
  | paginated =>
      simp only [convert, hformat]
      exact ((Leads.refl s).quiet (.paginate hknows hphase hkey hformat)).trans
        (leads_withEngine (.ask job.id _) (hknows.asks hnumbers) _)

theorem leads_composed (hnumbers : s.HasNumbers) (hknows : s.Knows job known)
    (hphase : known.phase = .queued) :
    Leads studio s (s.composed studio job (cacheKey job.document job.options)) := by
  simp only [composed]
  exact ((Leads.refl s).quiet (.report _)).trans
    (leads_convert hnumbers (hknows.congr rfl) hphase rfl)

/-- A waiting call that has its slot looks its artifact up and is composed if it finds
none. -/
theorem leads_begin (hnumbers : s.HasNumbers) (hknows : s.Knows job known)
    (hphase : known.phase = .queued) :
    Leads studio s (s.begin studio job) := by
  let timed : Job := { job with
    deadline := studio.settings.renderTimeoutMs.map fun ms => s.now + millis ms }
  have htimed : s.Knows timed known := ⟨hknows.listed, hknows.document, hknows.options⟩
  cases hcache : s.cache with
  | none =>
      simp only [begin, hcache]
      exact leads_composed hnumbers htimed hphase
  | some cache =>
      let key := cacheKey job.document job.options
      have hlooked : Leads studio s
          ({ s with cache := some (cache.get s.now key).2 }.report (cache.getLog s.now key)) :=
        ((Leads.refl s).quiet (.lookUp job.document job.options hcache)).quiet (.report _)
      simp only [begin, hcache]
      cases hfound : (cache.get s.now key).1 with
      | hit rendering =>
          have hkept : some (cache.get s.now key).2 = some cache := by
            rw [Cache.get_of_hit hfound]
          exact (hlooked.quiet (.report _)).ends (.hit (htimed.congr rfl) hphase hkept hfound)
      | miss =>
          exact (hlooked.quiet (.report _)).trans
            (leads_composed hnumbers (htimed.congr rfl) hphase)
      | aborted report =>
          exact (hlooked.quiet (.report _)).trans
            (leads_composed hnumbers (htimed.congr rfl) hphase)

/-! ## Events -/

/-- A new call is given the next number. -/
theorem HasNumbers.enter (hnumbers : s.HasNumbers) (hid : job.id = s.nextId)
    (hjobs : s'.jobs = s.jobs ++ [job]) (hnext : s'.nextId = s.nextId + 1) :
    s'.HasNumbers := by
  intro other hother
  rw [hjobs] at hother
  rw [hnext]
  rcases List.mem_append.1 hother with hother | hother
  · exact Nat.lt_succ_of_lt (hnumbers other hother)
  · rw [List.mem_singleton.1 hother, hid]
    exact Nat.lt_succ_self _

/-- A new call is listed at once. -/
theorem job?_enter (hnumbers : s.HasNumbers) (hid : job.id = s.nextId) :
    (s.jobs ++ [job]).find? (fun j => j.id == job.id) = some job := by
  have hothers : s.jobs.find? (fun j => j.id == job.id) = none := by
    refine List.find?_eq_none.2 fun other hother => ?_
    have hless := hnumbers other hother
    simp only [beq_iff_eq]
    omega
  simp [List.find?_append, hothers]

theorem leads_arrive (hnumbers : s.HasNumbers) (document : Document) (options : RenderOptions) :
    Leads studio s (s.arrive studio document options) := by
  unfold arrive
  split
  next cause _ => exact (Leads.refl s).ends (.reject document options _)
  next =>
    have hentered : Leads studio s { s with
        governor := s.governor.acquire.2
        jobs := s.jobs ++
          [⟨s.nextId, s.governor.nextTicket, document, options, none, .queued⟩]
        nextId := s.nextId + 1 } :=
      ((Leads.refl s).quiet (.govern s.governor.acquire.2)).quiet
        (.enter s.governor.nextTicket document options)
    dsimp only
    split
    next waiting limit _ =>
      exact ((Leads.refl s).quiet (.govern s.governor.acquire.2)).ends
        (.reject document options _)
    next => exact hentered.quiet (.report _)
    next =>
      exact hentered.trans
        (leads_begin (hnumbers.enter rfl rfl rfl) ⟨job?_enter hnumbers rfl, rfl, rfl⟩ rfl)

theorem leads_look (hnumbers : s.HasNumbers) (id : Nat) : Leads studio s (s.look studio id) := by
  unfold look
  split
  next job hjob =>
    split
    next hphase =>
      split_ifs with hpromised
      · exact ((Leads.refl s).quiet (.govern (s.governor.poll job.ticket))).trans
          (leads_begin hnumbers ((knows_self hjob).congr rfl) hphase)
      · exact .refl s
    next => exact .refl s
  next => exact .refl s

theorem leads_proceed (id : Nat) : Leads studio s (s.proceed studio id) := by
  unfold proceed
  split
  next job hjob =>
    have hknows := knows_self hjob
    split
    next work ends hphase => exact leads_converted hknows (.raster hphase)
    next work conversion ends hphase =>
      dsimp only
      split
      next => exact (Leads.refl s).ends (.deliver _ hknows (.kept hphase))
      next =>
        exact ((Leads.refl s).quiet (.report _)).ends
          (.deliver none (hknows.congr rfl) (.kept hphase))
    next => exact .refl s
  next => exact .refl s

theorem leads_expire (id : Nat) : Leads studio s (s.expire studio id) := by
  unfold expire
  split
  next job ms hjob _ =>
    have hknows := knows_self hjob
    split
    next => exact .refl s
    next hphase =>
      exact ((Leads.refl s).quiet (.engine (.leave id) trivial)).ends
        (.expire ms (hknows.congr rfl) hphase)
  next => exact .refl s

theorem leads_leave (id : Nat) : Leads studio s (s.leave id) := by
  unfold leave
  split
  next =>
    exact (((Leads.refl s).quiet (.drop id)).quiet (.govern _)).quiet (.engine (.leave id) trivial)
  next => exact (Leads.refl s).quiet (.engine (.leave id) trivial)

theorem leads_hold (s : State) : Leads studio s s.hold.2 := by
  unfold hold
  dsimp only
  split <;> exact (Leads.refl s).quiet (.govern _)

/-- Every event but the clearing of the cache takes the press on by moves that clear
nothing. -/
theorem leads_step (hnumbers : s.HasNumbers) {event : Event} (hclear : event ≠ .clearCache) :
    Leads studio s (s.step studio event) := by
  cases event with
  | arrive document options => exact leads_arrive hnumbers document options
  | look id => exact leads_look hnumbers id
  | proceed id => exact leads_proceed id
  | expire id => exact leads_expire id
  | leave id => exact leads_leave id
  | settle => exact leads_withEngine .settle trivial _
  | serveNext => exact leads_withEngine .serveNext trivial _
  | endPrint who => exact leads_withEngine (.endPrint who) trivial _
  | askEngine request =>
      -- The number that is used up is nobody's among the calls in progress.
      have hasks : ({ s with nextId := s.nextId + 1 } : State).Asks (.ask s.nextId request) :=
        ⟨Nat.lt_succ_self _, fun job hjob hid => absurd hid (Nat.ne_of_lt (hnumbers job hjob))⟩
      exact ((Leads.refl s).quiet .number).trans (leads_withEngine _ hasks _)
  | hold => exact leads_hold s
  | unhold ticket => exact (Leads.refl s).quiet (.govern _)
  | advance nanos => exact (Leads.refl s).quiet (.advance nanos)
  | clearCache => exact absurd rfl hclear
  | purgeCache => exact (Leads.refl s).quiet .purge
  | report lines => exact (Leads.refl s).quiet (.report lines)

end State

end CanvasPress.Press

/-
# Where artifacts come from

Whatever a press delivers was made for a request: the document was composed at some time
of day, what was composed was converted in one of four ways, and the artifact tells what
came of it.  A call either makes its artifact itself, or it is served what a call with the
same key has made before.

Two properties of a press carry this.  It is `Backed`: what is in its cache, and what has
been served from it, was stored by calls that have ended; this is read off the moves, which
know lookups and deliveries.  And it is `Truthful`: calls in progress work on what they were
asked for, and calls that have made an artifact have made it for their own request; this is
read off the turns, which know what is composed and what is printed.
-/

import CanvasPress.Proofs.Press.Isolation

namespace CanvasPress

/-- What comes of a print is what the browser returned. -/
theorem Conversion.printed_eq_ok_iff {ending : Ending ByteArray} {pdf : ByteArray} :
    Conversion.printed ending = .ok pdf ↔ ending = .returned pdf := by
  constructor
  · intro h
    unfold Conversion.printed at h
    split at h
    all_goals cases h
    rfl
  · rintro rfl
    rfl

/-- What is converted into a picture does not depend on who paints it. -/
theorem Conversion.raster_sound_of_raster {painter : Picture.Painter} {svg : String}
    {options : RenderOptions} {quality : Nat} {conversion : Conversion}
    (h : raster painter svg options quality = .ok conversion) :
    raster .sound svg options quality = .ok conversion := by
  unfold raster at h ⊢
  cases hpainted : Picture.painted (painter.paint (orderOf svg options quality)) with
  | error fault =>
      rw [hpainted] at h
      cases h
  | ok image =>
      rw [hpainted] at h
      rw [Picture.painted_sound_of_painted hpainted]
      exact h

/-- Metadata tell a request and what it was converted into. -/
structure Metadata.Describes (metadata : Metadata) (options : RenderOptions)
    (conversion : Conversion) : Prop where
  requestedFormat : metadata.requestedFormat = options.format
  format : metadata.format = conversion.format
  theme : metadata.theme = options.theme
  width : metadata.width = options.width
  height : metadata.height = options.height
  dpi : metadata.dpi = options.dpi
  fallback : metadata.fallback = conversion.fallback

namespace Press

variable {studio : Studio} {s s' : State} {job known : Job} {fate : Fate} {engine : Engine}
  {document : Document} {options : RenderOptions} {event : Event} {marks : List Mark} {id : Nat}

/-! ## What is made for a request -/

/-- The markup composed for a request at a time of day. -/
def Studio.svg (studio : Studio) (document : Document) (options : RenderOptions)
    (time : Timestamp) : String :=
  document.compose (studio.templates.get document.kind options.theme) options time

/-- How composed markup may be converted for some options. -/
inductive Studio.Produces (studio : Studio) (svg : String) (options : RenderOptions) :
    Conversion → Prop where
  | markup (hformat : options.format = .vector) :
      Produces studio svg options (.vector svg false)
  /-- Whoever has painted the picture, it is the one that nothing gets in the way of. -/
  | picture {conversion : Conversion} (hformat : options.format = .raster)
      (hpicture : Conversion.raster .sound svg options studio.settings.rasterQuality =
        .ok conversion) : Produces studio svg options conversion
  | pages {number : Nat} {pdf : ByteArray} (hformat : options.format = .paginated)
      (hreturned : (studio.browser.print number (Page.around svg) .a4Landscape).ending =
        .returned pdf) : Produces studio svg options (.paginated pdf options)
  /-- The engine has failed. -/
  | standIn (hformat : options.format = .paginated) :
      Produces studio svg options (.vector svg true)

/-- A rendering is what a conversion has made for a request. -/
structure Tells (studio : Studio) (document : Document) (options : RenderOptions)
    (conversion : Conversion) (rendering : Rendering) : Prop where
  produced : studio.Produces (studio.svg document options rendering.metadata.generatedAt) options
    conversion
  format : rendering.format = conversion.format
  mediaType : rendering.mediaType = conversion.mediaType
  body : rendering.body = conversion.body
  size : rendering.sizeBytes = conversion.body.size
  filename : rendering.filename =
    artifactName rendering.metadata.generatedAt (cacheKey document options) conversion
  /-- A copy is under the directory for copies, if there is one. -/
  filepath : ∀ path, rendering.filepath = some path → ∃ directory,
    studio.settings.outputPath = some directory ∧ path = Path.join directory rendering.filename
  metadata : rendering.metadata.Describes options conversion

/-- A rendering was made for a request. -/
def IsMadeFor (studio : Studio) (document : Document) (options : RenderOptions)
    (rendering : Rendering) : Prop :=
  ∃ conversion, Tells studio document options conversion rendering

/-- Whether a rendering was served from the cache is not what it was made for. -/
theorem IsMadeFor.asHit {rendering : Rendering} (h : IsMadeFor studio document options rendering) :
    IsMadeFor studio document options rendering.asHit := by
  obtain ⟨conversion, htells⟩ := h
  have hmetadata := htells.metadata
  exact ⟨conversion, htells.produced, htells.format, htells.mediaType, htells.body, htells.size,
    htells.filename, htells.filepath, hmetadata.requestedFormat, hmetadata.format, hmetadata.theme,
    hmetadata.width, hmetadata.height, hmetadata.dpi, hmetadata.fallback⟩

/-! ## What the cache goes back to -/

/-- A call that has ended has stored a rendering under a key. -/
def State.Stored (s : State) (key : String) (rendering : Rendering) : Prop :=
  ∃ maker ∈ s.finished, maker.Stores rendering ∧ cacheKey maker.document maker.options = key

theorem State.Stored.mono {key : String} {rendering : Rendering} (h : s.Stored key rendering)
    (hfinished : s.finished ⊆ s'.finished) : s'.Stored key rendering := by
  obtain ⟨maker, hmaker, hstores, hkey⟩ := h
  exact ⟨maker, hfinished hmaker, hstores, hkey⟩

/-- What is in the cache, and what was served from it, was stored under the same key. -/
structure State.Backed (s : State) : Prop where
  entries : ∀ entry ∈ s.entries, s.Stored entry.key entry.value
  calls : ∀ call ∈ s.finished, ∀ rendering, call.outcome = .ok rendering →
    rendering.metadata.cacheHit = true → ∃ stored,
      s.Stored (cacheKey call.document call.options) stored ∧ rendering = stored.asHit

namespace State.Backed

theorem fresh (settings : Settings) (governor : Governor) :
    (State.fresh settings governor).Backed := by
  refine ⟨fun entry hentry => ?_, fun call hcall => absurd hcall List.not_mem_nil⟩
  unfold State.entries State.fresh at hentry
  split_ifs at hentry
  · cases hentry
  · cases hentry

/-- Nothing has ended, and the cache has lost entries at most. -/
theorem congr (h : s.Backed) (hfinished : s'.finished = s.finished)
    (hentries : s'.entries ⊆ s.entries) : s'.Backed where
  entries entry hentry :=
    (h.entries entry (hentries hentry)).mono (hfinished ▸ List.Subset.refl _)
  calls call hcall rendering houtcome hhit := by
    rw [hfinished] at hcall
    obtain ⟨stored, hstored, hsame⟩ := h.calls call hcall rendering houtcome hhit
    exact ⟨stored, hstored.mono (hfinished ▸ List.Subset.refl _), hsame⟩

/-- A call has ended that is answered for, and only what it has stored is new. -/
theorem ends {call : Finished} (h : s.Backed) (hfinished : s'.finished = call :: s.finished)
    (hentries : ∀ entry ∈ s'.entries, entry ∈ s.entries ∨
      call.Stores entry.value ∧ cacheKey call.document call.options = entry.key)
    (hserved : ∀ rendering, call.outcome = .ok rendering → rendering.metadata.cacheHit = true →
      ∃ stored, s.Stored (cacheKey call.document call.options) stored ∧
        rendering = stored.asHit) : s'.Backed := by
  have hgrown : s.finished ⊆ s'.finished := by
    rw [hfinished]
    exact List.subset_cons_self _ _
  refine ⟨fun entry hentry => ?_, fun other hother rendering houtcome hhit => ?_⟩
  · rcases hentries entry hentry with hold | hnew
    · exact (h.entries entry hold).mono hgrown
    · exact ⟨call, hfinished ▸ List.mem_cons_self, hnew⟩
  · have hstored : ∃ stored, s.Stored (cacheKey other.document other.options) stored ∧
        rendering = stored.asHit := by
      rw [hfinished] at hother
      rcases List.mem_cons.1 hother with rfl | hother
      · exact hserved rendering houtcome hhit
      · exact h.calls other hother rendering houtcome hhit
    obtain ⟨stored, hstored, hsame⟩ := hstored
    exact ⟨stored, hstored.mono hgrown, hsame⟩

/-- A call that fails stores nothing and was served nothing. -/
theorem fails {call : Finished} {fault : Fault} (h : s.Backed)
    (hfinished : s'.finished = call :: s.finished) (hcache : s'.cache = s.cache)
    (houtcome : call.outcome = .error fault) : s'.Backed := by
  have hentries : s'.entries = s.entries := by rw [State.entries, State.entries, hcache]
  refine h.ends hfinished (fun entry hentry => .inl (hentries ▸ hentry)) fun rendering hok => ?_
  rw [houtcome] at hok
  cases hok

end State.Backed

/-- Every move keeps a press backed. -/
theorem Move.backed (h : Move studio s marks s') (hfitting : s.Fitting) (hs : s.Backed) :
    s'.Backed := by
  cases h with
  | reject document options fault => exact hs.fails rfl rfl rfl
  | lookUp document options hcache =>
      refine hs.congr rfl ?_
      rw [State.entries_eq hcache]
      exact Cache.entries_get_subset _ _ _
  | @hit job _ cache rendering hknows hphase hcache hhit =>
      obtain ⟨-, entry, hentry, -, rfl⟩ := Cache.entry?_of_hit hhit
      have hmem : entry ∈ s.entries := by
        rw [State.entries_eq hcache]
        exact List.mem_of_find?_eq_some hentry
      have hkey : entry.key = cacheKey job.document job.options := by
        simpa using List.find?_some hentry
      refine hs.ends (State.closes_hit _ _ _).finished (fun other hother => .inl ?_)
        fun served hserved _ => ?_
      · rwa [State.entries, State.cache_finish] at hother
      · cases hserved
        exact ⟨entry.value, hkey ▸ hs.entries entry hmem, rfl⟩
  | @deliver job _ work conversion filepath hknows hconverts =>
      obtain ⟨hkey, -⟩ := hconverts.suits hfitting hknows
      refine hs.ends (State.closes_deliver _ _ _ _ _).finished (fun entry hentry => ?_)
        fun rendering hrendering hhit => ?_
      · rcases mem_entries_deliver hentry with rfl | hold
        · exact .inr ⟨⟨rfl, rfl⟩, hkey.symm⟩
        · exact .inl hold
      · cases hrendering
        cases hhit
  | fail => exact hs.fails (State.closes_finish _ _ _).finished (State.cache_finish _ _ _) rfl
  | expire => exact hs.fails (State.closes_finish _ _ _).finished (State.cache_finish _ _ _) rfl
  | purge =>
      refine hs.congr rfl ?_
      cases hcache : s.cache with
      | none => simp [State.entries, State.purgeCache, hcache]
      | some cache =>
          rw [State.entries_eq hcache]
          simpa [State.entries, State.purgeCache, hcache] using Cache.entries_purge_subset _ _
  | clear =>
      refine hs.congr rfl ?_
      cases hcache : s.cache with
      | none => simp [State.entries, State.clearCache, hcache]
      | some cache =>
          rw [State.entries_eq hcache]
          simpa [State.entries, State.clearCache, hcache] using Cache.entries_clear_subset _
  | _ => exact hs.congr rfl (List.Subset.refl _)

theorem State.Backed.run (h : s.Backed) (hnumbered : s.Numbered) (hfitting : s.Fitting)
    (studio : Studio) (events : List Event) : (s.run studio events).Backed := by
  have hkept {s s' : State} {marks : List Mark} (hmove : Move studio s marks s')
      (hs : s.Fitting ∧ s.Backed) : s'.Fitting ∧ s'.Backed :=
    ⟨hmove.fitting hs.1, hmove.backed hs.1 hs.2⟩
  exact ((run_moves hnumbered studio events).preserve hkept ⟨hfitting, h⟩).2

/-! ## What calls work on -/

/-- Work is for a request. -/
structure Work.IsFor (studio : Studio) (document : Document) (options : RenderOptions)
    (work : Work) : Prop where
  key : work.key = cacheKey document options
  svg : work.svg = studio.svg document options work.generatedAt

/-- Whoever waits in a phase works on what he was asked for. -/
def Phase.IsFor (studio : Studio) (document : Document) (options : RenderOptions) : Phase → Prop
  | .queued => True
  | .rastering work _ => work.IsFor studio document options ∧ options.format = .raster
  | .paginating work => work.IsFor studio document options ∧ options.format = .paginated
  | .saving work conversion _ =>
    work.IsFor studio document options ∧ studio.Produces work.svg options conversion ∧
      studio.settings.outputPath.isSome = true

/-- What becomes of a call that has its turn fits its request. -/
def Fate.IsFor (studio : Studio) (job : Job) : Fate → Prop
  | .waits phase => phase.IsFor studio job.document job.options
  | .served _ => True
  | .delivered work conversion filepath =>
    work.IsFor studio job.document job.options ∧
      studio.Produces work.svg job.options conversion ∧
      ∀ path, filepath = some path → ∃ directory, studio.settings.outputPath = some directory ∧
        path = Path.join directory (artifactName work.generatedAt work.key conversion)
  | .failed _ => True

/-- A conversion that has ended as the request asks leads on as it asks. -/
theorem isFor_fateOf {work : Work} {outcome : Except Fault Conversion}
    (hwork : work.IsFor studio job.document job.options)
    (houtcome : ∀ conversion, outcome = .ok conversion →
      studio.Produces work.svg job.options conversion) (now : Nat) :
    (State.fateOf studio now work outcome).IsFor studio job := by
  cases outcome with
  | error fault => trivial
  | ok conversion =>
      simp only [State.fateOf]
      cases hdirectory : studio.settings.outputPath with
      | none => exact ⟨hwork, houtcome conversion rfl, fun path hpath => by cases hpath⟩
      | some directory =>
          exact ⟨hwork, houtcome conversion rfl, by rw [hdirectory, Option.isSome_some]⟩

/-- An answer of the engine with its grounds makes of the work what the request asks. -/
theorem produces_of_answer {work : Work} {answer : Engine.Reply} {who : Nat}
    {conversion : Conversion} (hformat : options.format = .paginated)
    (hgrounds : Engine.Grounds studio.browser s.engine.printing engine who answer)
    (hprints : ∀ p ∈ s.engine.printing, p.caller = who → (p.html, p.page) = work.page)
    (hconverted : work.converted? options answer = some (.ok conversion)) :
    studio.Produces work.svg options conversion := by
  cases hgrounds with
  | unavailable hstatus =>
      cases hconverted
      exact .standIn hformat
  | @printed p pdf hp hcaller hresult =>
      cases hconverted
      obtain ⟨hhtml, hpage⟩ := Prod.mk.inj (hprints p hp hcaller)
      have hreturned := Conversion.printed_eq_ok_iff.1 hresult
      rw [hhtml, hpage] at hreturned
      exact .pages hformat hreturned
  | _ => cases hconverted

/-- A delivered rendering was made for the request. -/
theorem isMadeFor_renderingOf {work : Work} {conversion : Conversion} {filepath : Option String}
    (h : (Fate.delivered work conversion filepath).IsFor studio job) :
    IsMadeFor studio job.document job.options
      (s.renderingOf job work conversion filepath) := by
  obtain ⟨hwork, hproduced, hfiled⟩ := h
  rw [hwork.svg] at hproduced
  have hname : (s.renderingOf job work conversion filepath).filename =
      artifactName work.generatedAt (cacheKey job.document job.options) conversion :=
    congrArg (artifactName work.generatedAt · conversion) hwork.key
  exact ⟨conversion, hproduced, rfl, rfl, rfl, rfl, hname, hfiled, rfl, rfl, rfl, rfl, rfl, rfl,
    rfl⟩

namespace State

/-- Nothing is printed yet for a call that begins to wait. -/
theorem PrintsOwn.wait (h : s.PrintsOwn id) (hstranger : ¬ s.engine.Concerns job.id)
    (phase : Phase) : (s.wait job phase).PrintsOwn id := by
  intro other hother hid work hphase p hp hcaller
  rcases mem_jobs_wait hother with rfl | ⟨hmem, -⟩
  · exact absurd (.printing hp (hcaller.trans hid.symm)) hstranger
  · exact h other hmem hid work hphase p hp hcaller

/-- Calls in progress work on what they were asked for, and calls that made an artifact made
it for their request. -/
structure Truthful (studio : Studio) (s : State) : Prop where
  jobs : ∀ job ∈ s.jobs, job.phase.IsFor studio job.document job.options
  calls : ∀ call ∈ s.finished, ∀ rendering, call.Stores rendering →
    IsMadeFor studio call.document call.options rendering

namespace Truthful

theorem fresh (studio : Studio) (settings : Settings) (governor : Governor) :
    (State.fresh settings governor).Truthful studio where
  jobs _ hjob := absurd hjob List.not_mem_nil
  calls _ hcall := absurd hcall List.not_mem_nil

theorem congr (h : s.Truthful studio) (hjobs : s'.jobs ⊆ s.jobs)
    (hfinished : s'.finished = s.finished) : s'.Truthful studio where
  jobs job hjob := h.jobs job (hjobs hjob)
  calls call hcall := h.calls call (hfinished ▸ hcall)

/-- A call has its turn as it was asked for. -/
theorem fulfil (h : s.Truthful studio) (hfate : fate.IsFor studio job) :
    (s.fulfil job fate).Truthful studio := by
  rcases fate.waits_or_ends s job with ⟨phase, rfl⟩ | ⟨outcome, houtcome⟩
  · refine ⟨fun other hother => ?_, h.calls⟩
    rcases mem_jobs_wait hother with rfl | ⟨hmem, -⟩
    · exact hfate
    · exact h.jobs other hmem
  · have hends := releases_fulfil houtcome
    refine ⟨fun other hother => ?_, fun call hcall rendering hstores => ?_⟩
    · rw [hends.jobs, mem_othersThan] at hother
      exact h.jobs other hother.1
    · rw [hends.finished] at hcall
      rcases List.mem_cons.1 hcall with rfl | hcall
      · -- Only a delivery makes something: what is served is marked as such.
        cases fate with
        | waits phase => cases houtcome
        | served stored =>
            cases houtcome
            obtain ⟨hreturned, hfresh⟩ := hstores
            cases hreturned
            cases hfresh
        | delivered work conversion filepath =>
            cases houtcome
            obtain ⟨hreturned, -⟩ := hstores
            cases hreturned
            exact isMadeFor_renderingOf hfate
        | failed fault =>
            cases houtcome
            obtain ⟨hreturned, -⟩ := hstores
            cases hreturned
      · exact h.calls call hcall rendering hstores

/-- A step of the engine brings a call nothing but what it was asked for. -/
theorem stirred (hstirred : s.Stirred studio engine s') (h : s.Truthful studio)
    (hown : ∀ id, s.PrintsOwn id) : s'.Truthful studio := by
  have hmid (lines : List LogLine) :
      (({ s with engine := engine } : State).report lines).Truthful studio := ⟨h.jobs, h.calls⟩
  cases hstirred with
  | unheard lines => exact hmid lines
  | @heard lines job work answer outcome hjob hphase hreplies hgrounds hconverted =>
      have hmem := (mem_of_job? hjob).1
      have hwork := h.jobs job hmem
      rw [hphase] at hwork
      refine (hmid lines).fulfil (isFor_fateOf hwork.1 (fun conversion hok => ?_) _)
      rw [hok] at hconverted
      exact produces_of_answer hwork.2 hgrounds (hown job.id job hmem rfl work hphase) hconverted

/-- A call begins to work on what it was asked for. -/
theorem started (hstarted : s.Started studio job s') (h : s.Truthful studio)
    (hown : ∀ id, s.PrintsOwn id) (hstranger : ¬ s.engine.Concerns job.id) :
    s'.Truthful studio := by
  have hsearched (lines : List LogLine) : (s.searched job lines).Truthful studio :=
    ⟨h.jobs, h.calls⟩
  have hwork : (s.workFor studio job).IsFor studio job.document job.options := ⟨rfl, rfl⟩
  cases hstarted with
  | opens lines hfate =>
      refine (hsearched lines).fulfil ?_
      cases hfate with
      | served hcache hhit => trivial
      | vector hformat =>
          refine isFor_fateOf hwork (fun conversion hok => ?_) _
          cases hok
          exact .markup hformat
      | raster hformat => exact ⟨hwork, hformat⟩
  | asks lines hformat hstirred =>
      have hwaits : ((s.searched job lines).fulfil job
          (.waits (.paginating (s.workFor studio job)))).Truthful studio :=
        (hsearched lines).fulfil ⟨hwork, hformat⟩
      exact hwaits.stirred hstirred fun id => (hown id).wait hstranger _

theorem entered (h : s.Truthful studio) (document : Document) (options : RenderOptions) :
    (s.entered document options).Truthful studio := by
  refine ⟨fun job hjob => ?_, h.calls⟩
  rcases List.mem_append.1 hjob with hjob | hjob
  · exact h.jobs job hjob
  · rw [List.mem_singleton.1 hjob]
    trivial

theorem reject (h : s.Truthful studio) (document : Document) (options : RenderOptions)
    (fault : Fault) : (s.reject document options fault).Truthful studio := by
  refine ⟨h.jobs, fun call hcall rendering hstores => ?_⟩
  rcases List.mem_cons.1 hcall with rfl | hcall
  · obtain ⟨hreturned, -⟩ := hstores
    cases hreturned
  · exact h.calls call hcall rendering hstores

/-- The copy of what a call has saved is where it says, under the name of the artifact. -/
theorem saved (h : s.Truthful studio) {work : Work} {conversion : Conversion} {ends : Nat}
    (hjob : s.job? job.id = some job) (hphase : job.phase = .saving work conversion ends) :
    (s.proceed studio job.id).Truthful studio := by
  obtain ⟨hwork, hproduced, hdirectory⟩ : Phase.IsFor studio job.document job.options
      (.saving work conversion ends) := hphase ▸ h.jobs job (mem_of_job? hjob).1
  have hreported (lines : List LogLine) : (s.report lines).Truthful studio := ⟨h.jobs, h.calls⟩
  simp only [proceed, hjob, hphase]
  cases studio.shelfFault with
  | none =>
      have hfiled : (Fate.delivered work conversion
          (some (copyPath studio work conversion))).IsFor studio job := by
        refine ⟨hwork, hproduced, fun path hpath => ?_⟩
        obtain ⟨directory, hdirectory⟩ := Option.isSome_iff_exists.1 hdirectory
        cases hpath
        exact ⟨directory, hdirectory, by rw [copyPath, hdirectory, Option.getD_some]⟩
      exact h.fulfil hfiled
  | some fault =>
      have hunfiled : (Fate.delivered work conversion none).IsFor studio job :=
        ⟨hwork, hproduced, fun path hpath => by cases hpath⟩
      exact (hreported _).fulfil hunfiled

/-- Every event leaves a press truthful. -/
theorem step (hs : s.Steady studio) (h : s.Truthful studio) (event : Event) :
    (s.step studio event).Truthful studio := by
  have hhappens := happens_step studio s event
  have hown := hs.attended.printsOwn
  have hmid (mid : State) (hjobs : mid.jobs = s.jobs) (hfinished : mid.finished = s.finished) :
      mid.Truthful studio := h.congr (hjobs ▸ List.Subset.refl _) hfinished
  generalize hstep : s.step studio event = s' at hhappens ⊢
  cases hhappens with
  | idle => exact h
  | invalid hinvalid => exact h.reject _ _ _
  | refused hvalid hrefused =>
      exact (hmid { s with governor := s.governor.acquire.2 } rfl rfl).reject _ _ _
  | queued lines hvalid hqueued => exact (h.entered _ _).congr (List.Subset.refl _) rfl
  | @admitted document options _ hvalid hgranted hstarted =>
      have hentered := hs.attended.entered document options
      exact (h.entered document options).started hstarted hentered.printsOwn
        (hs.strangers.later _ (Nat.le_refl _))
  | @called job _ hjob hphase hpromised hstarted =>
      exact (hmid { s with governor := s.governor.poll job.ticket } rfl rfl).started hstarted hown
        (hs.strangers.queued job (mem_of_job? hjob).1 hphase)
  | @rasterized job work ends hjob hphase =>
      have hwork := h.jobs job (mem_of_job? hjob).1
      rw [hphase] at hwork
      refine h.fulfil (isFor_fateOf hwork.1 (fun _ hok => ?_) _)
      exact .picture hwork.2 (Conversion.raster_sound_of_raster hok)
  | saved lines filepath hjob hphase =>
      rw [← hstep]
      exact h.saved hjob hphase
  | @expired job ms hjob hlimit hphase =>
      have hlate : (Fate.failed (.timeout ms)).IsFor studio job := trivial
      exact (hmid { s with engine := s.engine.leave job.id } rfl rfl).fulfil hlate
  | left hjob => exact h.congr (fun _ hother => (mem_othersThan.1 hother).1) rfl
  | absent hjob => exact hmid _ rfl rfl
  | stirred _ hstirred => exact h.stirred hstirred hown
  | asked hstirred => exact (hmid { s with nextId := s.nextId + 1 } rfl rfl).stirred hstirred hown
  | held =>
      rw [hold_eq]
      exact hmid _ rfl rfl
  | _ => exact hmid _ rfl rfl

theorem run (hs : s.Steady studio) (h : s.Truthful studio) (events : List Event) :
    (s.run studio events).Truthful studio := by
  induction events generalizing s with
  | nil => exact h
  | cons event rest ih => exact ih (hs.step event) (h.step hs event)

end Truthful

end State

/-! ## What calls return -/

/-- What an opened press has made and served in any run. -/
theorem provenance_run {settings : Settings} {around : Surroundings} {start : State}
    (hopen : openWith settings around = .ok (studio, start)) (events : List Event) :
    (start.run studio events).Truthful studio ∧ (start.run studio events).Backed := by
  have hsteady := State.steady_of_openWith hopen
  have hnumbered := hsteady.sound.numbered
  have hfitting := hsteady.sound.fitting
  obtain ⟨-, governor, rfl⟩ := fresh_of_openWith hopen
  exact ⟨(State.Truthful.fresh studio settings governor).run hsteady events,
    (State.Backed.fresh settings governor).run hnumbered hfitting studio events⟩

/-- What a call returns was made for its request, if no call for something else has ended that
has the same key. -/
theorem isMadeFor_of_unshared (htruthful : s.Truthful studio) (hbacked : s.Backed)
    {call : Finished} (hcall : call ∈ s.finished)
    (hunshared : ∀ maker ∈ s.finished,
      cacheKey maker.document maker.options = cacheKey call.document call.options →
        maker.document = call.document ∧ maker.options = call.options)
    {rendering : Rendering} (houtcome : call.outcome = .ok rendering) :
    IsMadeFor studio call.document call.options rendering := by
  cases hhit : rendering.metadata.cacheHit with
  | false => exact htruthful.calls call hcall rendering ⟨houtcome, hhit⟩
  | true =>
      obtain ⟨stored, ⟨maker, hmaker, hstores, hkey⟩, rfl⟩ :=
        hbacked.calls call hcall rendering houtcome hhit
      obtain ⟨hdocument, hoptions⟩ := hunshared maker hmaker hkey
      have hmade := htruthful.calls maker hmaker stored hstores
      rw [hdocument, hoptions] at hmade
      exact hmade.asHit

/-- Whatever a call returns was made for its request, if the digest tells the requests of
the calls that have ended apart. -/
theorem isMadeFor_of_mem (htruthful : s.Truthful studio) (hbacked : s.Backed)
    (hseparates : Separates Digest.sha256Hex (s.finished.map Finished.material))
    {call : Finished} (hcall : call ∈ s.finished) {rendering : Rendering}
    (houtcome : call.outcome = .ok rendering) :
    IsMadeFor studio call.document call.options rendering := by
  refine isMadeFor_of_unshared htruthful hbacked hcall (fun maker hmaker hkey => ?_) houtcome
  have hmaterial : maker.material = call.material :=
    hseparates _ (List.mem_map_of_mem hmaker) _ (List.mem_map_of_mem hcall) hkey
  exact keyMaterial_inj hmaterial

end Press

end CanvasPress

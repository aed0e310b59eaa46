/-
# The books of a press

Every event ends some calls, one at most but for the calls that it refuses, and adds to
the counters and to the cache exactly what these calls amount to.  `Books` says so for
any stretch of a run: the renderings made, served and failed are counted call by call,
every new entry of the cache was left by one of the calls, and an entry is lost only if
one of them has replaced it or it has spoiled.

A call that ends does so for a reason that its caller can check against his options and
the settings of the press.
-/

import CanvasPress.Proofs.Press.Coherence
import CanvasPress.Proofs.Press.Seats
import CanvasPress.Proofs.Raster.Picture

namespace CanvasPress

namespace Press

variable {studio : Studio} {s s' mid : State} {job known : Job} {fate : Fate} {event : Event}
  {engine : Engine} {settings : Settings} {spoils : Entry Rendering → Prop}
  {ended more : List Finished} {document : Document} {options : RenderOptions}

/-! ## Reasons -/

/-- Why a call fails that has its slot. -/
inductive Earned (settings : Settings) (options : RenderOptions) : Fault → Prop where
  | unconverted (stage : Stage) (text : String)
      (hformat : options.format = .raster ∨ options.format = .paginated) :
      Earned settings options (.conversion stage text)
  | late {ms : Nat} (hlimit : settings.renderTimeoutMs = some ms) :
      Earned settings options (.timeout ms)

/-- Why a call ends as it does. -/
inductive Justified (settings : Settings) (options : RenderOptions) :
    Except Fault Rendering → Prop where
  | returned (rendering : Rendering) (hvalid : options.validate = .ok ()) :
      Justified settings options (.ok rendering)
  | invalid {cause : ConfigFault} (hinvalid : options.validate = .error cause) :
      Justified settings options (.error (.config cause))
  | full {waiting limit : Nat} (hvalid : options.validate = .ok ())
      (hlimit : settings.maxQueueDepth = some limit) (hfull : limit ≤ waiting) :
      Justified settings options (.error (.queueFull waiting limit))
  | failed {fault : Fault} (hvalid : options.validate = .ok ())
      (hearned : Earned settings options fault) : Justified settings options (.error fault)

/-- A conversion into a picture fails in one way only. -/
theorem fault_of_raster {painter : Picture.Painter} {svg : String} {quality : Nat} {fault : Fault}
    (h : Conversion.raster painter svg options quality = .error fault) :
    ∃ text, fault = .conversion .raster text := by
  unfold Conversion.raster at h
  cases hpainted : Picture.painted (painter.paint (Conversion.orderOf svg options quality)) with
  | ok image =>
      rw [hpainted] at h
      cases h
  | error other =>
      rw [hpainted] at h
      cases h
      exact Picture.fault_of_painted hpainted

/-- Whatever the browser reports, a print that fails is a failed conversion. -/
theorem fault_of_print {browser : Browser} {p : Engine.Printing} {fault : Fault}
    (h : p.result browser = .error fault) : ∃ stage text, fault = .conversion stage text := by
  unfold Engine.Printing.result Conversion.printed at h
  split at h
  all_goals cases h
  all_goals exact ⟨_, _, rfl⟩

/-! ## What calls amount to -/

/-- Whether a call was refused before it had a slot. -/
def Finished.isRefused (call : Finished) : Bool :=
  match call.outcome with
  | .error (.config _) => true
  | .error (.queueFull _ _) => true
  | _ => false

/-- Whether a call has made a rendering. -/
def Finished.isMade (call : Finished) : Bool :=
  match call.outcome with
  | .ok rendering => !rendering.metadata.cacheHit
  | .error _ => false

/-- Whether a call was served from the cache. -/
def Finished.isServed (call : Finished) : Bool :=
  match call.outcome with
  | .ok rendering => rendering.metadata.cacheHit
  | .error _ => false

/-- Whether a call that had its slot has failed. -/
def Finished.isFailed (call : Finished) : Bool :=
  !call.outcome.isOk && !call.isRefused

theorem Earned.isFailed {call : Finished} {fault : Fault} (h : Earned settings options fault)
    (houtcome : call.outcome = .error fault) : call.isFailed = true := by
  unfold Finished.isFailed Finished.isRefused
  rw [houtcome]
  cases h <;> rfl

/-- The entries of the cache of a press. -/
def State.entries (s : State) : List (Entry Rendering) :=
  (s.cache.map Cache.entries).getD []

theorem State.entries_eq {cache : Cache Rendering} (hcache : s.cache = some cache) :
    s.entries = cache.entries := by
  rw [State.entries, hcache]
  rfl

/-- From one state to another some calls have ended, the latest first, and this is all
that has been counted and stored.  What `spoils` may be lost. -/
structure Books (settings : Settings) (spoils : Entry Rendering → Prop) (s s' : State)
    (ended : List Finished) : Prop where
  finished : s'.finished = ended ++ s.finished
  renders : s'.renders = s.renders + ended.countP Finished.isMade
  hits : s'.hits = s.hits + ended.countP Finished.isServed
  failures : s'.failures = s.failures + ended.countP Finished.isFailed
  justified : ∀ call ∈ ended, Justified settings call.options call.outcome
  stored : ∀ entry ∈ s'.entries, entry ∈ s.entries ∨ ∃ call ∈ ended, call.entry? = some entry
  kept : ∀ entry ∈ s.entries, entry ∈ s'.entries ∨
    (∃ call ∈ ended, ∃ newer, call.entry? = some newer ∧ newer.key = entry.key) ∨ spoils entry

namespace Books

/-- Nothing has been counted, and the cache has lost nothing but what spoils. -/
theorem quiet (hfinished : s'.finished = s.finished) (hrenders : s'.renders = s.renders)
    (hhits : s'.hits = s.hits) (hfailures : s'.failures = s.failures)
    (hsub : s'.entries ⊆ s.entries)
    (hkept : ∀ entry ∈ s.entries, entry ∈ s'.entries ∨ spoils entry) :
    Books settings spoils s s' [] where
  finished := hfinished
  renders := hrenders
  hits := hhits
  failures := hfailures
  justified _ hcall := absurd hcall List.not_mem_nil
  stored _ hentry := .inl (hsub hentry)
  kept entry hentry := (hkept entry hentry).imp_right .inr

theorem same (hfinished : s'.finished = s.finished) (hrenders : s'.renders = s.renders)
    (hhits : s'.hits = s.hits) (hfailures : s'.failures = s.failures)
    (hcache : s'.cache = s.cache) : Books settings spoils s s' [] := by
  have hentries : s'.entries = s.entries := by rw [State.entries, State.entries, hcache]
  exact quiet hfinished hrenders hhits hfailures (hentries ▸ List.Subset.refl _)
    fun entry hentry => .inl (hentries ▸ hentry)

theorem mono {spoils' : Entry Rendering → Prop} (h : Books settings spoils s s' ended)
    (hspoils : ∀ entry, spoils entry → spoils' entry) : Books settings spoils' s s' ended :=
  { h with kept := fun entry hentry =>
      (h.kept entry hentry).imp_right (.imp_right (hspoils entry)) }

theorem trans (h : Books settings spoils s mid ended) (h' : Books settings spoils mid s' more) :
    Books settings spoils s s' (more ++ ended) where
  finished := by rw [h'.finished, h.finished, List.append_assoc]
  renders := by rw [h'.renders, h.renders, List.countP_append]; omega
  hits := by rw [h'.hits, h.hits, List.countP_append]; omega
  failures := by rw [h'.failures, h.failures, List.countP_append]; omega
  justified call hcall := (List.mem_append.1 hcall).elim (h'.justified call) (h.justified call)
  stored entry hentry := by
    rcases h'.stored entry hentry with hmid | ⟨call, hcall, hstores⟩
    · refine (h.stored entry hmid).imp_right fun hstored => ?_
      obtain ⟨call, hcall, hstores⟩ := hstored
      exact ⟨call, List.mem_append_right _ hcall, hstores⟩
    · exact .inr ⟨call, List.mem_append_left _ hcall, hstores⟩
  kept entry hentry := by
    rcases h.kept entry hentry with hmid | ⟨call, hcall, hnewer⟩ | hspoiled
    · refine (h'.kept entry hmid).imp_right (.imp_left fun hnew => ?_)
      obtain ⟨call, hcall, hnewer⟩ := hnew
      exact ⟨call, List.mem_append_left _ hcall, hnewer⟩
    · exact .inr (.inl ⟨call, List.mem_append_right _ hcall, hnewer⟩)
    · exact .inr (.inr hspoiled)

end Books

/-! ## Turns -/

/-- A fate that may befall a call that has its slot. -/
inductive Fate.Fair (settings : Settings) (job : Job) : Fate → Prop where
  | waits (phase : Phase) : Fair settings job (.waits phase)
  | served (rendering : Rendering) : Fair settings job (.served rendering)
  | delivered {work : Work} (conversion : Conversion) (filepath : Option String)
      (hkey : work.key = cacheKey job.document job.options) :
      Fair settings job (.delivered work conversion filepath)
  | failed {fault : Fault} (hearned : Earned settings job.options fault) :
      Fair settings job (.failed fault)

theorem fair_fateOf {work : Work} {now : Nat} {outcome : Except Fault Conversion}
    (hkey : work.key = cacheKey job.document job.options)
    (hearned : ∀ fault, outcome = .error fault → Earned settings job.options fault) :
    (State.fateOf studio now work outcome).Fair settings job := by
  cases outcome with
  | error fault => exact .failed (hearned fault rfl)
  | ok conversion =>
      simp only [State.fateOf]
      cases studio.settings.outputPath with
      | none => exact .delivered conversion none hkey
      | some _ => exact .waits _

theorem mem_entries_deliver {work : Work} {conversion : Conversion} {filepath : Option String}
    {entry : Entry Rendering} (h : entry ∈ (s.deliver job work conversion filepath).entries) :
    entry = ⟨work.key, s.renderingOf job work conversion filepath, s.now⟩ ∨ entry ∈ s.entries := by
  cases hcache : s.cache with
  | none =>
      have hnone : (s.deliver job work conversion filepath).entries = [] := by
        simp [State.entries, State.deliver, hcache]
      rw [hnone] at h
      cases h
  | some cache =>
      have hput : (s.deliver job work conversion filepath).entries =
          (cache.put s.now work.key (s.renderingOf job work conversion filepath)).entries := by
        simp [State.entries, State.deliver, hcache]
      rw [hput] at h
      rw [State.entries_eq hcache]
      exact List.mem_cons.1 (Cache.entries_put_subset _ _ _ _ h)

theorem mem_entries_deliver_of_ne {work : Work} {conversion : Conversion}
    {filepath : Option String} {entry : Entry Rendering} (hentry : entry ∈ s.entries)
    (hkey : entry.key ≠ work.key) : entry ∈ (s.deliver job work conversion filepath).entries := by
  cases hcache : s.cache with
  | none =>
      have hnone : s.entries = [] := by simp [State.entries, hcache]
      rw [hnone] at hentry
      cases hentry
  | some cache =>
      have hput : (s.deliver job work conversion filepath).entries =
          (cache.put s.now work.key (s.renderingOf job work conversion filepath)).entries := by
        simp [State.entries, State.deliver, hcache]
      rw [State.entries_eq hcache] at hentry
      rw [hput]
      exact Cache.mem_entries_put_of_ne hentry hkey

theorem fair_of_heard {work : Work} {answer : Engine.Reply} {now : Nat}
    {outcome : Except Fault Conversion} (hfitting : s.Fitting) (hjob : job ∈ s.jobs)
    (hphase : job.phase = .paginating work)
    (hgrounds : Engine.Grounds studio.browser s.engine.printing engine job.id answer)
    (hconverted : work.converted? job.options answer = some outcome) :
    (State.fateOf studio now work outcome).Fair settings job := by
  have hfits := hfitting job hjob
  rw [hphase] at hfits
  refine fair_fateOf hfits.1 fun fault hfault => ?_
  subst hfault
  cases hgrounds with
  | misprinted hp hcaller hresult =>
      cases hconverted
      obtain ⟨stage, text, rfl⟩ := fault_of_print hresult
      exact .unconverted stage text (.inr hfits.2)
  | _ => cases hconverted

theorem fair_of_rasterized {work : Work} {ends now : Nat} (hfitting : s.Fitting)
    (hjob : job ∈ s.jobs) (hphase : job.phase = .rastering work ends) :
    (State.fateOf studio now work (Conversion.raster (studio.painter job.id) work.svg job.options
      studio.settings.rasterQuality)).Fair settings job := by
  have hfits := hfitting job hjob
  rw [hphase] at hfits
  refine fair_fateOf hfits.1 fun fault hfault => ?_
  obtain ⟨text, rfl⟩ := fault_of_raster hfault
  exact .unconverted .raster text (.inl hfits.2)

theorem fair_of_saved {work : Work} {conversion : Conversion} {ends : Nat}
    (hfitting : s.Fitting) (hjob : job ∈ s.jobs) (hphase : job.phase = .saving work conversion ends)
    (filepath : Option String) : Fate.Fair settings job (.delivered work conversion filepath) := by
  have hfits := hfitting job hjob
  rw [hphase] at hfits
  exact .delivered conversion filepath hfits.1

theorem State.Opening.fair (h : s.Opening studio job fate) : fate.Fair settings job := by
  cases h with
  | served hcache hhit => exact .served _
  | vector hformat => exact fair_fateOf rfl fun fault hfault => by cases hfault
  | raster hformat => exact .waits _

/-- What a call begins with fits its request. -/
theorem fitting_asks (hfitting : s.Fitting) (hformat : job.options.format = .paginated)
    (lines : List LogLine) : ((s.searched job lines).fulfil job
      (.waits (.paginating (s.workFor studio job)))).Fitting := by
  intro other hother
  rcases State.mem_jobs_wait hother with rfl | ⟨hmem, -⟩
  · exact ⟨rfl, hformat⟩
  · exact hfitting other hmem

theorem valid_wait {phase : Phase} (hvalid : ∀ job ∈ s.jobs, job.options.validate = .ok ())
    (hmine : job.options.validate = .ok ()) :
    ∀ other ∈ (s.wait job phase).jobs, other.options.validate = .ok () := by
  intro other hother
  rcases State.mem_jobs_wait hother with rfl | ⟨hmem, -⟩
  · exact hmine
  · exact hvalid other hmem

theorem State.Fitting.entered (hfitting : s.Fitting) (document : Document)
    (options : RenderOptions) : (s.entered document options).Fitting := by
  intro job hjob
  rcases List.mem_append.1 hjob with hjob | hjob
  · exact hfitting job hjob
  · rw [List.mem_singleton.1 hjob]
    trivial

theorem valid_entered (hvalid : ∀ job ∈ s.jobs, job.options.validate = .ok ())
    (hmine : options.validate = .ok ()) :
    ∀ job ∈ (s.entered document options).jobs, job.options.validate = .ok () := by
  intro job hjob
  rcases List.mem_append.1 hjob with hjob | hjob
  · exact hvalid job hjob
  · rw [List.mem_singleton.1 hjob]
    exact hmine

namespace Books

/-- The turn of a call is entered in the books. -/
theorem fulfil (hvalid : job.options.validate = .ok ()) (hfair : fate.Fair settings job) :
    ∃ ended, Books settings spoils s (s.fulfil job fate) ended ∧
      ∀ call ∈ ended, call.id = job.id ∧ call.isRefused = false := by
  cases hfair with
  | waits phase =>
      exact ⟨[], same rfl rfl rfl rfl rfl, fun _ hcall => absurd hcall List.not_mem_nil⟩
  | served rendering =>
      refine ⟨[s.ending job (.ok rendering.asHit)], ⟨rfl, rfl, rfl, rfl,
        List.forall_mem_singleton.2 (.returned _ hvalid), fun _ hentry => .inl hentry,
        fun _ hentry => .inl hentry⟩, List.forall_mem_singleton.2 ⟨rfl, rfl⟩⟩
  | @delivered work conversion filepath hkey =>
      let call := s.ending job (.ok (s.renderingOf job work conversion filepath))
      have hstores : call.entry? =
          some ⟨work.key, s.renderingOf job work conversion filepath, s.now⟩ := by
        rw [hkey]
        rfl
      refine ⟨[call], ⟨rfl, rfl, rfl, rfl, List.forall_mem_singleton.2 (.returned _ hvalid),
        fun entry hentry => ?_, fun entry hentry => ?_⟩, List.forall_mem_singleton.2 ⟨rfl, rfl⟩⟩
      · rcases mem_entries_deliver hentry with rfl | hold
        · exact .inr ⟨call, List.mem_singleton_self _, hstores⟩
        · exact .inl hold
      · by_cases hsame : entry.key = work.key
        · exact .inr (.inl ⟨call, List.mem_singleton_self _, _, hstores, hsame.symm⟩)
        · exact .inl (mem_entries_deliver_of_ne hentry hsame)
  | @failed fault hearned =>
      have hcounts : (s.ending job (.error fault)).isFailed = true := hearned.isFailed rfl
      refine ⟨[s.ending job (.error fault)], ⟨rfl, rfl, rfl, ?_,
        List.forall_mem_singleton.2 (.failed hvalid hearned), fun _ hentry => .inl hentry,
        fun _ hentry => .inl hentry⟩, List.forall_mem_singleton.2 ⟨rfl, ?_⟩⟩
      · rw [List.countP_singleton, hcounts]
        rfl
      · unfold Finished.isFailed at hcounts
        simpa using (Bool.and_eq_true_iff.1 hcounts).2

/-- What has gone before makes no difference if nothing was counted. -/
theorem after (first : Books settings spoils s mid []) (h : Books settings spoils mid s' ended) :
    Books settings spoils s s' ended := by
  have hall := first.trans h
  rwa [List.append_nil] at hall

/-- A call that is refused has no part in the counters. -/
theorem reject {fault : Fault} (hjustified : Justified settings options (.error fault))
    (hrefused : (⟨s.nextId, document, options, s.now, .error fault⟩ : Finished).isRefused = true) :
    Books settings spoils s (s.reject document options fault)
      [⟨s.nextId, document, options, s.now, .error fault⟩] where
  finished := rfl
  renders := rfl
  hits := rfl
  failures := by simp [State.reject, Finished.isFailed, hrefused]
  justified := List.forall_mem_singleton.2 hjustified
  stored _ hentry := .inl hentry
  kept _ hentry := .inl hentry

theorem turned (hvalid : job.options.validate = .ok ()) (hfair : fate.Fair settings job)
    (hbefore : Books settings spoils s mid []) :
    ∃ ended, Books settings spoils s (mid.fulfil job fate) ended := by
  obtain ⟨ended, hbooks, -⟩ : ∃ ended, Books settings spoils mid (mid.fulfil job fate) ended ∧
      ∀ call ∈ ended, call.id = job.id ∧ call.isRefused = false := fulfil hvalid hfair
  exact ⟨ended, hbefore.after hbooks⟩

/-- An answer that a call has waited for is entered in the books. -/
theorem stirred (hstirred : mid.Stirred studio engine s') (hfitting : mid.Fitting)
    (hvalid : ∀ job ∈ mid.jobs, job.options.validate = .ok ())
    (hbefore : Books settings spoils s mid []) : ∃ ended, Books settings spoils s s' ended := by
  cases hstirred with
  | unheard lines => exact ⟨[], hbefore.after (same rfl rfl rfl rfl rfl)⟩
  | heard lines hjob hphase hreplies hgrounds hconverted =>
      have hmem := (State.mem_of_job? hjob).1
      exact turned (hvalid _ hmem) (fair_of_heard hfitting hmem hphase hgrounds hconverted)
        (hbefore.after (same rfl rfl rfl rfl rfl))

/-- A call looks for its artifact. -/
theorem searched (hstocked : ∀ cache, s.cache = some cache →
      cache.Stocked (millis settings.cacheExpiryMs)) (job : Job) (lines : List LogLine)
    (hspoils : ∀ entry : Entry Rendering, entry.key = cacheKey job.document job.options →
      Cache.isFresh (millis settings.cacheExpiryMs) s.now entry = false → spoils entry) :
    Books settings spoils s (s.searched job lines) [] := by
  cases hcache : s.cache with
  | none =>
      have hnone : (s.searched job lines).cache = s.cache := by
        simp [State.searched, State.report, State.looked, hcache]
      exact same rfl rfl rfl rfl hnone
  | some cache =>
      have hentries : (s.searched job lines).entries =
          (cache.get s.now (cacheKey job.document job.options)).2.entries := by
        simp [State.entries, State.searched, State.report, State.looked, hcache]
      refine quiet rfl rfl rfl rfl ?_ fun entry hentry => ?_
      · rw [hentries, State.entries_eq hcache]
        exact Cache.entries_get_subset _ _ _
      · rw [State.entries_eq hcache] at hentry
        rw [hentries]
        exact ((hstocked cache hcache).mem_entries_get _ _ hentry).imp_right
          (And.elim (hspoils entry))

/-- A call that begins is entered in the books. -/
theorem started (hstarted : mid.Started studio job s') (hfitting : mid.Fitting)
    (hvalid : ∀ job ∈ mid.jobs, job.options.validate = .ok ())
    (hmine : job.options.validate = .ok ())
    (hstocked : ∀ cache, mid.cache = some cache → cache.Stocked (millis settings.cacheExpiryMs))
    (hspoils : ∀ entry : Entry Rendering, entry.key = cacheKey job.document job.options →
      Cache.isFresh (millis settings.cacheExpiryMs) mid.now entry = false → spoils entry)
    (hbefore : Books settings spoils s mid []) : ∃ ended, Books settings spoils s s' ended := by
  cases hstarted with
  | opens lines hfate =>
      exact turned hmine hfate.fair (hbefore.after (searched hstocked job lines hspoils))
  | asks lines hformat hstirred =>
      have hwaits : Books settings spoils (mid.searched job lines)
          ((mid.searched job lines).fulfil job (.waits (.paginating (mid.workFor studio job))))
          [] :=
        same rfl rfl rfl rfl rfl
      exact stirred hstirred (fitting_asks hfitting hformat lines) (valid_wait hvalid hmine)
        (hbefore.after ((searched hstocked job lines hspoils).after hwaits))

end Books

/-! ## Events -/

/-- What may be lost from the cache in an event. -/
def State.Spoils (studio : Studio) (s : State) (event : Event) (entry : Entry Rendering) : Prop :=
  event = .clearCache ∨
    Cache.isFresh (millis studio.settings.cacheExpiryMs) s.now entry = false ∧
      (event = .purgeCache ∨ ∃ job, s.begins? event = some job ∧
        cacheKey job.document job.options = entry.key)

theorem State.begins?_of_granted (hvalid : options.validate = .ok ())
    (hgranted : s.governor.acquire.1 = .granted) :
    s.begins? (.arrive document options) = some (s.caller document options) := by
  simp [State.begins?, hvalid, (Governor.acquire_of_granted hgranted).1, State.caller]

theorem State.begins?_of_not_granted (hnot : s.governor.acquire.1 ≠ .granted) :
    s.begins? (.arrive document options) = none := by
  have hfree : ¬ 0 < s.governor.free := by
    intro hfree
    rw [Governor.acquire_of_free hfree] at hnot
    exact hnot rfl
  cases hvalid : options.validate with
  | error cause => simp [begins?, hvalid]
  | ok _ => simp only [begins?, hvalid, if_neg hfree]

theorem State.begins?_of_called (hjob : s.job? job.id = some job) (hphase : job.phase = .queued)
    (hpromised : job.ticket ∈ s.governor.promised) : s.begins? (.look job.id) = some job := by
  simp [State.begins?, hjob, hphase, hpromised]

/-- Every event is entered in the books. -/
theorem Books.step (hs : s.Sound studio) (event : Event) :
    ∃ ended, Books studio.settings (s.Spoils studio event) s (s.step studio event) ended := by
  have hhappens := State.happens_step studio s event
  generalize s.step studio event = s' at hhappens ⊢
  cases hhappens with
  | invalid hinvalid => exact ⟨_, .reject (.invalid hinvalid) rfl⟩
  | @refused document options waiting limit hvalid hrefused =>
      obtain ⟨hlimit, hfull, -, -⟩ := Governor.acquire_of_refused hrefused
      let governed : State := { s with governor := s.governor.acquire.2 }
      have hrejected : Books studio.settings (s.Spoils studio (.arrive document options)) governed
          (governed.reject document options (.queueFull waiting limit)) _ :=
        .reject (.full hvalid (hs.limit.symm.trans hlimit) hfull) rfl
      have hgoverned : Books studio.settings (s.Spoils studio (.arrive document options)) s
          governed [] := .same rfl rfl rfl rfl rfl
      exact ⟨_, hgoverned.after hrejected⟩
  | admitted hvalid hgranted hstarted =>
      refine started hstarted (hs.fitting.entered _ _) (valid_entered hs.valid hvalid) hvalid
        hs.stocked (fun entry hkey hstale => ?_) (.same rfl rfl rfl rfl rfl)
      exact .inr ⟨hstale, .inr ⟨_, State.begins?_of_granted hvalid hgranted, hkey.symm⟩⟩
  | @called job _ hjob hphase hpromised hstarted =>
      refine started hstarted hs.fitting hs.valid (hs.valid job (State.mem_of_job? hjob).1)
        hs.stocked (fun entry hkey hstale => ?_) (.same rfl rfl rfl rfl rfl)
      exact .inr ⟨hstale, .inr ⟨_, State.begins?_of_called hjob hphase hpromised, hkey.symm⟩⟩
  | @rasterized job work ends hjob hphase =>
      have hmem := (State.mem_of_job? hjob).1
      exact turned (hs.valid job hmem) (fair_of_rasterized hs.fitting hmem hphase)
        (.same rfl rfl rfl rfl rfl)
  | @saved job work conversion ends lines filepath hjob hphase =>
      have hmem := (State.mem_of_job? hjob).1
      exact turned (hs.valid job hmem) (fair_of_saved hs.fitting hmem hphase filepath)
        (.same rfl rfl rfl rfl rfl)
  | @expired job ms hjob hlimit hphase =>
      exact turned (hs.valid job (State.mem_of_job? hjob).1) (.failed (.late hlimit))
        (.same rfl rfl rfl rfl rfl)
  | stirred hstep hstirred =>
      exact stirred hstirred hs.fitting hs.valid (.same rfl rfl rfl rfl rfl)
  | asked hstirred =>
      exact stirred hstirred hs.fitting hs.valid (.same rfl rfl rfl rfl rfl)
  | held =>
      rw [State.hold_eq]
      exact ⟨[], same rfl rfl rfl rfl rfl⟩
  | cleared =>
      refine ⟨[], quiet rfl rfl rfl rfl ?_ fun entry _ => .inr (.inl rfl)⟩
      cases hcache : s.cache with
      | none => simp [State.entries, State.clearCache, hcache]
      | some cache =>
          simpa [State.entries, State.clearCache, hcache] using Cache.entries_clear_subset cache
  | purged =>
      cases hcache : s.cache with
      | none => exact ⟨[], same rfl rfl rfl rfl (by simp [State.purgeCache, hcache])⟩
      | some cache =>
          have hpurged : s.purgeCache.entries = (cache.purge s.now).entries := by
            simp [State.entries, State.purgeCache, hcache]
          refine ⟨[], quiet rfl rfl rfl rfl ?_ fun entry hentry => ?_⟩
          · rw [hpurged, State.entries_eq hcache]
            exact Cache.entries_purge_subset _ _
          · rw [State.entries_eq hcache] at hentry
            rw [hpurged]
            cases hfresh : Cache.isFresh cache.expiry s.now entry with
            | true => exact .inl (Cache.mem_entries_purge_of_fresh hentry hfresh)
            | false =>
                rw [(hs.stocked cache hcache).lifetime] at hfresh
                exact .inr (.inr ⟨hfresh, .inl rfl⟩)
  | _ => exact ⟨[], same rfl rfl rfl rfl rfl⟩

/-! ## Runs -/

theorem Move.now_le {marks : List Mark} (h : Move studio s marks s') : s.now ≤ s'.now := by
  cases h with
  | advance nanos => exact Nat.le_add_right _ _
  | hit => rw [State.now_finish]
  | deliver => rw [State.deliver, State.now_finish]
  | fail => rw [State.now_finish]
  | expire => rw [State.now_finish]
  | _ => exact Nat.le_refl _

namespace State

/-- Time does not run backwards. -/
theorem now_le_run (hs : s.Numbered) (studio : Studio) (events : List Event) :
    s.now ≤ (s.run studio events).now := by
  have hlater {mid last : State} {marks : List Mark} (hmove : Move studio mid marks last)
      (h : s.now ≤ mid.now) : s.now ≤ last.now := Nat.le_trans h hmove.now_le
  have hall := (run_moves hs studio events).preserve hlater
  exact hall (Nat.le_refl s.now)

/-- The calls that begin to work in a run, in order. -/
def begun (studio : Studio) : State → List Event → List Job
  | _, [] => []
  | s, event :: rest => (s.begins? event).toList ++ begun studio (s.step studio event) rest

/-- What may be lost from the cache in a run: everything if it is cleared, else what is
stale in the end, if there was a sweep or a call for the same request. -/
def SpoilsIn (studio : Studio) (s : State) (events : List Event) (entry : Entry Rendering) :
    Prop :=
  .clearCache ∈ events ∨
    Cache.isFresh (millis studio.settings.cacheExpiryMs) (s.run studio events).now entry = false ∧
      (.purgeCache ∈ events ∨ ∃ job ∈ s.begun studio events,
        cacheKey job.document job.options = entry.key)

theorem SpoilsIn.of_first {events : List Event} {entry : Entry Rendering} (hs : s.Numbered)
    (h : s.Spoils studio event entry) : s.SpoilsIn studio (event :: events) entry := by
  rcases h with rfl | ⟨hstale, hlost⟩
  · exact .inl List.mem_cons_self
  · refine .inr ⟨?_, hlost.imp (fun hpurge => List.mem_cons.2 (.inl hpurge.symm)) ?_⟩
    · by_contra hfresh
      have hkept := Cache.isFresh_of_later (now_le_run hs studio (event :: events))
        (Bool.eq_true_of_not_eq_false hfresh)
      rw [hstale] at hkept
      cases hkept
    · rintro ⟨job, hbegins, hkey⟩
      exact ⟨job, List.mem_append_left _ (Option.mem_toList.2 hbegins), hkey⟩

theorem SpoilsIn.of_rest {events : List Event} {entry : Entry Rendering}
    (h : (s.step studio event).SpoilsIn studio events entry) :
    s.SpoilsIn studio (event :: events) entry := by
  rcases h with hclear | ⟨hstale, hlost⟩
  · exact .inl (List.mem_cons_of_mem _ hclear)
  · exact .inr ⟨hstale, hlost.imp (List.mem_cons_of_mem _) fun ⟨job, hjob, hkey⟩ =>
      ⟨job, List.mem_append_right _ hjob, hkey⟩⟩

end State

/-- Every run is entered in the books. -/
theorem Books.run (hs : s.Sound studio) (events : List Event) :
    ∃ ended, Books studio.settings (s.SpoilsIn studio events) s (s.run studio events) ended := by
  induction events generalizing s with
  | nil => exact ⟨[], same rfl rfl rfl rfl rfl⟩
  | cons event rest ih =>
      obtain ⟨first, hfirst⟩ := Books.step hs event
      obtain ⟨others, hothers⟩ := ih (hs.step event)
      exact ⟨others ++ first, (hfirst.mono fun _ => .of_first hs.numbered).trans
        (hothers.mono fun _ => .of_rest)⟩

/-! ## Who had a slot -/

namespace State

/-- Of the calls that have come, those with the given numbers have had a slot. -/
structure Slotted (s : State) (ids : List Nat) : Prop where
  given : ∀ id ∈ ids, id < s.nextId
  working : ∀ job ∈ s.jobs, job.phase ≠ .queued → job.id ∈ ids
  ended : ∀ call ∈ s.finished, call.isRefused = false ↔ call.id ∈ ids

namespace Slotted

variable {ids : List Nat}

theorem fresh (settings : Settings) (governor : Governor) :
    (State.fresh settings governor).Slotted [] where
  given _ hid := absurd hid List.not_mem_nil
  working _ hjob := absurd hjob List.not_mem_nil
  ended _ hcall := absurd hcall List.not_mem_nil

theorem congr (h : s.Slotted ids) (hjobs : ∀ job ∈ s'.jobs, job.phase ≠ .queued → job ∈ s.jobs)
    (hfinished : s'.finished = s.finished) (hnext : s.nextId ≤ s'.nextId) : s'.Slotted ids where
  given id hid := Nat.lt_of_lt_of_le (h.given id hid) hnext
  working job hjob hphase := h.working job (hjobs job hjob hphase) hphase
  ended call hcall := h.ended call (hfinished ▸ hcall)

/-- A call that is in progress gets its slot. -/
theorem grant (h : s.Slotted ids) (hs : s.Numbered) (hjob : job ∈ s.jobs) :
    s.Slotted (ids ++ [job.id]) where
  given id hid := by
    rcases List.mem_append.1 hid with hid | hid
    · exact h.given id hid
    · exact List.mem_singleton.1 hid ▸ hs.jobs job hjob
  working other hother hphase := List.mem_append_left _ (h.working other hother hphase)
  ended call hcall := by
    have hapart : call.id ∉ [job.id] := by simpa using hs.apart job hjob call hcall
    rw [h.ended call hcall, List.mem_append, or_iff_left hapart]

theorem fulfil (h : s.Slotted ids) (hmine : job.id ∈ ids)
    (hvalid : job.options.validate = .ok ()) (hfair : fate.Fair settings job) :
    (s.fulfil job fate).Slotted ids := by
  obtain ⟨ended, hbooks, hcalls⟩ : ∃ ended,
      Books settings (fun _ => False) s (s.fulfil job fate) ended ∧
        ∀ call ∈ ended, call.id = job.id ∧ call.isRefused = false := Books.fulfil hvalid hfair
  refine ⟨fun id hid => (nextId_fulfil s job fate).symm ▸ h.given id hid,
    fun other hother hphase => ?_, fun call hcall => ?_⟩
  · rcases fate.waits_or_ends s job with ⟨phase, rfl⟩ | ⟨outcome, houtcome⟩
    · rcases mem_jobs_wait hother with rfl | ⟨hmem, -⟩
      · exact hmine
      · exact h.working other hmem hphase
    · rw [(releases_fulfil houtcome).jobs, mem_othersThan] at hother
      exact h.working other hother.1 hphase
  · rw [hbooks.finished] at hcall
    rcases List.mem_append.1 hcall with hcall | hcall
    · obtain ⟨hid, hserved⟩ := hcalls call hcall
      exact iff_of_true hserved (hid ▸ hmine)
    · exact h.ended call hcall

theorem stirred (hstirred : s.Stirred studio engine s') (h : s.Slotted ids)
    (hfitting : s.Fitting) (hvalid : ∀ job ∈ s.jobs, job.options.validate = .ok ()) :
    s'.Slotted ids := by
  cases hstirred with
  | unheard lines => exact h.congr (fun _ hjob _ => hjob) rfl (Nat.le_refl _)
  | @heard lines job work answer outcome hjob hphase hreplies hgrounds hconverted =>
      have hmem := (mem_of_job? hjob).1
      have hworks : job.phase ≠ .queued := by
        rw [hphase]
        exact fun heq => by cases heq
      have hmid : (({ s with engine := engine } : State).report lines).Slotted ids :=
        h.congr (fun _ hjob _ => hjob) rfl (Nat.le_refl _)
      have hfair : (fateOf studio s.now work outcome).Fair studio.settings job :=
        fair_of_heard hfitting hmem hphase hgrounds hconverted
      exact hmid.fulfil (h.working job hmem hworks) (hvalid job hmem) hfair

theorem started (hstarted : s.Started studio job s') (h : s.Slotted ids) (hmine : job.id ∈ ids)
    (hfitting : s.Fitting) (hvalid : ∀ job ∈ s.jobs, job.options.validate = .ok ())
    (hjob : job.options.validate = .ok ()) : s'.Slotted ids := by
  have hsearched (lines : List LogLine) : (s.searched job lines).Slotted ids :=
    h.congr (fun _ hjob _ => hjob) rfl (Nat.le_refl _)
  cases hstarted with
  | @opens lines fate hfate =>
      have hfair : fate.Fair studio.settings job := hfate.fair
      exact (hsearched lines).fulfil hmine hjob hfair
  | asks lines hformat hstirred =>
      have hwaits : ((s.searched job lines).fulfil job
          (.waits (.paginating (s.workFor studio job)))).Slotted ids :=
        (hsearched lines).fulfil hmine hjob
          (show Fate.Fair studio.settings job _ from .waits _)
      exact hwaits.stirred hstirred (fitting_asks hfitting hformat lines) (valid_wait hvalid hjob)

/-- A call is refused. -/
theorem reject {fault : Fault} (h : s.Slotted ids)
    (hrefused : (⟨s.nextId, document, options, s.now, .error fault⟩ : Finished).isRefused = true) :
    (s.reject document options fault).Slotted ids where
  given id hid := Nat.lt_succ_of_lt (h.given id hid)
  working := h.working
  ended call hcall := by
    rcases List.mem_cons.1 hcall with rfl | hcall
    · rw [hrefused]
      exact iff_of_false Bool.noConfusion fun hid => Nat.lt_irrefl _ (h.given _ hid)
    · exact h.ended call hcall

/-- A call that arrives has not had a slot yet. -/
theorem entered (h : s.Slotted ids) (document : Document) (options : RenderOptions) :
    (s.entered document options).Slotted ids := by
  refine h.congr (fun job hjob hphase => ?_) rfl (Nat.le_succ _)
  rcases List.mem_append.1 hjob with hjob | hjob
  · exact hjob
  · rw [List.mem_singleton.1 hjob] at hphase
    exact absurd rfl hphase

/-- Every event gives a slot to the call that begins in it, and to nobody else. -/
theorem step (hs : s.Sound studio) (h : s.Slotted ids) (event : Event) :
    (s.step studio event).Slotted (ids ++ (s.begins? event).toList.map Job.id) := by
  have hhappens := happens_step studio s event
  generalize s.step studio event = s' at hhappens ⊢
  have hnobody (hnone : s.begins? event = none) (h' : s'.Slotted ids) :
      s'.Slotted (ids ++ (s.begins? event).toList.map Job.id) := by
    simpa [hnone] using h'
  have hsomebody {job : Job} (hsome : s.begins? event = some job)
      (h' : s'.Slotted (ids ++ [job.id])) :
      s'.Slotted (ids ++ (s.begins? event).toList.map Job.id) := by
    simpa [hsome] using h'
  have hworks {job : Job} (hmem : job ∈ s.jobs) (hphase : job.phase ≠ .queued) : job.id ∈ ids :=
    h.working job hmem hphase
  have hmid (mid : State) (hjobs : mid.jobs = s.jobs) (hfinished : mid.finished = s.finished)
      (hnext : s.nextId ≤ mid.nextId) : mid.Slotted ids :=
    h.congr (fun _ hjob _ => hjobs ▸ hjob) hfinished hnext
  cases hhappens with
  | idle hidle => exact hnobody hidle h
  | invalid hinvalid => exact hnobody (by simp [begins?, hinvalid]) (h.reject rfl)
  | refused hvalid hrefused =>
      exact hnobody (begins?_of_not_granted (by simp [hrefused]))
        ((hmid { s with governor := s.governor.acquire.2 } rfl rfl (Nat.le_refl _)).reject rfl)
  | queued lines hvalid hqueued =>
      exact hnobody (begins?_of_not_granted (by simp [hqueued]))
        ((h.entered _ _).congr (fun _ hjob _ => hjob) rfl (Nat.le_refl _))
  | @admitted document options _ hvalid hgranted hstarted =>
      refine hsomebody (begins?_of_granted hvalid hgranted) ?_
      have hentered := (h.entered document options).grant (hs.numbered.entered studio _ _)
        (List.mem_append_right _ List.mem_cons_self)
      exact hentered.started hstarted (List.mem_append_right _ List.mem_cons_self)
        (hs.fitting.entered _ _) (valid_entered hs.valid hvalid) hvalid
  | @called job _ hjob hphase hpromised hstarted =>
      have hmem := (mem_of_job? hjob).1
      refine hsomebody (begins?_of_called hjob hphase hpromised) ?_
      have hpolled : ({ s with governor := s.governor.poll job.ticket } : State).Slotted
          (ids ++ [job.id]) :=
        (h.grant hs.numbered hmem).congr (fun _ hjob _ => hjob) rfl (Nat.le_refl _)
      exact hpolled.started hstarted (List.mem_append_right _ List.mem_cons_self) hs.fitting
        hs.valid (hs.valid job hmem)
  | @rasterized job work ends hjob hphase =>
      have hmem := (mem_of_job? hjob).1
      have hfair : (fateOf studio s.now work (Conversion.raster (studio.painter job.id) work.svg
          job.options studio.settings.rasterQuality)).Fair studio.settings job :=
        fair_of_rasterized hs.fitting hmem hphase
      exact hnobody rfl (h.fulfil (hworks hmem (by simp [hphase])) (hs.valid job hmem) hfair)
  | @saved job work conversion ends lines filepath hjob hphase =>
      have hmem := (mem_of_job? hjob).1
      have hfair : Fate.Fair studio.settings job (.delivered work conversion filepath) :=
        fair_of_saved hs.fitting hmem hphase filepath
      exact hnobody rfl ((hmid (s.report lines) rfl rfl (Nat.le_refl _)).fulfil
        (hworks hmem (by simp [hphase])) (hs.valid job hmem) hfair)
  | @expired job ms hjob hlimit hphase =>
      have hmem := (mem_of_job? hjob).1
      have hfair : Fate.Fair studio.settings job (.failed (.timeout ms)) := .failed (.late hlimit)
      exact hnobody rfl ((hmid { s with engine := s.engine.leave job.id } rfl rfl
        (Nat.le_refl _)).fulfil (hworks hmem hphase) (hs.valid job hmem) hfair)
  | left hjob =>
      exact hnobody rfl (h.congr (fun _ hjob _ => (mem_othersThan.1 hjob).1) rfl (Nat.le_refl _))
  | stirred hstep hstirred =>
      refine hnobody ?_ (h.stirred hstirred hs.fitting hs.valid)
      cases event with
      | settle => rfl
      | serveNext => rfl
      | endPrint who => rfl
      | _ => cases hstep
  | asked hstirred =>
      have hnumber := hmid { s with nextId := s.nextId + 1 } rfl rfl (Nat.le_succ _)
      exact hnobody rfl (hnumber.stirred hstirred hs.fitting hs.valid)
  | held =>
      refine hnobody rfl ?_
      rw [hold_eq]
      exact hmid _ rfl rfl (Nat.le_refl _)
  | _ => exact hnobody rfl (hmid _ rfl rfl (Nat.le_refl _))

/-- A run gives slots to the calls that begin in it. -/
theorem run (hs : s.Sound studio) (h : s.Slotted ids) (events : List Event) :
    (s.run studio events).Slotted (ids ++ (s.begun studio events).map Job.id) := by
  induction events generalizing s ids with
  | nil => simpa [State.begun, State.run] using h
  | cons event rest ih =>
      have hrest := ih (hs.step event) (h.step hs event)
      rwa [List.append_assoc, ← List.map_append] at hrest

/-- A call that came in a run and has ended since had a slot if it began in the run. -/
theorem of_later (hs : s.Sound studio) (h : s.Slotted ids) {events : List Event} {call : Finished}
    (hcall : call ∈ (s.run studio events).finished) (hlater : s.nextId ≤ call.id) :
    call.isRefused = false ↔ call.id ∈ (s.begun studio events).map Job.id := by
  rw [(h.run hs events).ended call hcall, List.mem_append, or_iff_right]
  exact fun hold => Nat.not_lt.2 hlater (h.given _ hold)

end Slotted

end State

end Press

end CanvasPress

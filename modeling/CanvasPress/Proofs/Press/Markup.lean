/-
# Markup is made on the spot

Without a directory for copies, a call for markup has nothing to wait for once it has its
slot: it is over, and its slot is free again, before anything else happens.  So a press with
a free slot answers such a call in one event.  `answer` is what it answers and `served` what
the call amounts to, apart from what is reported.

Neither depends on who else has come, on the limits of the press or on its engine.
-/

import CanvasPress.Proofs.Press.Batches

namespace CanvasPress

namespace Governor

variable {g : Governor}

/-- A slot that is taken and given back at once leaves nothing but a used ticket. -/
theorem release_acquire (h : g.Balanced 0 0) (hfree : 0 < g.free) :
    g.acquire.2.release g.nextTicket = { g with nextTicket := g.nextTicket + 1 } := by
  rw [acquire_of_free hfree]
  simp [release, returnSlot, h.idle hfree, Nat.sub_add_cancel hfree]

end Governor

namespace Press

variable {studio : Studio} {s s' : State} {job : Job} {fate : Fate} {id : Nat}
  {document : Document} {options : RenderOptions}

/-- The markup that a document is composed into at a time of day. -/
def Studio.markup (studio : Studio) (document : Document) (options : RenderOptions)
    (time : Timestamp) : Rendering :=
  let conversion := Conversion.vector (document.compose
    (studio.templates.get document.kind options.theme) options time) false
  { format := conversion.format
    mediaType := conversion.mediaType
    body := conversion.body
    filename := artifactName time (cacheKey document options) conversion
    filepath := none
    size := Thunk.mk fun _ => conversion.body.size
    metadata :=
      { processingTimeMs := 0
        requestedFormat := options.format
        format := conversion.format
        theme := options.theme
        width := options.width
        height := options.height
        dpi := options.dpi
        generatedAt := time
        cacheHit := false
        fallback := false } }

namespace State

/-- A press apart from what it has reported. -/
def hushed (s : State) : State :=
  { s with log := [] }

/-- The artifact that the cache has for a request. -/
def stock? (s : State) (key : String) : Option Rendering :=
  s.cache.bind fun cache =>
    match (cache.get s.now key).1 with
    | .hit rendering => some rendering
    | _ => none

/-- What a call for markup is answered if it gets a slot at once. -/
def answer (studio : Studio) (document : Document) (options : RenderOptions) (s : State) :
    Except Fault Rendering :=
  match options.validate with
  | .error cause => .error (.config cause)
  | .ok () =>
    match s.stock? (cacheKey document options) with
    | some rendering => .ok rendering.asHit
    | none => .ok (studio.markup document options (s.timeOfDay studio))

/-- A call is over that has had a slot for no time. -/
def passed (document : Document) (options : RenderOptions) (rendering : Rendering) (s : State) :
    State :=
  { s with
    governor := { s.governor with nextTicket := s.governor.nextTicket + 1 }
    nextId := s.nextId + 1
    finished := ⟨s.nextId, document, options, s.now, .ok rendering⟩ :: s.finished }

/-- What a call for markup amounts to if it gets a slot at once, apart from reports. -/
def served (studio : Studio) (document : Document) (options : RenderOptions) (s : State) :
    State :=
  match options.validate with
  | .error cause => s.reject document options (.config cause)
  | .ok () =>
    let key := cacheKey document options
    match s.stock? key with
    | some rendering =>
      { s.looked key with hits := s.hits + 1 }.passed document options rendering.asHit
    | none =>
      let rendering := studio.markup document options (s.timeOfDay studio)
      let mid : State := { s.looked key with
        renders := s.renders + 1
        cache := (s.looked key).cache.map fun cache => cache.put s.now key rendering }
      mid.passed document options rendering

/-! ## One call -/

theorem renderingOf_workFor (studio : Studio) (job : Job) {mid : State} (hnow : mid.now = s.now) :
    mid.renderingOf job (s.workFor studio job) (.vector (s.workFor studio job).svg false) none =
      studio.markup job.document job.options (s.timeOfDay studio) := by
  simp only [renderingOf, workFor, Studio.markup, hnow, Nat.sub_self, Nat.zero_div]
  rfl

theorem deliver_of_renderingOf {work : Work} {conversion : Conversion} {filepath : Option String}
    {rendering : Rendering} (hmade : s.renderingOf job work conversion filepath = rendering) :
    s.deliver job work conversion filepath =
      ({ s with
          renders := s.renders + 1
          cache := s.cache.map fun cache => cache.put s.now work.key rendering } : State).finish job
            (.ok rendering) := by
  subst hmade
  rfl

/-- A caller who is gone leaves the others. -/
theorem othersThan_entered (hs : s.HasNumbers) (document : Document) (options : RenderOptions) :
    (s.entered document options).othersThan s.nextId = s.jobs := by
  have hothers : s.jobs.filter (fun j => j.id != s.nextId) = s.jobs :=
    List.filter_eq_self.2 fun j hj => bne_iff_ne.2 (Nat.ne_of_lt (hs j hj))
  simp [othersThan, entered, caller, hothers]

theorem stock?_eq_some_iff {rendering : Rendering} {key : String} :
    s.stock? key = some rendering ↔
      ∃ cache, s.cache = some cache ∧ (cache.get s.now key).1 = .hit rendering := by
  rw [stock?, Option.bind_eq_some_iff]
  refine exists_congr fun cache => and_congr_right fun _ => ?_
  cases (cache.get s.now key).1 <;> simp

/-- A call that finds its artifact is over. -/
theorem hushed_begin_of_stock (studio : Studio) {rendering : Rendering}
    (hstock : s.stock? (cacheKey job.document job.options) = some rendering) :
    (s.begin studio job).hushed =
      (({ s.looked (cacheKey job.document job.options) with hits := s.hits + 1 } : State).finish
        job (.ok rendering.asHit)).hushed := by
  obtain ⟨cache, hcache, hhit⟩ := stock?_eq_some_iff.1 hstock
  simp only [begin, hcache, hhit, looked]
  rfl

/-- A call for markup that finds nothing is composed and delivered. -/
theorem hushed_begin_of_no_stock (hcopies : studio.settings.outputPath = none)
    (hformat : job.options.format = .vector)
    (hstock : s.stock? (cacheKey job.document job.options) = none) :
    (s.begin studio job).hushed = ((s.looked (cacheKey job.document job.options)).deliver job
      (s.workFor studio job) (.vector (s.workFor studio job).svg false) none).hushed := by
  cases hcache : s.cache with
  | none =>
      have hlooked : s.looked (cacheKey job.document job.options) = s := by
        rw [looked, hcache, Option.map_none, ← hcache]
      rw [hlooked]
      simp only [begin, hcache, composed, convert, hformat, converted, hcopies]
      rfl
  | some cache =>
      simp only [begin, hcache, looked]
      cases hfound : (cache.get s.now (cacheKey job.document job.options)).1 with
      | hit rendering =>
          rw [stock?_eq_some_iff.2 ⟨cache, hcache, hfound⟩] at hstock
          cases hstock
      | _ =>
          simp only [composed, convert, hformat, converted, hcopies]
          rfl

/-- The end of a call that has just come. -/
theorem finish_entered (hs : s.Sound studio) (hfree : 0 < s.governor.free)
    (document : Document) (options : RenderOptions) (cache : Option (Cache Rendering))
    (renders hits : Nat) (rendering : Rendering) :
    ({ s.entered document options with
        cache := cache, renders := renders, hits := hits } : State).finish
          (s.caller document options) (.ok rendering) =
      ({ s with cache := cache, renders := renders, hits := hits } : State).passed document options
        rendering := by
  have hjobs : ({ s.entered document options with
      cache := cache, renders := renders, hits := hits } : State).othersThan
        (s.caller document options).id = s.jobs :=
    othersThan_entered hs.numbered.jobs document options
  have hslot : (s.entered document options).governor.release (s.caller document options).ticket =
      { s.governor with nextTicket := s.governor.nextTicket + 1 } :=
    Governor.release_acquire hs.books hfree
  simp only [finish, hjobs, hslot]
  rfl

/-- A press with a free slot answers a call for markup in one event. -/
theorem hushed_arrive (hs : s.Sound studio) (hfree : 0 < s.governor.free)
    (hcopies : studio.settings.outputPath = none) (hformat : options.format = .vector)
    (document : Document) :
    (s.step studio (.arrive document options)).hushed =
      (s.served studio document options).hushed := by
  cases hvalid : options.validate with
  | error cause => simp only [step, arrive, served, hvalid]
  | ok _ =>
      have hgranted : s.governor.acquire.1 = .granted := by rw [Governor.acquire_of_free hfree]
      have harrived : s.step studio (.arrive document options) =
          (s.entered document options).begin studio (s.caller document options) := by
        simp only [step, arrive, hvalid, hgranted]
        rfl
      rw [harrived]
      cases hstock : s.stock? (cacheKey document options) with
      | some rendering =>
          have hbegun := @hushed_begin_of_stock (s.entered document options)
            (s.caller document options) studio rendering hstock
          have hended := finish_entered hs hfree document options
            (s.looked (cacheKey document options)).cache s.renders (s.hits + 1) rendering.asHit
          simp only [served, hvalid, hstock]
          exact hbegun.trans (congrArg hushed hended)
      | none =>
          have hbegun := @hushed_begin_of_no_stock studio (s.entered document options)
            (s.caller document options) hcopies hformat hstock
          have hended := finish_entered hs hfree document options
            ((s.looked (cacheKey document options)).cache.map fun cache =>
              cache.put s.now (cacheKey document options)
                (studio.markup document options (s.timeOfDay studio)))
            (s.renders + 1) s.hits (studio.markup document options (s.timeOfDay studio))
          have hnow : ((s.entered document options).looked (cacheKey document options)).now =
              (s.entered document options).now := rfl
          have hmade := renderingOf_workFor studio (s.caller document options) hnow
          simp only [served, hvalid, hstock]
          exact (hbegun.trans (congrArg hushed (deliver_of_renderingOf hmade))).trans
            (congrArg hushed hended)

/-! ## What a call amounts to -/

section Served

variable (studio : Studio) (document : Document) (options : RenderOptions) (s : State)

theorem hushed_served :
    (s.served studio document options).hushed = s.hushed.served studio document options := by
  have hstock : s.hushed.stock? = s.stock? := rfl
  unfold served
  rw [hstock]
  split
  · rfl
  · dsimp only
    split <;> rfl

@[simp]
theorem jobs_served : (s.served studio document options).jobs = s.jobs := by
  unfold served
  split
  · rfl
  · dsimp only
    split <;> rfl

@[simp]
theorem now_served : (s.served studio document options).now = s.now := by
  unfold served
  split
  · rfl
  · dsimp only
    split <;> rfl

@[simp]
theorem free_served : (s.served studio document options).governor.free = s.governor.free := by
  unfold served
  split
  · rfl
  · dsimp only
    split <;> rfl

theorem finished_served : (s.served studio document options).finished =
    ⟨s.nextId, document, options, s.now, s.answer studio document options⟩ :: s.finished := by
  unfold served answer
  split
  · rfl
  · dsimp only
    split <;> rfl

theorem result?_served : (s.served studio document options).result? s.nextId =
    some (s.answer studio document options) := by
  simp [result?, finished_served]

end Served

theorem isSome_cache_served (hcaching : s.cache.isSome = true) (studio : Studio)
    (document : Document) (options : RenderOptions) :
    (s.served studio document options).cache.isSome = true := by
  unfold served
  split
  · exact hcaching
  · dsimp only
    split <;> simp [passed, looked, hcaching]

/-! ## Artifacts in the cache -/

/-- What the cache has for a request is what is fresh under its key. -/
theorem isSome_stock?_iff {expiry : Nat}
    (hstocked : ∀ cache, s.cache = some cache → cache.Stocked expiry) (key : String) :
    (s.stock? key).isSome = true ↔
      ∃ entry ∈ s.entries, entry.key = key ∧ Cache.isFresh expiry s.now entry = true := by
  rw [Option.isSome_iff_exists]
  constructor
  · rintro ⟨rendering, hstock⟩
    obtain ⟨cache, hcache, hhit⟩ := stock?_eq_some_iff.1 hstock
    obtain ⟨-, entry, hentry, hfresh, -⟩ := Cache.entry?_of_hit hhit
    rw [(hstocked cache hcache).lifetime] at hfresh
    refine ⟨entry, ?_, by simpa using List.find?_some hentry, hfresh⟩
    rw [entries_eq hcache]
    exact List.mem_of_find?_eq_some hentry
  · rintro ⟨entry, hmem, hkey, hfresh⟩
    cases hcache : s.cache with
    | none => simp [entries, hcache] at hmem
    | some cache =>
        have horder := hstocked cache hcache
        rw [entries_eq hcache] at hmem
        have hfound : cache.entry? key = some entry :=
          (Cache.entry?_eq_some_iff_of_single horder.single).2 ⟨hmem, hkey⟩
        rw [← horder.lifetime] at hfresh
        exact ⟨entry.value, stock?_eq_some_iff.2
          ⟨cache, hcache, by simp [Cache.get, horder.intact, hfound, hfresh]⟩⟩

/-- A call for markup that is not refused is answered with an artifact, and it is served from
the cache if and only if there is a fresh one. -/
theorem answer_of_valid {expiry : Nat}
    (hstocked : ∀ cache, s.cache = some cache → cache.Stocked expiry)
    (hvalid : options.validate = .ok ()) (studio : Studio) (document : Document) :
    ∃ rendering, s.answer studio document options = .ok rendering ∧
      (rendering.metadata.cacheHit = true ↔ ∃ entry ∈ s.entries,
        entry.key = cacheKey document options ∧ Cache.isFresh expiry s.now entry = true) := by
  rw [← isSome_stock?_iff hstocked]
  unfold answer
  rw [hvalid]
  cases hstock : s.stock? (cacheKey document options) with
  | some rendering => exact ⟨rendering.asHit, rfl, iff_of_true rfl rfl⟩
  | none =>
      refine ⟨_, rfl, iff_of_false ?_ Bool.noConfusion⟩
      exact Bool.noConfusion

/-- There is an artifact in the cache under a key. -/
def Carries (s : State) (key : String) : Prop :=
  ∃ entry ∈ s.entries, entry.key = key

/-- What a call for markup leaves in the cache: what it was served, or what it was made. -/
theorem entries_served {expiry : Nat} {cache : Cache Rendering} (hcache : s.cache = some cache)
    (hstocked : cache.Stocked expiry) (hvalid : options.validate = .ok ()) (studio : Studio)
    (document : Document) :
    (s.served studio document options).entries = cache.entries ∧
        s.Carries (cacheKey document options) ∨
      (s.served studio document options).entries =
        ⟨cacheKey document options, studio.markup document options (s.timeOfDay studio), s.now⟩ ::
          (cache.get s.now (cacheKey document options)).2.without
            (cacheKey document options) := by
  cases hstock : s.stock? (cacheKey document options) with
  | some rendering =>
      refine .inl ?_
      obtain ⟨found, hfound, hhit⟩ := stock?_eq_some_iff.1 hstock
      rw [hcache] at hfound
      cases hfound
      have hkept : (s.served studio document options).cache = some cache := by
        simp only [served, hvalid, hstock, passed, looked, hcache, Option.map_some]
        rw [Cache.get_of_hit hhit]
      obtain ⟨-, entry, hentry, -⟩ := Cache.entry?_of_hit hhit
      refine ⟨entries_eq hkept, entry, ?_, by simpa using List.find?_some hentry⟩
      rw [entries_eq hcache]
      exact List.mem_of_find?_eq_some hentry
  | none =>
      refine .inr ?_
      have hintact := (hstocked.get s.now (isSome_shortKey?_cacheKey document options)).intact
      have hput : (s.served studio document options).cache =
          some ((cache.get s.now (cacheKey document options)).2.put s.now
            (cacheKey document options)
            (studio.markup document options (s.timeOfDay studio))) := by
        simp only [served, hvalid, hstock, passed, looked, hcache, Option.map_some]
      rw [entries_eq hput, Cache.put, if_neg (by simp [hintact])]

/-- What is in the cache after a call for markup has been there before or is stored now. -/
theorem mem_entries_served {expiry : Nat}
    (hstocked : ∀ cache, s.cache = some cache → cache.Stocked expiry) {entry : Entry Rendering}
    (hentry : entry ∈ (s.served studio document options).entries) :
    entry ∈ s.entries ∨ entry.stored = s.now := by
  cases hvalid : options.validate with
  | error cause =>
      simp only [served, hvalid] at hentry
      exact .inl hentry
  | ok _ =>
      cases hcache : s.cache with
      | none =>
          have hnone : (s.served studio document options).cache = none := by
            unfold served
            split
            · exact hcache
            · dsimp only
              split <;> simp [passed, looked, hcache]
          simp [entries, hnone] at hentry
      | some cache =>
          rw [entries_eq hcache]
          rcases entries_served hcache (hstocked cache hcache) hvalid studio document with
            ⟨hkept, -⟩ | hput
          · exact .inl (hkept ▸ hentry)
          · rw [hput] at hentry
            rcases List.mem_cons.1 hentry with rfl | hold
            · exact .inr rfl
            · exact .inl (Cache.entries_get_subset _ _ _ (List.mem_filter.1 hold).1)

/-- The cache loses no key to a call for markup. -/
theorem Carries.served {expiry : Nat} {key : String}
    (hstocked : ∀ cache, s.cache = some cache → cache.Stocked expiry) (h : s.Carries key)
    (studio : Studio) (document : Document) (options : RenderOptions) :
    (s.served studio document options).Carries key := by
  cases hvalid : options.validate with
  | error cause =>
      have hrefused : s.served studio document options =
          s.reject document options (.config cause) := by
        simp only [State.served, hvalid]
      rw [hrefused]
      exact h
  | ok _ =>
      obtain ⟨entry, hentry, rfl⟩ := h
      cases hcache : s.cache with
      | none => simp [entries, hcache] at hentry
      | some cache =>
          have hmem := hentry
          rw [entries_eq hcache] at hmem
          rcases entries_served hcache (hstocked cache hcache) hvalid studio document with
            ⟨hkept, -⟩ | hput
          · exact ⟨entry, hkept ▸ hmem, rfl⟩
          · by_cases hkey : entry.key = cacheKey document options
            · exact ⟨_, hput ▸ List.mem_cons_self, hkey.symm⟩
            · have hfound := ((hstocked cache hcache).mem_entries_get s.now
                (cacheKey document options) hmem).resolve_right fun hstale => hkey hstale.1
              exact ⟨entry, hput ▸ List.mem_cons_of_mem _
                (List.mem_filter.2 ⟨hfound, bne_iff_ne.2 hkey⟩), rfl⟩

/-- After a call for markup that is not refused the cache has an artifact for it. -/
theorem carries_served {expiry : Nat} {cache : Cache Rendering} (hcache : s.cache = some cache)
    (hstocked : cache.Stocked expiry) (hvalid : options.validate = .ok ()) (studio : Studio)
    (document : Document) :
    (s.served studio document options).Carries (cacheKey document options) := by
  rcases entries_served hcache hstocked hvalid studio document with
    ⟨hkept, entry, hentry, hkey⟩ | hput
  · rw [entries_eq hcache] at hentry
    exact ⟨entry, hkept ▸ hentry, hkey⟩
  · exact ⟨_, hput ▸ List.mem_cons_self, rfl⟩

end State

/-- A press that has a cache keeps one. -/
theorem Move.isSome_cache {marks : List Mark} (h : Move studio s marks s')
    (hs : s.cache.isSome = true) : s'.cache.isSome = true := by
  cases h with
  | lookUp => rfl
  | hit => rwa [State.cache_finish]
  | deliver =>
      rw [State.deliver, State.cache_finish]
      simpa using hs
  | fail => rwa [State.cache_finish]
  | expire => rwa [State.cache_finish]
  | purge => simpa [State.purgeCache] using hs
  | clear => simpa [State.clearCache] using hs
  | _ => exact hs

end Press

end CanvasPress

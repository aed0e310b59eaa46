/-
# What the cache answers

A call is served from the cache exactly when a call for the same request has stored
its rendering, nothing has replaced or cleared it since, and it is not too old; and
then it is served what was stored.  The cache mirrors the chronicle of the run: calls
that succeed without a hit store, clearings clear, and nothing else has a part in it.

Keys are digests, so this supposes that the digest tells the requests apart.
-/

import CanvasPress.Press.Open
import CanvasPress.Proofs.Cache.Key
import CanvasPress.Proofs.Press.Lookup
import CanvasPress.Proofs.Press.Runs
import CanvasPress.Proofs.Press.Sweeping

namespace CanvasPress.Press

variable {studio : Studio} {s s' : State} {job known : Job} {expiry : Nat} {history : List Mark}

/-! ## The chronicle as a history of the cache -/

/-- A call made a rendering, which is stored from then on. -/
def Finished.Stores (call : Finished) (rendering : Rendering) : Prop :=
  call.outcome = .ok rendering ∧ rendering.metadata.cacheHit = false

/-- The entry that a call leaves in the cache, if it leaves one. -/
def Finished.entry? (call : Finished) : Option (Entry Rendering) :=
  match call.outcome with
  | .ok rendering =>
    if rendering.metadata.cacheHit then none
    else some ⟨cacheKey call.document call.options, rendering, call.time⟩
  | .error _ => none

theorem Finished.entry?_eq_some_iff {call : Finished} {entry : Entry Rendering} :
    call.entry? = some entry ↔ ∃ rendering, call.Stores rendering ∧
      entry = ⟨cacheKey call.document call.options, rendering, call.time⟩ := by
  unfold Finished.entry? Finished.Stores
  cases call.outcome with
  | error fault => simp
  | ok rendering =>
      dsimp only
      constructor
      · intro h
        split_ifs at h with hhit
        exact ⟨rendering, ⟨rfl, by simpa using hhit⟩, (Option.some.inj h).symm⟩
      · rintro ⟨stored, ⟨hsame, hfresh⟩, rfl⟩
        cases hsame
        simp [hfresh]

/-- What a mark means for the cache. -/
def Mark.cacheMark? : Mark → Option (Cache.Mark Rendering)
  | .finished call => call.entry?.map .stored
  | .cleared => some .cleared

theorem Mark.cacheMark?_eq_stored_iff {mark : Mark} {entry : Entry Rendering} :
    mark.cacheMark? = some (.stored entry) ↔
      ∃ call, mark = .finished call ∧ call.entry? = some entry := by
  cases mark with
  | finished call => simp [Mark.cacheMark?]
  | cleared => simp [Mark.cacheMark?]

theorem Mark.cacheMark?_eq_cleared_iff {mark : Mark} :
    mark.cacheMark? = some .cleared ↔ mark = .cleared := by
  cases mark with
  | finished call => simp [Mark.cacheMark?]
  | cleared => simp [Mark.cacheMark?]

/-- The press has a cache whose entries live for a time, and it mirrors a history. -/
def State.Mirrored (s : State) (expiry : Nat) (history : List Mark) : Prop :=
  ∃ cache, s.cache = some cache ∧ cache.expiry = expiry ∧
    cache.Mirrors s.now (history.filterMap Mark.cacheMark?)

theorem State.mirrored_fresh {settings : Settings} (hcaching : settings.enableCaching = true)
    (governor : Governor) :
    (fresh settings governor).Mirrored (millis settings.cacheExpiryMs) [] :=
  ⟨.empty (millis settings.cacheExpiryMs), by simp [fresh, hcaching], rfl,
    Cache.mirrors_empty _ _⟩

/-- What does not touch cache and clock keeps the mirror, if it adds nothing to the
history of the cache. -/
theorem State.Mirrored.congr (h : s.Mirrored expiry history) {marks : List Mark}
    (hcache : s'.cache = s.cache) (hnow : s'.now = s.now)
    (hmarks : marks.filterMap Mark.cacheMark? = []) : s'.Mirrored expiry (history ++ marks) := by
  obtain ⟨cache, hsome, hexpiry, hmirrors⟩ := h
  refine ⟨cache, hcache.trans hsome, hexpiry, ?_⟩
  rwa [hnow, List.filterMap_append, hmarks, List.append_nil]

/-- Every move keeps the mirror. -/
theorem Move.mirrored {marks : List Mark} (h : Move studio s marks s') (hfitting : s.Fitting)
    (hs : s.Mirrored expiry history) : s'.Mirrored expiry (history ++ marks) := by
  obtain ⟨cache, hsome, hexpiry, hmirrors⟩ := hs
  have hs : s.Mirrored expiry history := ⟨cache, hsome, hexpiry, hmirrors⟩
  cases h with
  | advance nanos =>
      refine ⟨cache, hsome, hexpiry, ?_⟩
      rw [List.append_nil]
      exact hmirrors.mono (Nat.le_add_right _ _)
  | lookUp document options hcache =>
      cases hsome.symm.trans hcache
      refine ⟨_, rfl, ?_, ?_⟩
      · rw [Cache.expiry_get, hexpiry]
      · rw [List.append_nil]
        exact hmirrors.get (isSome_shortKey?_cacheKey document options)
  | hit hknows hphase hcache hhit =>
      exact hs.congr (State.cache_finish _ _ _) (State.now_finish _ _ _) rfl
  | @deliver job _ work conversion filepath hknows hconverts =>
      obtain ⟨hkey, -⟩ := hconverts.suits hfitting hknows
      have hcache : (s.deliver job work conversion filepath).cache =
          some (cache.put s.now work.key (s.renderingOf job work conversion filepath)) := by
        simp [State.deliver, hsome]
      refine ⟨_, hcache, by rw [Cache.expiry_put, hexpiry], ?_⟩
      have hnow : (s.deliver job work conversion filepath).now = s.now :=
        State.now_finish _ _ _
      rw [hnow, List.filterMap_append, hkey]
      exact hmirrors.put _ _
  | fail => exact hs.congr (State.cache_finish _ _ _) (State.now_finish _ _ _) rfl
  | expire => exact hs.congr (State.cache_finish _ _ _) (State.now_finish _ _ _) rfl
  | purge =>
      refine ⟨cache.purge s.now, by simp [State.purgeCache, hsome], ?_, ?_⟩
      · rw [Cache.expiry_purge, hexpiry]
      · rw [List.append_nil]
        exact hmirrors.purge
  | clear =>
      refine ⟨cache.clear, by simp [State.clearCache, hsome], ?_, ?_⟩
      · rw [Cache.expiry_clear, hexpiry]
      · rw [List.filterMap_append]
        exact hmirrors.clear
  | _ => exact hs.congr rfl rfl rfl

namespace State

theorem Mirrored.run (hs : s.Mirrored expiry []) (hnumbered : s.Numbered) (hfitting : s.Fitting)
    (studio : Studio) (events : List Event) :
    (s.run studio events).Mirrored expiry (s.chronicle studio events) := by
  have hmoves := run_moves hnumbered studio events
  generalize s.chronicle studio events = marks, s.run studio events = last at hmoves ⊢
  induction hmoves with
  | refl => exact hs
  | tail before move ih => exact move.mirrored (before.preserve Move.fitting hfitting) ih

end State

/-! ## Standing renderings -/

/-- The digest tells some texts apart. -/
def Separates (digest : String → String) (texts : List String) : Prop :=
  ∀ text ∈ texts, ∀ other ∈ texts, digest text = digest other → text = other

/-- A call is the last one whose rendering for a request has been stored, and nothing
has been cleared since. -/
structure Stands (history : List Mark) (document : Document) (options : RenderOptions)
    (call : Finished) (rendering : Rendering) : Prop where
  sameDocument : call.document = document
  sameOptions : call.options = options
  stores : call.Stores rendering
  last : ∃ before later, history = before ++ .finished call :: later ∧ .cleared ∉ later ∧
    ∀ other newer, .finished other ∈ later → other.Stores newer →
      ¬ (other.document = document ∧ other.options = options)

/-- The written form of the request of a call. -/
def Finished.material (call : Finished) : String :=
  keyMaterial call.document call.options

/-- What the cache remembers of a request is what stands for it, if the digest tells
the request from those of the calls that have ended. -/
theorem latest?_iff_stands {document : Document} {options : RenderOptions}
    {entry : Entry Rendering}
    (hseparates : Separates Digest.sha256Hex (keyMaterial document options ::
      (history.filterMap Mark.call?).map Finished.material)) :
    Cache.latest? (cacheKey document options) (history.filterMap Mark.cacheMark?) = some entry ↔
      ∃ call rendering, Stands history document options call rendering ∧
        entry = ⟨cacheKey document options, rendering, call.time⟩ := by
  have hkeys {call : Finished} (hcall : .finished call ∈ history) :
      cacheKey call.document call.options = cacheKey document options ↔
        call.document = document ∧ call.options = options := by
    constructor
    · intro hkey
      have hmem : call.material ∈ (history.filterMap Mark.call?).map Finished.material :=
        List.mem_map_of_mem (List.mem_filterMap.2 ⟨.finished call, hcall, rfl⟩)
      exact keyMaterial_inj (hseparates _ (List.mem_cons_of_mem _ hmem) _ List.mem_cons_self hkey)
    · rintro ⟨rfl, rfl⟩
      rfl
  rw [Cache.latest?_filterMap_eq_some_iff]
  constructor
  · rintro ⟨before, mark, later, rfl, hmark, hkey, hkept, hlast⟩
    obtain ⟨call, rfl, hentry⟩ := Mark.cacheMark?_eq_stored_iff.1 hmark
    obtain ⟨rendering, hstores, rfl⟩ := Finished.entry?_eq_some_iff.1 hentry
    obtain ⟨hdocument, hoptions⟩ := (hkeys (by simp)).1 hkey
    refine ⟨call, rendering, ⟨hdocument, hoptions, hstores, before, later, rfl, fun hcleared =>
      hkept .cleared hcleared rfl, fun other newer hother hnewer hsame => ?_⟩,
      by rw [hdocument, hoptions]⟩
    exact hlast _ hother _ (Mark.cacheMark?_eq_stored_iff.2
      ⟨other, rfl, Finished.entry?_eq_some_iff.2 ⟨newer, hnewer, rfl⟩⟩)
      ((hkeys (by simp [hother])).2 hsame)
  · rintro ⟨call, rendering, ⟨rfl, rfl, hstores, before, later, rfl, hkept, hlast⟩, rfl⟩
    refine ⟨before, .finished call, later, rfl, Mark.cacheMark?_eq_stored_iff.2
      ⟨call, rfl, Finished.entry?_eq_some_iff.2 ⟨rendering, hstores, rfl⟩⟩, rfl,
      fun newer hnewer hcleared => ?_, fun newer hnewer other hmark hkey => ?_⟩
    · rw [Mark.cacheMark?_eq_cleared_iff.1 hcleared] at hnewer
      exact hkept hnewer
    · obtain ⟨later', rfl, hentry⟩ := Mark.cacheMark?_eq_stored_iff.1 hmark
      obtain ⟨stored, hstored, rfl⟩ := Finished.entry?_eq_some_iff.1 hentry
      exact hlast later' stored hnewer hstored ((hkeys (by simp [hnewer])).1 hkey)

/-! ## Lookups -/

section Lookup

variable {cache : Cache Rendering}

/-- A lookup finds what stands for the request, if it is fresh, and nothing else. -/
theorem get_eq_hit_iff (rendering : Rendering) {document : Document} {options : RenderOptions}
    (hmirrors : cache.Mirrors s.now (history.filterMap Mark.cacheMark?))
    (hseparates : Separates Digest.sha256Hex (keyMaterial document options ::
      (history.filterMap Mark.call?).map Finished.material)) :
    (cache.get s.now (cacheKey document options)).1 = .hit rendering ↔
      ∃ call, Stands history document options call rendering ∧
        s.now - call.time ≤ cache.expiry := by
  rcases hmirrors.get_cases (isSome_shortKey?_cacheKey document options) with
    ⟨entry, hlatest, hfresh, hget⟩ | ⟨hstale, entries, hget, -⟩
  · obtain ⟨call, stored, hstands, rfl⟩ := (latest?_iff_stands hseparates).1 hlatest
    rw [hget]
    constructor
    · intro hhit
      cases hhit
      exact ⟨call, hstands, by simpa [Cache.isFresh] using hfresh⟩
    · rintro ⟨other, hother, -⟩
      have hsame := (latest?_iff_stands hseparates).2 ⟨other, rendering, hother, rfl⟩
      rw [hlatest] at hsame
      exact congrArg (fun entry => CanvasPress.Lookup.hit entry.value) (Option.some.inj hsame)
  · rw [hget]
    constructor
    · intro hhit
      cases hhit
    · rintro ⟨call, hstands, hfresh⟩
      have hstale := hstale _ ((latest?_iff_stands hseparates).2 ⟨call, rendering, hstands, rfl⟩)
      simp [Cache.isFresh] at hstale
      omega

/-- A call that begins while a rendering for its request stands and is fresh is served
it, now and for good. -/
theorem result?_of_hit (studio : Studio) (hnumbered : s.Numbered) {event : Event}
    {rendering : Rendering} (hbegins : s.begins? event = some job) (hcache : s.cache = some cache)
    (hhit : (cache.get s.now (cacheKey job.document job.options)).1 = .hit rendering)
    (later : List Event) :
    (s.run studio (event :: later)).result? job.id = some (.ok rendering.asHit) := by
  obtain ⟨mid, hmoves, hnow, hsame, -, -, -, -, hstep⟩ :=
    State.step_of_begins studio hnumbered.jobs hbegins
  have hfinished := (State.begin_of_hit studio job (hsame.trans hcache) (hnow ▸ hhit)).1
  have hresult : (s.step studio event).result? job.id = some (.ok rendering.asHit) := by
    rw [hstep, State.result?, hfinished]
    simp [State.ending]
  exact (State.run_moves (hnumbered.step event) studio later).result? (hnumbered.step event)
    hresult

end Lookup

/-- What a call that looked its artifact up at some time returns agrees with the history
up to then: it is a hit if and only if a rendering stands for the request that is not too
old, and then it is that rendering, marked as a hit. -/
def Agrees (history : List Mark) (expiry now : Nat) (document : Document)
    (options : RenderOptions) (outcome : Option (Except Fault Rendering)) : Prop :=
  ((∃ served, outcome = some (.ok served) ∧ served.metadata.cacheHit = true) ↔
      ∃ call rendering, Stands history document options call rendering ∧
        now - call.time ≤ expiry) ∧
    ∀ call rendering, Stands history document options call rendering →
      now - call.time ≤ expiry → outcome = some (.ok rendering.asHit)

/-- Whatever happens later, a call that begins returns what agrees with the history. -/
theorem agrees_of_begins (studio : Studio) (hnumbered : s.Numbered)
    (hmirrored : s.Mirrored expiry history)
    {event : Event} (hbegins : s.begins? event = some job)
    (hseparates : Separates Digest.sha256Hex (keyMaterial job.document job.options ::
      (history.filterMap Mark.call?).map Finished.material)) (later : List Event) :
    Agrees history expiry s.now job.document job.options
      ((s.run studio (event :: later)).result? job.id) := by
  obtain ⟨cache, hcache, rfl, hmirrors⟩ := hmirrored
  have hget (rendering : Rendering) := get_eq_hit_iff rendering hmirrors hseparates
  by_cases hhit : ∃ rendering,
      (cache.get s.now (cacheKey job.document job.options)).1 = .hit rendering
  · obtain ⟨rendering, hhit⟩ := hhit
    have hresult := result?_of_hit studio hnumbered hbegins hcache hhit later
    obtain ⟨call, hstands, hfresh⟩ := (hget rendering).1 hhit
    refine ⟨iff_of_true ⟨rendering.asHit, hresult, rfl⟩ ⟨call, rendering, hstands, hfresh⟩,
      fun other stored hother hotherFresh => ?_⟩
    have hsame := (hget stored).2 ⟨other, hother, hotherFresh⟩
    rw [hhit] at hsame
    cases hsame
    exact hresult
  · have hnone : ¬ ∃ call rendering, Stands history job.document job.options call rendering ∧
        s.now - call.time ≤ cache.expiry := by
      rintro ⟨call, rendering, hstands, hfresh⟩
      exact hhit ⟨rendering, (hget rendering).2 ⟨call, hstands, hfresh⟩⟩
    refine ⟨iff_of_false ?_ hnone, fun call rendering hstands hfresh =>
      absurd ⟨call, rendering, hstands, hfresh⟩ hnone⟩
    rintro ⟨served, hserved, hservedHit⟩
    have hmiss : s.Misses job := by
      intro other hother
      cases hcache.symm.trans hother
      exact not_exists.1 hhit
    have hmissed := State.missed_of_begins studio hnumbered hbegins hmiss later
    rw [hmissed.result? hserved] at hservedHit
    cases hservedHit

/-- Every entry of a mirrored cache was left in it by a call of the history. -/
theorem exists_stores_of_mem_entries {cache : Cache Rendering}
    (hmirrors : cache.Mirrors s.now (history.filterMap Mark.cacheMark?))
    {entry : Entry Rendering} (hentry : entry ∈ cache.entries) :
    ∃ call rendering, .finished call ∈ history ∧ call.Stores rendering ∧
      entry = ⟨cacheKey call.document call.options, rendering, call.time⟩ := by
  obtain ⟨before, mark, after, rfl, hmark, -⟩ :=
    Cache.latest?_filterMap_eq_some_iff.1 (hmirrors.sound entry hentry)
  obtain ⟨call, rfl, hcall⟩ := Mark.cacheMark?_eq_stored_iff.1 hmark
  obtain ⟨rendering, hstores, hsame⟩ := Finished.entry?_eq_some_iff.1 hcall
  exact ⟨call, rendering, List.mem_append_right _ List.mem_cons_self, hstores, hsame⟩

/-- Coherence of the cache, for every run of an opened press with caching: calls that
arrive, wait, work and leave in any order, with any outcomes, while time passes, the
cache is cleared and swept, and the engine is asked for anything.

* What a call returns agrees with the history up to the moment at which it began to
  work and looked its artifact up: it is served from the cache if and only if a call for
  the same request has stored its rendering at most the lifetime of entries ago and
  nothing has been cleared or stored for this request since, and then it is served what
  was stored.  In particular this is what rendering a document returns while a slot is
  free.
* Every entry of the cache is what some call that succeeded without a hit left in it,
  with the time at which that call ended.
* The same run without its sweeps ends the same calls with the same results. -/
theorem cache_coherent {settings : Settings} {around : Surroundings} {start : State}
    (hopen : openWith settings around = .ok (studio, start))
    (hcaching : settings.enableCaching = true) (events : List Event) :
    let s := start.run studio events
    let history := start.chronicle studio events
    let agrees := Agrees history (millis settings.cacheExpiryMs) s.now
    let separated (document : Document) (options : RenderOptions) : Prop :=
      Separates Digest.sha256Hex
        (keyMaterial document options :: s.finished.map Finished.material)
    (∀ event job, s.begins? event = some job → separated job.document job.options →
        ∀ later, agrees job.document job.options
          ((s.run studio (event :: later)).result? job.id)) ∧
      (∀ document options, options.validate = .ok () → 0 < s.governor.free →
        separated document options →
          ∀ patience, agrees document options (s.render studio document options patience).1) ∧
      (∀ cache, s.cache = some cache → ∀ entry ∈ cache.entries, ∃ call rendering,
        .finished call ∈ history ∧ call.Stores rendering ∧
          entry = ⟨cacheKey call.document call.options, rendering, call.time⟩) ∧
      (start.run studio (events.filter fun event => !event.isPurge)).finished =
        s.finished := by
  intro s history agrees separated
  obtain ⟨-, governor, rfl⟩ := fresh_of_openWith hopen
  have hstart := State.numbered_fresh settings governor
  have hnumbered : s.Numbered := hstart.run studio events
  have hmirrored : s.Mirrored (millis settings.cacheExpiryMs) history :=
    (State.mirrored_fresh hcaching governor).run hstart
      (State.fitting_fresh settings governor) studio events
  have hfinished : s.finished = (history.filterMap Mark.call?).reverse := by
    have hall := (State.run_moves hstart studio events).finished
    rwa [State.finished_fresh, List.append_nil] at hall
  have hmaterials {document : Document} {options : RenderOptions}
      (h : separated document options) : Separates Digest.sha256Hex
        (keyMaterial document options ::
          (history.filterMap Mark.call?).map Finished.material) := by
    intro text htext other hother
    refine h text ?_ other ?_
    · simpa [hfinished] using htext
    · simpa [hfinished] using hother
  have hbegun {event : Event} {job : Job} (hbegins : s.begins? event = some job)
      (hseparates : separated job.document job.options) (later : List Event) :=
    agrees_of_begins studio hnumbered hmirrored hbegins (hmaterials hseparates) later
  refine ⟨fun event job hbegins hseparates later => hbegun hbegins hseparates later,
    fun document options hvalid hfree hseparates patience => ?_,
    fun cache hcache entry hentry => ?_, ?_⟩
  · obtain ⟨last, ⟨later, rfl⟩, houtcome, -⟩ :=
      State.reaches_render studio s document options patience
    have hbegins : s.begins? (.arrive document options) =
        some ⟨s.nextId, s.governor.nextTicket, document, options, none, .queued⟩ := by
      simp [State.begins?, hvalid, hfree]
    rw [houtcome]
    exact hbegun hbegins hseparates later
  · obtain ⟨mirrored, hmirrored, -, hmirrors⟩ := hmirrored
    cases hmirrored.symm.trans hcache
    exact exists_stores_of_mem_entries hmirrors hentry
  · exact ((State.alike_fresh settings governor).run studio events).finished_eq

/-- A request rendered twice within the lifetime of entries is served from the cache the
second time. -/
theorem cache_coherent_second_request :
    let document := Document.ofKind .businessModel
    let options := { RenderOptions.ofSettings {} with format := .vector }
    let around : Surroundings := ⟨.obliging, .missing, none, ⟨0, 0⟩⟩
    ∃ (studio : Studio) (start : State), openWith {} around = .ok (studio, start) ∧
      ({} : Settings).enableCaching = true ∧
      let s := start.run studio [.arrive document options, .advance 1000]
      ∃ job, s.begins? (.arrive document options) = some job ∧
        Separates Digest.sha256Hex
          (keyMaterial job.document job.options :: s.finished.map Finished.material) ∧
        ∃ rendering : Rendering,
          (s.run studio [.arrive document options]).result? job.id =
            some (.ok rendering.asHit) := by
  intro document options around
  refine ⟨_, _, rfl, rfl, ?_⟩
  intro s
  have hbegins : s.begins? (.arrive document options) = some _ := rfl
  have hfinished : s.finished.map Finished.material = [keyMaterial document options] := rfl
  have hseparates : Separates Digest.sha256Hex
      (keyMaterial document options :: s.finished.map Finished.material) := by
    rw [hfinished]
    intro text htext other hother _
    simp only [List.mem_cons, List.not_mem_nil, or_false, or_self] at htext hother
    rw [htext, hother]
  obtain ⟨hlookups, -⟩ := cache_coherent (show openWith {} around = .ok _ from rfl) rfl
    [.arrive document options, .advance 1000]
  refine ⟨_, hbegins, hseparates, ?_⟩
  obtain ⟨-, hserved⟩ := hlookups _ _ hbegins hseparates []
  exact ⟨_, hserved _ _ ⟨rfl, rfl, ⟨rfl, rfl⟩, [], [], rfl, List.not_mem_nil,
    fun _ _ hmem => absurd hmem List.not_mem_nil⟩ (by decide)⟩

end CanvasPress.Press

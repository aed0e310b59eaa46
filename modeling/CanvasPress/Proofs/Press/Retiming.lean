/-
# At another time

Markup tells when it was composed.  Two presses are the same up to time if what they have
counted is the same, and if whatever one of them has returned and stored is what the other
one has returned and stored, composed perhaps at another time.  Calls for markup keep it so,
however much time passes between them, as long as neither press meets a stale artifact.
-/

import CanvasPress.Proofs.Press.Sequence

namespace CanvasPress.Press

variable {studio : Studio} {s s' : State} {document : Document} {options : RenderOptions}
  {documents : List Document} {spaced : List (Nat × Document)} {key : String}

/-! ## Renderings -/

/-- Two renderings are the same but for the time at which markup was composed. -/
inductive SameRendering (studio : Studio) : Rendering → Rendering → Prop where
  | refl (rendering : Rendering) : SameRendering studio rendering rendering
  | composed (document : Document) (options : RenderOptions) (time time' : Timestamp) :
      SameRendering studio (studio.markup document options time)
        (studio.markup document options time')
  | asHit {rendering rendering' : Rendering} (h : SameRendering studio rendering rendering') :
      SameRendering studio rendering.asHit rendering'.asHit

/-- Two answers are the same but for the time. -/
inductive SameAnswer (studio : Studio) :
    Except Fault Rendering → Except Fault Rendering → Prop where
  | ok {rendering rendering' : Rendering} (h : SameRendering studio rendering rendering') :
      SameAnswer studio (.ok rendering) (.ok rendering')
  | error (fault : Fault) : SameAnswer studio (.error fault) (.error fault)

/-- Two calls on record are the same but for the time. -/
structure SameCall (studio : Studio) (call call' : Finished) : Prop where
  id : call.id = call'.id
  document : call.document = call'.document
  options : call.options = call'.options
  outcome : SameAnswer studio call.outcome call'.outcome

/-- Two entries of caches are the same but for the time. -/
structure SameEntry (studio : Studio) (entry entry' : Entry Rendering) : Prop where
  key : entry.key = entry'.key
  value : SameRendering studio entry.value entry'.value

/-- Two caches hold the same but for the time. -/
structure SameCache (studio : Studio) (cache cache' : Cache Rendering) : Prop where
  expiry : cache.expiry = cache'.expiry
  wedged : cache.wedged = cache'.wedged
  entries : List.Forall₂ (SameEntry studio) cache.entries cache'.entries

/-- Two presses are the same but for the time and for what they have reported. -/
structure State.SameUpToTime (studio : Studio) (s s' : State) : Prop where
  governor : s.governor = s'.governor
  renders : s.renders = s'.renders
  hits : s.hits = s'.hits
  failures : s.failures = s'.failures
  engine : s.engine = s'.engine
  jobs : s.jobs = s'.jobs
  nextId : s.nextId = s'.nextId
  finished : List.Forall₂ (SameCall studio) s.finished s'.finished
  cache : Option.Rel (SameCache studio) s.cache s'.cache

theorem SameAnswer.refl (outcome : Except Fault Rendering) : SameAnswer studio outcome outcome := by
  cases outcome with
  | error fault => exact .error fault
  | ok rendering => exact .ok (.refl rendering)

theorem SameCache.refl (cache : Cache Rendering) : SameCache studio cache cache :=
  ⟨rfl, rfl, List.forall₂_same.2 fun _ _ => ⟨rfl, .refl _⟩⟩

theorem State.SameUpToTime.refl (s : State) : s.SameUpToTime studio s where
  governor := rfl
  renders := rfl
  hits := rfl
  failures := rfl
  engine := rfl
  jobs := rfl
  nextId := rfl
  finished := List.forall₂_same.2 fun _ _ => ⟨rfl, rfl, rfl, .refl _⟩
  cache := by
    cases s.cache with
    | none => exact .none
    | some cache => exact .some (.refl cache)

/-! ## Caches -/

namespace SameCache

variable {cache cache' : Cache Rendering}

/-- Both caches have an entry under a key, or neither has one. -/
theorem entry? (h : SameCache studio cache cache') (key : String) :
    Option.Rel (SameEntry studio) (cache.entry? key) (cache'.entry? key) := by
  have hentries := h.entries
  unfold Cache.entry?
  generalize cache.entries = entries, cache'.entries = entries' at hentries
  induction hentries with
  | nil => exact .none
  | @cons entry entry' rest rest' hsame _ ih =>
      rw [List.find?_cons, List.find?_cons, hsame.key]
      cases entry'.key == key with
      | true => exact .some hsame
      | false => exact ih

theorem put (h : SameCache studio cache cache') (now now' : Nat) (key : String)
    {rendering rendering' : Rendering} (hsame : SameRendering studio rendering rendering') :
    SameCache studio (cache.put now key rendering) (cache'.put now' key rendering') := by
  have hothers : List.Forall₂ (SameEntry studio) (cache.without key) (cache'.without key) := by
    have hentries := h.entries
    unfold Cache.without
    generalize cache.entries = entries, cache'.entries = entries' at hentries
    induction hentries with
    | nil => exact .nil
    | @cons entry entry' rest rest' hfirst _ ih =>
        rw [List.filter_cons, List.filter_cons, hfirst.key]
        split_ifs
        · exact .cons hfirst ih
        · exact ih
  unfold Cache.put
  rw [h.wedged]
  split_ifs
  · exact h
  · exact ⟨h.expiry, rfl, .cons ⟨rfl, hsame⟩ hothers⟩

end SameCache

namespace State

/-- Whatever the cache has under a key is fresh. -/
def Unspoiled (studio : Studio) (s : State) (key : String) : Prop :=
  ∀ entry ∈ s.entries, entry.key = key →
    Cache.isFresh (millis studio.settings.cacheExpiryMs) s.now entry = true

/-- A lookup among what is fresh. -/
theorem get_of_unspoiled {cache : Cache Rendering} (hcache : s.cache = some cache)
    (hstocked : cache.Stocked (millis studio.settings.cacheExpiryMs))
    (hfresh : s.Unspoiled studio key) :
    cache.get s.now key =
      (match cache.entry? key with
        | some entry => .hit entry.value
        | none => .miss, cache) := by
  cases hentry : cache.entry? key with
  | none => simp [Cache.get, hstocked.intact, hentry]
  | some entry =>
      have hmem : entry ∈ s.entries := by
        rw [entries_eq hcache]
        exact List.mem_of_find?_eq_some hentry
      have hmine := hfresh entry hmem (by simpa using List.find?_some hentry)
      rw [← hstocked.lifetime] at hmine
      simp [Cache.get, hstocked.intact, hentry, hmine]

/-- Among what is fresh, a call for markup is served with the entry under its key. -/
theorem stock?_of_unspoiled {cache : Cache Rendering} (hcache : s.cache = some cache)
    (hstocked : cache.Stocked (millis studio.settings.cacheExpiryMs))
    (hfresh : s.Unspoiled studio key) :
    s.stock? key = (cache.entry? key).map Entry.value ∧ s.looked key = s := by
  have hget := get_of_unspoiled hcache hstocked hfresh
  constructor
  · rw [stock?, hcache, Option.bind_some, hget]
    cases cache.entry? key <;> rfl
  · rw [looked, hcache, Option.map_some, hget, ← hcache]

/-- Two presses that are the same but for the time look up the same, if neither has anything
stale under the key. -/
theorem SameUpToTime.stock? (h : s.SameUpToTime studio s')
    (hstocked : ∀ cache, s.cache = some cache →
      cache.Stocked (millis studio.settings.cacheExpiryMs))
    (hstocked' : ∀ cache, s'.cache = some cache →
      cache.Stocked (millis studio.settings.cacheExpiryMs))
    (hfresh : s.Unspoiled studio key) (hfresh' : s'.Unspoiled studio key) :
    Option.Rel (SameRendering studio) (s.stock? key) (s'.stock? key) ∧
      s.looked key = s ∧ s'.looked key = s' := by
  have hcaches := h.cache
  generalize hcache : s.cache = found, hcache' : s'.cache = found' at hcaches
  cases hcaches with
  | none =>
      refine ⟨?_, ?_, ?_⟩
      · rw [State.stock?, State.stock?, hcache, hcache']
        exact .none
      · rw [looked, hcache, Option.map_none, ← hcache]
      · rw [looked, hcache', Option.map_none, ← hcache']
  | @some cache cache' hsame =>
      obtain ⟨hstock, hlooked⟩ := stock?_of_unspoiled hcache (hstocked _ hcache) hfresh
      obtain ⟨hstock', hlooked'⟩ := stock?_of_unspoiled hcache' (hstocked' _ hcache') hfresh'
      refine ⟨?_, hlooked, hlooked'⟩
      rw [hstock, hstock']
      have hentries := hsame.entry? key
      generalize cache.entry? key = found, cache'.entry? key = found' at hentries
      cases hentries with
      | none => exact .none
      | some hentry => exact .some hentry.value

/-! ## Calls -/

/-- What two presses that are the same but for the time answer and become, if neither has
anything stale under the key. -/
theorem SameUpToTime.served (h : s.SameUpToTime studio s')
    (hstocked : ∀ cache, s.cache = some cache →
      cache.Stocked (millis studio.settings.cacheExpiryMs))
    (hstocked' : ∀ cache, s'.cache = some cache →
      cache.Stocked (millis studio.settings.cacheExpiryMs))
    (hfresh : s.Unspoiled studio (cacheKey document options))
    (hfresh' : s'.Unspoiled studio (cacheKey document options)) :
    SameAnswer studio (s.answer studio document options) (s'.answer studio document options) ∧
      (s.served studio document options).SameUpToTime studio
        (s'.served studio document options) := by
  cases hvalid : options.validate with
  | error cause =>
      simp only [answer, State.served, hvalid]
      exact ⟨.error _, { h with
        nextId := congrArg (· + 1) h.nextId
        finished := .cons ⟨h.nextId, rfl, rfl, .error _⟩ h.finished }⟩
  | ok _ =>
      obtain ⟨hstocks, hlooked, hlooked'⟩ := h.stock? hstocked hstocked' hfresh hfresh'
      have hgovernor : { s.governor with nextTicket := s.governor.nextTicket + 1 } =
          { s'.governor with nextTicket := s'.governor.nextTicket + 1 } := by rw [h.governor]
      simp only [answer, State.served, hvalid, hlooked, hlooked']
      generalize s.stock? (cacheKey document options) = found,
        s'.stock? (cacheKey document options) = found' at hstocks
      cases hstocks with
      | some hsame =>
          exact ⟨.ok hsame.asHit, { h with
            governor := hgovernor
            hits := congrArg (· + 1) h.hits
            nextId := congrArg (· + 1) h.nextId
            finished := .cons ⟨h.nextId, rfl, rfl, .ok hsame.asHit⟩ h.finished }⟩
      | none =>
          have hmade : SameRendering studio
              (studio.markup document options (s.timeOfDay studio))
              (studio.markup document options (s'.timeOfDay studio)) :=
            .composed document options _ _
          refine ⟨.ok hmade, { h with
            governor := hgovernor
            renders := congrArg (· + 1) h.renders
            nextId := congrArg (· + 1) h.nextId
            finished := .cons ⟨h.nextId, rfl, rfl, .ok hmade⟩ h.finished
            cache := ?_ }⟩
          have hcaches := h.cache
          simp only [passed]
          generalize s.cache = cache, s'.cache = cache' at hcaches
          cases hcaches with
          | none => exact .none
          | some hcache => exact .some (hcache.put _ _ _ hmade)

/-- A press is the same as another one if it is so apart from reports. -/
theorem SameUpToTime.of_hushed {mid mid' : State} (h : mid.SameUpToTime studio mid')
    (hs : s.hushed = mid.hushed) (hs' : s'.hushed = mid'.hushed) :
    s.SameUpToTime studio s' := by
  have hmid : mid.hushed.SameUpToTime studio mid'.hushed := { h with }
  rw [← hs, ← hs'] at hmid
  exact { hmid with }

/-! ## One after another -/

/-- Documents are rendered one after another, each after a pause, and none of them meets
anything stale. -/
def StaysFresh (studio : Studio) (options : RenderOptions) : List (Nat × Document) → State → Prop
  | [], _ => True
  | (pause, document) :: rest, s =>
    (s.advance pause).Unspoiled studio (cacheKey document options) ∧
      StaysFresh studio options rest ((s.advance pause).render studio document options none).2

/-- However long the pauses are between documents, what is answered is the same but for the
time. -/
theorem SameUpToTime.renderSpaced (hcopies : studio.settings.outputPath = none)
    (hformat : options.format = .vector) {spaced' : List (Nat × Document)}
    (hdocuments : spaced.map Prod.snd = spaced'.map Prod.snd) (hs : s.Ready studio)
    (hs' : s'.Ready studio) (h : s.SameUpToTime studio s')
    (hfresh : s.StaysFresh studio options spaced) (hfresh' : s'.StaysFresh studio options spaced') :
    List.Forall₂ (Option.Rel (SameAnswer studio)) (s.renderSpaced studio options spaced).1
        (s'.renderSpaced studio options spaced').1 ∧
      (s.renderSpaced studio options spaced).2.SameUpToTime studio
        (s'.renderSpaced studio options spaced').2 := by
  induction spaced generalizing s s' spaced' with
  | nil =>
      cases spaced' with
      | nil => exact ⟨.nil, h⟩
      | cons next rest => cases hdocuments
  | cons next rest ih =>
      cases spaced' with
      | nil => cases hdocuments
      | cons next' rest' =>
          obtain ⟨pause, document⟩ := next
          obtain ⟨pause', document'⟩ := next'
          obtain ⟨rfl, hrest⟩ : document = document' ∧ rest.map Prod.snd = rest'.map Prod.snd := by
            simpa using hdocuments
          have hpaused := hs.advance pause
          have hpaused' := hs'.advance pause'
          have hsame : (s.advance pause).SameUpToTime studio (s'.advance pause') := { h with }
          obtain ⟨hfirst, hlater⟩ := hfresh
          obtain ⟨hfirst', hlater'⟩ := hfresh'
          obtain ⟨hanswer, hserved⟩ := hsame.served hpaused.sound.stocked hpaused'.sound.stocked
            hfirst hfirst'
          rw [render_eq hcopies hformat hpaused] at hlater
          rw [render_eq hcopies hformat hpaused'] at hlater'
          have hturned : ((s.advance pause).turn studio options (0, document)).SameUpToTime studio
              ((s'.advance pause').turn studio options (0, document)) := { hserved with }
          have hnext := hturned.of_hushed (hushed_arrival hcopies hformat hpaused document)
            (hushed_arrival hcopies hformat hpaused' document)
          obtain ⟨hanswers, hlast⟩ := ih hrest (hpaused.arrival hcopies hformat document)
            (hpaused'.arrival hcopies hformat document) hnext hlater hlater'
          simp only [State.renderSpaced, render_eq hcopies hformat hpaused,
            render_eq hcopies hformat hpaused']
          exact ⟨.cons (.some hanswer) hanswers, hlast⟩

/-- How long documents take that are rendered one after another. -/
def span (spaced : List (Nat × Document)) : Nat :=
  (spaced.map fun next => next.1 + moment).sum

/-- Who takes no longer than artifacts last meets nothing stale. -/
theorem staysFresh_of_span (hcopies : studio.settings.outputPath = none)
    (hformat : options.format = .vector) (hs : s.Ready studio)
    (hspan : span spaced ≤ millis studio.settings.cacheExpiryMs)
    (hentries : ∀ entry ∈ s.entries,
      s.now + span spaced ≤ entry.stored + millis studio.settings.cacheExpiryMs) :
    s.StaysFresh studio options spaced := by
  induction spaced generalizing s with
  | nil => trivial
  | cons next rest ih =>
      obtain ⟨pause, document⟩ := next
      have hpaused := hs.advance pause
      have hsum : span ((pause, document) :: rest) = pause + moment + span rest := rfl
      rw [hsum] at hspan hentries
      constructor
      · intro entry hentry _
        have hlasts := hentries entry hentry
        have hnow : (s.advance pause).now = s.now + pause := rfl
        rw [Cache.isFresh, decide_eq_true_eq, hnow]
        omega
      · have hnow : ((s.advance pause).run studio [.arrive document options, .advance moment]).now =
            s.now + pause + moment :=
          (congrArg State.now (hushed_arrival hcopies hformat hpaused document)).trans
            (congrArg (· + moment) (now_served studio document options (s.advance pause)))
        rw [render_eq hcopies hformat hpaused]
        refine ih (hpaused.arrival hcopies hformat document) (by omega) fun entry hentry => ?_
        rw [entries_arrival hcopies hformat hpaused] at hentry
        rw [hnow]
        rcases mem_entries_served hpaused.sound.stocked hentry with hold | hstored
        · have hlasts := hentries entry hold
          omega
        · have hpause : (s.advance pause).now = s.now + pause := rfl
          rw [hstored, hpause]
          omega

/-- A press that is opened with a cache never loses it. -/
theorem isSome_cache_run {settings : Settings} {around : Surroundings} {start : State}
    (hopen : openWith settings around = .ok (studio, start))
    (hcaching : settings.enableCaching = true) (before : List Event) :
    (start.run studio before).cache.isSome = true := by
  have hnumbered := (steady_of_openWith hopen).sound.numbered
  obtain ⟨-, governor, rfl⟩ := fresh_of_openWith hopen
  refine (run_moves hnumbered studio before).preserve Move.isSome_cache ?_
  simp [fresh, hcaching]

end State

/-! ## The theorem -/

/-- A batch of markup is its documents rendered one after another.  For every run of an opened
press that writes no copies, whatever its limits, provided a slot is free, as there is when it
is idle, and for all documents and batch options that ask for markup:

* The items are the answers that a caller gets who has the documents rendered one after another
  in order, and the press is left as he leaves it, apart from reports: its counters, its cache
  and all it has on record are the same.
* The size of groups makes no difference to the items or to how the press is left.
* With options that are invalid every item is refused for them.
* Otherwise every item succeeds.  It is served from the cache if and only if there was a fresh
  artifact for it when it had its turn.  If there is a cache and the document has come before,
  there was an artifact for it then.
* If the caller takes his time between documents, he is answered the same and leaves the press
  the same but for the time at which markup was composed, as long as nothing that is looked up
  has become stale. -/
theorem markup_batch_is_sequential {settings : Settings} {around : Surroundings} {start : State}
    (hopen : openWith settings around = .ok (studio, start))
    (hcopies : settings.outputPath = none) (before : List Event) :
    let s := start.run studio before
    (s.governor.active = 0 → 0 < s.governor.free) ∧
      (0 < s.governor.free → ∀ (documents : List Document) (batch : BatchOptions),
        batch.options.format = .vector →
          let items := (s.renderBatch studio documents batch).1
          let last := (s.renderBatch studio documents batch).2
          let alone := s.renderSpaced studio batch.options (State.unspaced documents)
          (items.map BatchItem.document = documents ∧
              items.map (fun item => some item.outcome) = alone.1 ∧ last.hushed = alone.2.hushed) ∧
            (∀ batch' : BatchOptions, batch'.options = batch.options →
              (s.renderBatch studio documents batch').1 = items ∧
                (s.renderBatch studio documents batch').2.hushed = last.hushed) ∧
            (∀ cause, batch.options.validate = .error cause →
              ∀ item ∈ items, item.outcome = .error (.config cause)) ∧
            (batch.options.validate = .ok () → ∀ i document, documents[i]? = some document →
              let mid := (s.renderSpaced studio batch.options
                (State.unspaced (documents.take i))).2
              let key := cacheKey document batch.options
              ∃ item rendering, items[i]? = some item ∧ item.outcome = .ok rendering ∧
                (rendering.metadata.cacheHit = true ↔ ∃ entry ∈ mid.entries, entry.key = key ∧
                  Cache.isFresh (millis settings.cacheExpiryMs) mid.now entry = true) ∧
                (settings.enableCaching = true → document ∈ documents.take i →
                  ∃ entry ∈ mid.entries, entry.key = key)) ∧
            ∀ spaced, spaced.map Prod.snd = documents →
              s.StaysFresh studio batch.options (State.unspaced documents) →
                s.StaysFresh studio batch.options spaced →
                  List.Forall₂ (Option.Rel (SameAnswer studio))
                      (items.map fun item => some item.outcome)
                      (s.renderSpaced studio batch.options spaced).1 ∧
                    last.SameUpToTime studio
                      (s.renderSpaced studio batch.options spaced).2) := by
  have hsteady := State.steady_of_openWith hopen
  have hcached (hcaching : settings.enableCaching = true) :=
    State.isSome_cache_run hopen hcaching before
  obtain ⟨rfl, -⟩ := fresh_of_openWith hopen
  intro s
  have hs : s.Steady studio := hsteady.run before
  refine ⟨fun hidle => ?_, fun hfree documents batch hformat => ?_⟩
  · have hroomy := hs.sound.roomy
    rw [Governor.active] at hidle
    omega
  intro items last alone
  have hready : s.Ready studio := ⟨hs.sound, hfree⟩
  obtain ⟨hlast, hitems⟩ :=
    State.renderBatch_eq_renderSpaced hcopies hformat hs hfree documents batch rfl
  have houtcomes := hitems.outcomes_renderSpaced hcopies hformat hready
  refine ⟨⟨hitems.map_document, houtcomes, hlast⟩, fun batch' hbatch => ?_,
    fun cause hinvalid item hitem => ?_, fun hvalid i document hdocument => ?_,
    fun spaced hdocuments hfresh hfresh' => ?_⟩
  · have hother : batch'.options.format = .vector := hbatch ▸ hformat
    obtain ⟨hlast', hitems'⟩ :=
      State.renderBatch_eq_renderSpaced hcopies hformat hs hfree documents batch' hbatch
    exact ⟨hitems'.unique hitems, hlast'.trans hlast.symm⟩
  · obtain ⟨i, hitem⟩ := List.mem_iff_getElem?.1 hitem
    have hless : i < documents.length := hitems.length ▸ (List.getElem?_eq_some_iff.1 hitem).1
    have hanswer := hitems.outcome_eq_answer hcopies hformat hready
      (List.getElem?_eq_getElem hless) hitem
    rw [hanswer, State.answer, hinvalid]
  · intro mid key
    obtain ⟨outcome, -, hitem⟩ := hitems.item i document hdocument
    have hmid := State.ready_renderSpaced hcopies hformat hready
      (State.unspaced (documents.take i))
    obtain ⟨rendering, hrendering, hhit⟩ :=
      State.answer_of_valid hmid.sound.stocked hvalid studio document
    have hanswer := hitems.outcome_eq_answer hcopies hformat hready hdocument hitem
    refine ⟨_, rendering, hitem, hanswer.trans hrendering, hhit, fun hcaches hcame => ?_⟩
    refine State.carries_renderSpaced hcopies hformat hready hvalid (hcached hcaches) ?_
    simpa [State.unspaced] using hcame
  · have hsame : (State.unspaced documents).map Prod.snd = spaced.map Prod.snd := by
      rw [hdocuments, State.unspaced, List.map_map]
      exact List.map_id documents
    obtain ⟨hanswers, hpresses⟩ := (State.SameUpToTime.refl s).renderSpaced hcopies hformat hsame
      hready hready hfresh hfresh'
    rw [houtcomes]
    exact ⟨hanswers, hpresses.of_hushed hlast rfl⟩

/-- A document that comes twice is composed once, in one group as well as with five seconds in
between. -/
theorem markup_batch_is_sequential_of_repeated_document :
    let settings : Settings := { maxConcurrentRenders := 1, maxQueueDepth := some 0 }
    let options := { RenderOptions.ofSettings settings with format := .vector }
    let document := Document.ofKind .businessModel
    let around : Surroundings := ⟨.obliging, .missing, none, ⟨0, 0⟩⟩
    ∃ (studio : Studio) (start : State), openWith settings around = .ok (studio, start) ∧
      start.governor.active = 0 ∧
      ∃ first second made served,
        (start.renderBatch studio [document, document] ⟨2, options⟩).1 = [first, second] ∧
        first.outcome = .ok made ∧ made.metadata.cacheHit = false ∧
        second.outcome = .ok served ∧ served.metadata.cacheHit = true ∧
        List.Forall₂ (Option.Rel (SameAnswer studio)) [some first.outcome, some second.outcome]
          (start.renderSpaced studio options [(0, document), (5000000000, document)]).1 := by
  intro settings options document around
  let studio : Studio := ⟨.obliging, settings, .empty, none, ⟨0, 0⟩⟩
  let start : State := .fresh settings (.ofCapacity 1 (some 0))
  have hopen : openWith settings around = .ok (studio, start) := rfl
  have hcopies : studio.settings.outputPath = none := rfl
  have hformat : options.format = .vector := rfl
  have hready : start.Ready studio := ⟨(State.steady_of_openWith hopen).sound, Nat.one_pos⟩
  have hfresh (spaced : List (Nat × Document))
      (hspan : State.span spaced ≤ millis settings.cacheExpiryMs) :
      start.StaysFresh studio options spaced :=
    State.staysFresh_of_span hcopies hformat hready hspan fun _ hentry => nomatch hentry
  have hunspaced := hfresh (State.unspaced [document, document]) (by decide)
  obtain ⟨hfree, hbatches⟩ := markup_batch_is_sequential hopen hcopies []
  obtain ⟨⟨hdocuments, -, -⟩, -, -, hitems, hspaced⟩ :=
    hbatches (hfree rfl) [document, document] ⟨2, options⟩ hformat
  obtain ⟨first, made, hfirst, hmade, hmiss, -⟩ := hitems rfl 0 document rfl
  obtain ⟨second, served, hsecond, hserved, hhit, hkept⟩ := hitems rfl 1 document rfl
  have hpair : (start.renderBatch studio [document, document] ⟨2, options⟩).1 =
      [first, second] := by
    obtain ⟨item, rest, hitems, -, hrest⟩ := List.map_eq_cons_iff.1 hdocuments
    obtain ⟨item', last, rfl, -, hlast⟩ := List.map_eq_cons_iff.1 hrest
    obtain rfl := List.map_eq_nil_iff.1 hlast
    rw [hitems] at hfirst hsecond
    cases hfirst
    cases hsecond
    exact hitems
  obtain ⟨entry, hentry, hkey⟩ := hkept rfl List.mem_cons_self
  have hanswers := (hspaced [(0, document), (5000000000, document)] rfl hunspaced
    (hfresh _ (by decide))).1
  refine ⟨studio, start, hopen, rfl, first, second, made, served, hpair, hmade, ?_, hserved, ?_, ?_⟩
  · rw [← Bool.not_eq_true, hmiss]
    rintro ⟨stale, hstale, -⟩
    cases hstale
  · exact hhit.2 ⟨entry, hentry, hkey, hunspaced.2.1 entry hentry hkey⟩
  · have hanswers : List.Forall₂ _ ((start.renderBatch studio [document, document]
      ⟨2, options⟩).1.map fun item => some item.outcome) _ := hanswers
    rw [hpair] at hanswers
    exact hanswers

/-- Nothing is composed zero pixels wide, whether in a batch or alone. -/
theorem not_every_markup_batch_succeeds :
    ¬ ∀ (settings : Settings) (around : Surroundings) (studio : Studio) (start : State),
      openWith settings around = .ok (studio, start) → settings.outputPath = none →
        start.governor.active = 0 → start.governor.queued = 0 →
          ∀ (documents : List Document) (batch : BatchOptions), batch.options.format = .vector →
            ∀ item ∈ (start.renderBatch studio documents batch).1, item.isSuccess = true := by
  intro hall
  let settings : Settings := {}
  let options := { RenderOptions.ofSettings settings with format := .vector, width := 0 }
  let document : Document := ⟨none, .businessModel, [("channels", .list ["Web"])]⟩
  let studio : Studio := ⟨.obliging, settings, .empty, none, ⟨0, 0⟩⟩
  let start : State := .fresh settings (.ofCapacity 3 none)
  have hitems : (start.renderBatch studio [document] ⟨1, options⟩).1 =
      [⟨0, document, .error (.config (.emptySize 0 800))⟩] := by
    simp only [State.renderBatch, groupsOf, List.take_nil, List.drop_nil]
    rfl
  have hitem := hall settings ⟨.obliging, .missing, none, ⟨0, 0⟩⟩ studio start rfl rfl rfl rfl
    [document] ⟨1, options⟩ rfl ⟨0, document, .error (.config (.emptySize 0 800))⟩
    (hitems ▸ List.mem_singleton_self _)
  cases hitem

end CanvasPress.Press

/-
# One after another

A batch that asks for markup is nothing but its documents rendered one after another.  Each
call is over before the next one begins, so groups make no difference: nobody ever waits for
a slot, and a document that comes again finds what the first one left in the cache.

A patient caller may also take his time between documents.  What he is answered differs from
the items of the batch in the time of day at which markup was composed, and in nothing else
as long as nothing goes stale.
-/

import CanvasPress.Proofs.Press.Markup

namespace CanvasPress.Press

variable {studio : Studio} {s s' : State} {document : Document} {options : RenderOptions}
  {documents : List Document} {spaced : List (Nat × Document)}

namespace State

/-- Render documents one after another, each after a pause. -/
def renderSpaced (studio : Studio) (options : RenderOptions) :
    List (Nat × Document) → State → List (Option (Except Fault Rendering)) × State
  | [], s => ([], s)
  | (pause, document) :: rest, s =>
    let (outcome, s) := (s.advance pause).render studio document options none
    let (more, s) := renderSpaced studio options rest s
    (outcome :: more, s)

/-- Documents that follow one another without a pause. -/
def unspaced (documents : List Document) : List (Nat × Document) :=
  documents.map fun document => (0, document)

/-- A document is served after a pause. -/
def turn (studio : Studio) (options : RenderOptions) (s : State) (next : Nat × Document) : State :=
  ((s.advance next.1).served studio next.2 options).advance moment

/-- Nothing happens when nothing is waited for. -/
theorem driveWhile_of_stopped {goes : State → Bool} (hstopped : goes s = false)
    (studio : Studio) (limit : Option Nat) (fuel : Nat) :
    s.driveWhile studio goes limit fuel = s := by
  cases fuel with
  | zero => rfl
  | succ fuel =>
      rw [driveWhile, if_neg]
      rw [hstopped]
      exact Bool.false_ne_true

theorem hushed_turn (studio : Studio) (options : RenderOptions) (next : Nat × Document)
    (s : State) : (s.turn studio options next).hushed = s.hushed.turn studio options next := by
  have hserved := hushed_served studio next.2 options (s.advance next.1)
  exact congrArg (State.advance moment) hserved

theorem hushed_foldl_turn (studio : Studio) (options : RenderOptions)
    (spaced : List (Nat × Document)) (s : State) :
    (spaced.foldl (turn studio options) s).hushed =
      spaced.foldl (turn studio options) s.hushed := by
  induction spaced generalizing s with
  | nil => rfl
  | cons next rest ih => rw [List.foldl_cons, ih, hushed_turn, List.foldl_cons]

theorem jobs_foldl_turn (studio : Studio) (options : RenderOptions)
    (spaced : List (Nat × Document)) (s : State) :
    (spaced.foldl (turn studio options) s).jobs = s.jobs := by
  induction spaced generalizing s with
  | nil => rfl
  | cons next rest ih =>
      rw [List.foldl_cons, ih]
      exact jobs_served studio next.2 options (s.advance next.1)

theorem free_foldl_turn (studio : Studio) (options : RenderOptions)
    (spaced : List (Nat × Document)) (s : State) :
    (spaced.foldl (turn studio options) s).governor.free = s.governor.free := by
  induction spaced generalizing s with
  | nil => rfl
  | cons next rest ih =>
      rw [List.foldl_cons, ih]
      exact free_served studio next.2 options (s.advance next.1)

/-- Renderings one after another are a run. -/
theorem reaches_renderSpaced (studio : Studio) (options : RenderOptions)
    (spaced : List (Nat × Document)) (s : State) :
    Reaches studio s (s.renderSpaced studio options spaced).2 := by
  induction spaced generalizing s with
  | nil => exact .refl s
  | cons next rest ih =>
      obtain ⟨pause, document⟩ := next
      obtain ⟨last, hreaches, -, hend⟩ :=
        reaches_render studio (s.advance pause) document options none
      have hrendered : Reaches studio s ((s.advance pause).render studio document options none).2 :=
        (((Reaches.refl s).next (.advance pause)).next _).trans (hreaches.trans hend)
      exact hrendered.trans (ih _)

/-- A press that can take a call at once. -/
structure Ready (studio : Studio) (s : State) : Prop where
  sound : s.Sound studio
  free : 0 < s.governor.free

theorem Ready.of_hushed (h : s.Ready studio) {events : List Event} {mid : State}
    (hmid : (s.run studio events).hushed = mid.hushed)
    (hfree : mid.governor.free = s.governor.free) : (s.run studio events).Ready studio where
  sound := h.sound.run events
  free := by
    have hsame : (s.run studio events).governor = mid.governor :=
      (congrArg State.governor hmid :)
    rw [hsame, hfree]
    exact h.free

/-! ## Items -/

section Items

variable {last : State} {index id : Nat} {items others : List BatchItem}

/-- Items are a matter of the calls on record alone. -/
theorem AreResults.congr (h : last.AreResults index id documents items)
    (hfinished : last.finished = s.finished) : s.AreResults index id documents items where
  length := h.length
  item number document hdocument := by
    obtain ⟨outcome, hresult, hitem⟩ := h.item number document hdocument
    rw [result?, hfinished] at hresult
    exact ⟨outcome, hresult, hitem⟩

/-- There is one way only to list the results of calls. -/
theorem AreResults.unique (h : last.AreResults index id documents items)
    (h' : last.AreResults index id documents others) : items = others := by
  refine List.ext_getElem? fun number => ?_
  rcases Nat.lt_or_ge number documents.length with hless | hmore
  · have hdocument := List.getElem?_eq_getElem hless
    obtain ⟨outcome, hresult, hitem⟩ := h.item number _ hdocument
    obtain ⟨outcome', hresult', hitem'⟩ := h'.item number _ hdocument
    rw [hresult] at hresult'
    cases hresult'
    rw [hitem, hitem']
  · rw [List.getElem?_eq_none (h.length ▸ hmore), List.getElem?_eq_none (h'.length ▸ hmore)]

theorem AreResults.map_document (h : last.AreResults index id documents items) :
    items.map BatchItem.document = documents := by
  refine List.ext_getElem? fun number => ?_
  rw [List.getElem?_map]
  rcases Nat.lt_or_ge number documents.length with hless | hmore
  · obtain ⟨outcome, -, hitem⟩ := h.item number _ (List.getElem?_eq_getElem hless)
    rw [hitem, List.getElem?_eq_getElem hless, Option.map_some]
  · rw [List.getElem?_eq_none (h.length ▸ hmore), List.getElem?_eq_none hmore, Option.map_none]

theorem AreResults.outcomes (h : last.AreResults index id documents items) :
    items.map (fun item => some item.outcome) =
      (List.range' id documents.length).map last.result? := by
  refine List.ext_getElem? fun number => ?_
  rw [List.getElem?_map, List.getElem?_map]
  rcases Nat.lt_or_ge number documents.length with hless | hmore
  · obtain ⟨outcome, hresult, hitem⟩ := h.item number _ (List.getElem?_eq_getElem hless)
    rw [hitem, List.getElem?_range' hless, Nat.one_mul, Option.map_some, Option.map_some, hresult]
  · rw [List.getElem?_eq_none (h.length ▸ hmore),
      List.getElem?_eq_none (by rw [List.length_range']; exact hmore)]
    rfl

end Items

/-! ## Calls in a ready press -/

theorem Ready.advance (hs : s.Ready studio) (pause : Nat) : (s.advance pause).Ready studio :=
  ⟨hs.sound.step (.advance pause), hs.free⟩

section Markup

variable (hcopies : studio.settings.outputPath = none) (hformat : options.format = .vector)

include hcopies hformat

/-- The arrival of a document in a ready press is its turn. -/
theorem hushed_arrival (hs : s.Ready studio) (document : Document) :
    (s.run studio [.arrive document options, .advance moment]).hushed =
      (s.turn studio options (0, document)).hushed :=
  congrArg (State.advance moment) (hushed_arrive hs.sound hs.free hcopies hformat document)

theorem Ready.arrival (hs : s.Ready studio) (document : Document) :
    (s.run studio [.arrive document options, .advance moment]).Ready studio :=
  hs.of_hushed (hushed_arrival hcopies hformat hs document) (free_served studio document options s)

theorem result?_arrival (hs : s.Ready studio) (document : Document) :
    (s.run studio [.arrive document options, .advance moment]).result? s.nextId =
      some (s.answer studio document options) := by
  have hsame := hushed_arrival hcopies hformat hs document
  have hfinished : (s.run studio [.arrive document options, .advance moment]).finished =
      (s.served studio document options).finished :=
    (congrArg State.finished hsame :)
  rw [result?, hfinished]
  exact result?_served studio document options s

/-- A rendering is over when its call has arrived. -/
theorem render_eq (hs : s.Ready studio) (document : Document) :
    s.render studio document options none =
      (some (s.answer studio document options),
        s.run studio [.arrive document options, .advance moment]) := by
  have hresult : ((s.arrive studio document options).advance moment).result? s.nextId =
      some (s.answer studio document options) := result?_arrival hcopies hformat hs document
  have hover : ((s.arrive studio document options).advance moment).drive studio
      (fun later => (later.result? s.nextId).isNone) =
        s.run studio [.arrive document options, .advance moment] := by
    refine driveWhile_of_stopped ?_ studio none _
    rw [hresult]
    rfl
  have hanswered := result?_arrival hcopies hformat hs document
  simp only [render, hover, hanswered]

/-- What documents that arrive one after the other amount to. -/
theorem hushed_arrivals (hs : s.Ready studio) (documents : List Document) :
    (s.run studio (arrivals options documents)).hushed =
      (unspaced documents).foldl (turn studio options) s.hushed := by
  induction documents generalizing s with
  | nil => rfl
  | cons document rest ih =>
      have hrest := ih (hs.arrival hcopies hformat document)
      rw [hushed_arrival hcopies hformat hs, hushed_turn] at hrest
      exact hrest

/-! ## One after another -/

theorem hushed_renderSpaced (hs : s.Ready studio) (spaced : List (Nat × Document)) :
    (s.renderSpaced studio options spaced).2.hushed =
      spaced.foldl (turn studio options) s.hushed := by
  induction spaced generalizing s with
  | nil => rfl
  | cons next rest ih =>
      obtain ⟨pause, document⟩ := next
      have hpaused := hs.advance pause
      have hrest := ih (hpaused.arrival hcopies hformat document)
      rw [hushed_arrival hcopies hformat hpaused] at hrest
      simp only [renderSpaced, render_eq hcopies hformat hpaused]
      rw [hrest, List.foldl_cons, ← hushed_turn]
      rfl

theorem ready_renderSpaced (hs : s.Ready studio) (spaced : List (Nat × Document)) :
    (s.renderSpaced studio options spaced).2.Ready studio := by
  induction spaced generalizing s with
  | nil => exact hs
  | cons next rest ih =>
      obtain ⟨pause, document⟩ := next
      have hpaused := hs.advance pause
      simp only [renderSpaced, render_eq hcopies hformat hpaused]
      exact ih (hpaused.arrival hcopies hformat document)

/-- Renderings one after another return the results of calls that are numbered in order. -/
theorem results_renderSpaced (hs : s.Ready studio) (spaced : List (Nat × Document)) :
    (s.renderSpaced studio options spaced).1 =
      (List.range' s.nextId spaced.length).map
        (s.renderSpaced studio options spaced).2.result? := by
  induction spaced generalizing s with
  | nil => rfl
  | cons next rest ih =>
      obtain ⟨pause, document⟩ := next
      have hpaused := hs.advance pause
      let later := (s.advance pause).run studio [.arrive document options, .advance moment]
      have hlater : later.Ready studio := hpaused.arrival hcopies hformat document
      have hfirst : later.result? s.nextId =
          some ((s.advance pause).answer studio document options) :=
        result?_arrival hcopies hformat hpaused document
      have hnext : later.nextId = s.nextId + 1 := nextId_arrive studio _ document options
      obtain ⟨events, hevents⟩ := reaches_renderSpaced studio options rest later
      have hkept := (run_moves hlater.sound.numbered studio events).result? hlater.sound.numbered
        hfirst
      rw [← hevents] at hkept
      have hrest := ih hlater
      rw [hnext] at hrest
      simp only [renderSpaced, render_eq hcopies hformat hpaused]
      rw [List.length_cons, List.range'_succ, List.map_cons]
      exact congrArg₂ List.cons hkept.symm hrest

theorem renderSpaced_append (hs : s.Ready studio) (spaced more : List (Nat × Document)) :
    (s.renderSpaced studio options (spaced ++ more)).1 =
      (s.renderSpaced studio options spaced).1 ++
        ((s.renderSpaced studio options spaced).2.renderSpaced studio options more).1 := by
  induction spaced generalizing s with
  | nil => rfl
  | cons next rest ih =>
      obtain ⟨pause, document⟩ := next
      have hpaused := hs.advance pause
      have hrest := ih (hpaused.arrival hcopies hformat document)
      simp only [List.cons_append, renderSpaced, render_eq hcopies hformat hpaused, hrest]

/-- The answer for a document is the one given by the press that the documents before it
leave. -/
theorem getElem?_renderSpaced (hs : s.Ready studio) {place : Nat}
    (hdocument : documents[place]? = some document) :
    (s.renderSpaced studio options (unspaced documents)).1[place]? =
      some (some ((s.renderSpaced studio options (unspaced (documents.take place))).2.answer studio
        document options)) := by
  obtain ⟨hless, rfl⟩ := List.getElem?_eq_some_iff.1 hdocument
  have hsplit : unspaced documents = unspaced (documents.take place) ++
      (0, documents[place]) :: unspaced (documents.drop (place + 1)) := by
    have hdrop := List.drop_eq_getElem_cons hless
    rw [unspaced, unspaced, unspaced, ← List.map_cons, ← hdrop, ← List.map_append,
      List.take_append_drop]
  have hmid := ready_renderSpaced hcopies hformat hs (unspaced (documents.take place))
  have hplace : (s.renderSpaced studio options (unspaced (documents.take place))).1.length =
      place := by
    rw [results_renderSpaced hcopies hformat hs, List.length_map, List.length_range', unspaced,
      List.length_map, List.length_take, Nat.min_eq_left (Nat.le_of_lt hless)]
  rw [hsplit, renderSpaced_append hcopies hformat hs,
    List.getElem?_append_right (Nat.le_of_eq hplace), hplace, Nat.sub_self]
  simp only [renderSpaced, render_eq hcopies hformat (hmid.advance 0)]
  rfl

/-- What is left of the entries of a ready press when a document has arrived. -/
theorem entries_arrival (hs : s.Ready studio) (document : Document) :
    (s.run studio [.arrive document options, .advance moment]).entries =
      (s.served studio document options).entries :=
  (congrArg State.entries (hushed_arrival hcopies hformat hs document) :)

/-- Renderings one after another lose no key. -/
theorem Carries.renderSpaced {key : String} (hs : s.Ready studio) (h : s.Carries key)
    (spaced : List (Nat × Document)) :
    (s.renderSpaced studio options spaced).2.Carries key := by
  induction spaced generalizing s with
  | nil => exact h
  | cons next rest ih =>
      obtain ⟨pause, document⟩ := next
      have hpaused := hs.advance pause
      have hwaiting : (s.advance pause).Carries key := h
      have hserved := hwaiting.served hpaused.sound.stocked studio document options
      rw [Carries, ← entries_arrival hcopies hformat hpaused] at hserved
      simp only [State.renderSpaced, render_eq hcopies hformat hpaused]
      exact ih (hpaused.arrival hcopies hformat document) hserved

/-- After renderings one after another the cache has an artifact for each of them. -/
theorem carries_renderSpaced (hs : s.Ready studio) (hvalid : options.validate = .ok ())
    (hcaching : s.cache.isSome = true) (hdocument : document ∈ spaced.map Prod.snd) :
    (s.renderSpaced studio options spaced).2.Carries (cacheKey document options) := by
  induction spaced generalizing s with
  | nil => cases hdocument
  | cons next rest ih =>
      obtain ⟨pause, first⟩ := next
      have hpaused := hs.advance pause
      have hlater := hpaused.arrival hcopies hformat first
      simp only [renderSpaced, render_eq hcopies hformat hpaused]
      rcases List.mem_cons.1 hdocument with rfl | hmore
      · obtain ⟨cache, hcache⟩ := Option.isSome_iff_exists.1 hcaching
        have hwaiting : (s.advance pause).cache = some cache := hcache
        have hcarried := carries_served hwaiting (hpaused.sound.stocked cache hcache) hvalid studio
          document
        rw [Carries, ← entries_arrival hcopies hformat hpaused] at hcarried
        exact Carries.renderSpaced hcopies hformat hlater hcarried rest
      · refine ih hlater ?_ hmore
        have hsame := (congrArg State.cache (hushed_arrival hcopies hformat hpaused first) :)
        have hkept : (s.run studio [.advance pause, .arrive first options, .advance moment]).cache =
            ((s.advance pause).served studio first options).cache := hsame
        have hwaiting : (s.advance pause).cache.isSome = true := hcaching
        exact (congrArg Option.isSome hkept).trans
          (isSome_cache_served hwaiting studio first options)

/-! ## In groups -/

/-- A group is over when its documents have arrived. -/
theorem ended_arrivals (hs : s.Ready studio) (documents : List Document) :
    ((callsFrom s.nextId documents).any fun c =>
      (s.run studio (arrivals options documents)).isOpen c.1) = false := by
  have harrivals : IsRunFor options documents (arrivals options documents) :=
    ⟨isBatchwork_arrivals options documents, request?_arrivals options documents⟩
  have hjobs : (s.run studio (arrivals options documents)).jobs = s.jobs := by
    have hsame := congrArg State.jobs (hushed_arrivals hcopies hformat hs documents)
    rw [jobs_foldl_turn] at hsame
    exact hsame
  refine List.any_eq_false.2 fun call hcall hopen => ?_
  obtain ⟨hid, -⟩ := List.of_mem_zip hcall
  obtain ⟨number, hnumber, hplace⟩ := List.mem_range'.1 hid
  have hpresent := harrivals.present hs.sound hnumber
  rw [hplace, Nat.one_mul] at hopen
  rcases hpresent with ⟨job, hjob, hmine⟩ | ⟨ended, hended, hmine⟩
  · have hless := hs.sound.numbered.jobs job (hjobs ▸ hjob)
    omega
  · have hresult : ((s.run studio (arrivals options documents)).result?
        (s.nextId + number)).isSome = true := by
      rw [result?, Option.isSome_map, List.find?_isSome]
      exact ⟨ended, hended, by simp [hmine]⟩
    rw [isOpen, Option.isNone_iff_eq_none] at hopen
    rw [hopen] at hresult
    cases hresult

theorem hushed_renderGroup (hs : s.Ready studio) (base : Nat) (documents : List Document) :
    (s.renderGroup studio options base documents).2.hushed =
      (unspaced documents).foldl (turn studio options) s.hushed := by
  have hover : (s.run studio (arrivals options documents)).drive studio
      (fun later => (callsFrom s.nextId documents).any fun c => later.isOpen c.1) =
        s.run studio (arrivals options documents) :=
    driveWhile_of_stopped (ended_arrivals hcopies hformat hs documents) studio none _
  simp only [renderGroup, beginAll_eq, hover]
  exact hushed_arrivals hcopies hformat hs documents

theorem ready_renderGroup (hs : s.Ready studio) (base : Nat) (documents : List Document) :
    (s.renderGroup studio options base documents).2.Ready studio := by
  have hsame := hushed_renderGroup hcopies hformat hs base documents
  rw [renderGroup_eq] at hsame ⊢
  exact hs.of_hushed (hsame.trans (hushed_foldl_turn studio options _ s).symm)
    (free_foldl_turn studio options _ s)

/-- Groups one after the other amount to all their documents one after another. -/
theorem hushed_renderGroups (hs : s.Ready studio) (base : Nat) (groups : List (List Document)) :
    (s.renderGroups studio options base groups).2.hushed =
      (unspaced groups.flatten).foldl (turn studio options) s.hushed := by
  induction groups generalizing s base with
  | nil => rfl
  | cons group rest ih =>
      have hrest := ih (ready_renderGroup hcopies hformat hs base group) (base + group.length)
      rw [hushed_renderGroup hcopies hformat hs] at hrest
      rw [List.flatten_cons, unspaced, List.map_append, List.foldl_append]
      simp only [renderGroups]
      exact hrest

/-- A batch leaves the press as rendering its documents one after another does, and its items
are the results of the same calls. -/
theorem renderBatch_eq_renderSpaced (hs : s.Steady studio) (hfree : 0 < s.governor.free)
    (documents : List Document) (batch : BatchOptions) (hbatch : batch.options = options) :
    (s.renderBatch studio documents batch).2.hushed =
        (s.renderSpaced studio options (unspaced documents)).2.hushed ∧
      (s.renderSpaced studio options (unspaced documents)).2.AreResults 0 s.nextId documents
        (s.renderBatch studio documents batch).1 := by
  subst hbatch
  have hready : s.Ready studio := ⟨hs.sound, hfree⟩
  have hbatched : (s.renderBatch studio documents batch).2.hushed =
      (s.renderSpaced studio batch.options (unspaced documents)).2.hushed := by
    rw [hushed_renderSpaced hcopies hformat hready, ← flatten_groupsOf (batch.concurrency - 1)
      documents, ← hushed_renderGroups hcopies hformat hready 0, flatten_groupsOf]
    rfl
  refine ⟨hbatched, ?_⟩
  have hroom : s.outsiders.length < s.governor.capacity := by
    have hfewer : s.outsiders.length ≤ s.governor.held.length := List.length_filter_le _ _
    have hslots := hs.sound.books.slots
    omega
  have hresults := areResults_renderBatch hs hroom documents batch
  obtain ⟨lines, hlast⟩ := renderBatch_eq_run studio documents batch s
  rw [hlast] at hbatched
  exact hresults.congr (congrArg State.finished hbatched :)

variable {items : List BatchItem} {item : BatchItem}

/-- Items that are the results of calls one after another are what these calls were answered. -/
theorem AreResults.outcomes_renderSpaced (hs : s.Ready studio)
    (hitems : (s.renderSpaced studio options (unspaced documents)).2.AreResults 0 s.nextId
      documents items) :
    items.map (fun item => some item.outcome) =
      (s.renderSpaced studio options (unspaced documents)).1 := by
  have hresults := results_renderSpaced hcopies hformat hs (unspaced documents)
  rw [unspaced, List.length_map] at hresults
  exact hitems.outcomes.trans hresults.symm

/-- The item of a document is answered as the document is once those in front of it are done. -/
theorem AreResults.outcome_eq_answer (hs : s.Ready studio)
    (hitems : (s.renderSpaced studio options (unspaced documents)).2.AreResults 0 s.nextId
      documents items)
    {place : Nat} (hdocument : documents[place]? = some document)
    (hitem : items[place]? = some item) :
    item.outcome = (s.renderSpaced studio options (unspaced (documents.take place))).2.answer
      studio document options := by
  have hplace := getElem?_renderSpaced hcopies hformat hs hdocument
  rw [← hitems.outcomes_renderSpaced hcopies hformat hs, List.getElem?_map, hitem] at hplace
  exact Option.some.inj (Option.some.inj hplace)

end Markup

end State

end CanvasPress.Press

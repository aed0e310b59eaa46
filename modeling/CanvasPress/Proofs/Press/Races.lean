/-
# Calls for the same request

A call looks its artifact up before it works and stores it when its work is done, and other
calls work in between.  So calls for one request that look it up before the first of them has
stored an artifact make one each, every one at its own time of day.  They are the only ones
that do: whoever comes later is served what is in the cache, as long as that is fresh and
nothing is cleared.  Whatever is returned for the request has been made by one of the early
calls, so all of it is the same if they have made the same.
-/

import CanvasPress.Proofs.Press.Faults
import CanvasPress.Proofs.Press.Provenance

namespace CanvasPress

/-- The time of day goes into markup in whole seconds. -/
theorem Document.compose_congr_time {time time' : Timestamp} (h : time.wholeText = time'.wholeText)
    (document : Document) (template : String) (options : RenderOptions) :
    document.compose template options time = document.compose template options time' := by
  have hmetadata : document.metadataMarkup options time =
      document.metadataMarkup options time' := by
    unfold metadataMarkup
    rw [h]
  have hlayout : document.layoutValues options time = document.layoutValues options time' := by
    unfold layoutValues
    rw [h, hmetadata]
  unfold compose values
  rw [hlayout]

/-- What was stored under a key is remembered, or something newer, unless it was cleared. -/
theorem Cache.exists_latest?_of_mem {α : Type} {history : List (Mark α)} {entry : Entry α}
    (hkept : .cleared ∉ history) (hentry : .stored entry ∈ history) :
    ∃ newest, latest? entry.key history = some newest := by
  induction history using List.reverseRecOn with
  | nil => exact absurd hentry List.not_mem_nil
  | append_singleton history mark ih =>
      rw [latest?_append_singleton]
      rw [List.mem_append, List.mem_singleton] at hkept hentry
      cases mark with
      | cleared => exact absurd (.inr rfl) hkept
      | stored other =>
          by_cases hkey : other.key = entry.key
          · exact ⟨other, if_pos hkey⟩
          · have hbefore : .stored entry ∈ history := by
              refine hentry.resolve_right fun hsame => hkey ?_
              rw [Mark.stored.inj hsame]
            obtain ⟨newest, hnewest⟩ := ih (fun hcleared => hkept (.inl hcleared)) hbefore
            exact ⟨newest, by rw [remember, if_neg hkey, hnewest]⟩

namespace Press

variable {studio : Studio} {s s' start : State} {job : Job} {document : Document}
  {options : RenderOptions} {history : List Mark} {call : Finished} {made made' : Rendering}

/-! ## The same markup -/

/-- Conversions of the same markup for the same options have the same content.  Pages are an
exception: the browser must print alike, and the engine may have failed for one of them only. -/
theorem Studio.Produces.body_eq {svg : String} {conversion conversion' : Conversion}
    (h : studio.Produces svg options conversion) (h' : studio.Produces svg options conversion')
    (hpages : options.format = .paginated →
      studio.browser.PrintsAlike ∧ conversion.fallback = conversion'.fallback) :
    conversion.body = conversion'.body := by
  cases h with
  | markup hformat =>
      cases h' with
      | markup => rfl
      | picture hother => cases hformat.symm.trans hother
      | pages hother => cases hformat.symm.trans hother
      | standIn hother => cases hformat.symm.trans hother
  | picture hformat hpicture =>
      cases h' with
      | picture _ hpicture' => rw [Except.ok.inj (hpicture.symm.trans hpicture')]
      | markup hother => cases hformat.symm.trans hother
      | pages hother => cases hformat.symm.trans hother
      | standIn hother => cases hformat.symm.trans hother
  | pages hformat hreturned =>
      obtain ⟨halike, hfallback⟩ := hpages hformat
      cases h' with
      | pages _ hreturned' =>
          rw [halike] at hreturned hreturned'
          rw [Ending.returned.inj (hreturned.symm.trans hreturned')]
      | standIn => cases hfallback
      | markup hother => cases hformat.symm.trans hother
      | picture hother => cases hformat.symm.trans hother
  | standIn hformat =>
      obtain ⟨-, hfallback⟩ := hpages hformat
      cases h' with
      | standIn => rfl
      | pages => cases hfallback
      | markup hother => cases hformat.symm.trans hother
      | picture hother => cases hformat.symm.trans hother

/-- Two artifacts for the same options were made alike: in the same second, as documents write
it, and with pages or with what stands in for them in both, if pages were asked for. -/
structure MadeAlike (options : RenderOptions) (made made' : Rendering) : Prop where
  second : made.metadata.generatedAt.wholeText = made'.metadata.generatedAt.wholeText
  pages : options.format = .paginated → made.metadata.fallback = made'.metadata.fallback

/-- Artifacts that were made alike for the same request have the same content. -/
theorem MadeAlike.body_eq (halike : MadeAlike options made made')
    (hmade : IsMadeFor studio document options made)
    (hmade' : IsMadeFor studio document options made')
    (hprints : options.format = .paginated → studio.browser.PrintsAlike) :
    made.body = made'.body := by
  obtain ⟨conversion, htells⟩ := hmade
  obtain ⟨conversion', htells'⟩ := hmade'
  have hproduced := htells.produced
  rw [Studio.svg, Document.compose_congr_time halike.second] at hproduced
  rw [htells.body, htells'.body]
  refine hproduced.body_eq htells'.produced fun hformat => ⟨hprints hformat, ?_⟩
  rw [← htells.metadata.fallback, ← htells'.metadata.fallback]
  exact halike.pages hformat

/-! ## Records -/

/-- A call that has ended was one for a document with options. -/
structure State.Ended (s : State) (document : Document) (options : RenderOptions)
    (call : Finished) : Prop where
  mem : call ∈ s.finished
  document : call.document = document
  options : call.options = options

theorem State.Ended.key (h : s.Ended document options call) :
    cacheKey call.document call.options = cacheKey document options := by
  rw [h.document, h.options]

/-- A call that ends in a move ends now. -/
theorem Move.time_of_ended {marks : List Mark} (h : Move studio s marks s')
    (hcall : call ∈ marks.filterMap Mark.call?) : call.time = s.now := by
  cases h with
  | reject => cases List.mem_singleton.1 hcall; rfl
  | hit => cases List.mem_singleton.1 hcall; rfl
  | deliver => cases List.mem_singleton.1 hcall; rfl
  | fail => cases List.mem_singleton.1 hcall; rfl
  | expire => cases List.mem_singleton.1 hcall; rfl
  | _ => cases hcall

namespace State

/-- Nobody who ends in a run has ended before it. -/
theorem now_le_time (hs : s.Numbered) {events : List Event}
    (hcall : call ∈ (s.run studio events).finished) (hnew : call ∉ s.finished) :
    s.now ≤ call.time := by
  have hkept {mid last : State} {marks : List Mark} (hmove : Move studio mid marks last)
      (h : s.now ≤ mid.now ∧ ∀ call ∈ mid.finished, call ∉ s.finished → s.now ≤ call.time) :
      s.now ≤ last.now ∧ ∀ call ∈ last.finished, call ∉ s.finished → s.now ≤ call.time := by
    refine ⟨Nat.le_trans h.1 hmove.now_le, fun call hcall hnew => ?_⟩
    rw [hmove.finished] at hcall
    rcases List.mem_append.1 hcall with hended | hold
    · rw [hmove.time_of_ended (List.mem_reverse.1 hended)]
      exact h.1
    · exact h.2 call hold hnew
  have hall := (run_moves hs studio events).preserve hkept
    ⟨Nat.le_refl _, fun _ hold hnew => absurd hold hnew⟩
  exact hall.2 call hcall hnew

/-- Nothing is cleared in a run without an event that clears. -/
theorem not_mem_chronicle {events : List Event} (hkept : .clearCache ∉ events) :
    .cleared ∉ s.chronicle studio events := by
  induction events generalizing s with
  | nil => exact List.not_mem_nil
  | cons event rest ih =>
      rw [List.mem_cons, not_or] at hkept
      rw [chronicle, List.mem_append, not_or]
      refine ⟨?_, ih hkept.2⟩
      cases event with
      | clearCache => exact absurd rfl hkept.1
      | _ => simp [marks]

/-- Whoever has begun to work in a run has done so in one of its events. -/
theorem exists_begins_of_mem_begun {events : List Event} (hjob : job ∈ s.begun studio events) :
    ∃ before event later, events = before ++ event :: later ∧
      (s.run studio before).begins? event = some job := by
  induction events generalizing s with
  | nil => exact absurd hjob List.not_mem_nil
  | cons event rest ih =>
      rcases List.mem_append.1 hjob with hfirst | hrest
      · exact ⟨[], event, rest, rfl, Option.mem_toList.1 hfirst⟩
      · obtain ⟨before, next, later, rfl, hbegins⟩ := ih hrest
        exact ⟨event :: before, next, later, rfl, hbegins⟩

/-- A call that begins is not on record. -/
theorem ne_of_begins (studio : Studio) (hnumbered : s.Numbered) {event : Event}
    (hbegins : s.begins? event = some job) (hcall : call ∈ s.finished) : call.id ≠ job.id := by
  obtain ⟨mid, hmoves, -, -, -, hfinished, hknows, -⟩ :=
    step_of_begins studio hnumbered.jobs hbegins
  have hmid : mid.Numbered := hmoves.preserve Move.numbered hnumbered
  exact hmid.not_mem_finished hknows (hfinished ▸ hcall)

/-- The result of a call that has ended is its outcome. -/
theorem result?_of_mem (hdistinct : (s.finished.map Finished.id).Nodup)
    (hcall : call ∈ s.finished) : s.result? call.id = some call.outcome := by
  have hfound : s.finished.find? (fun other => other.id == call.id) = some call :=
    find?_of_unique hcall (beq_self_eq_true _) fun other hother hid =>
      List.inj_on_of_nodup_map hdistinct hother hcall (beq_iff_eq.1 hid)
  rw [result?, hfound, Option.map_some]

end State

/-! ## What is found -/

/-- A lookup finds what a call has stored under the key, if nothing was cleared and all that was
stored under the key is fresh. -/
theorem exists_hit_of_stores {cache : Cache Rendering} {now : Nat}
    (hmirrors : cache.Mirrors now (history.filterMap Mark.cacheMark?))
    (hkept : .cleared ∉ history) (hcall : .finished call ∈ history) (hstores : call.Stores made)
    (hfresh : ∀ other newer, .finished other ∈ history → other.Stores newer →
      cacheKey other.document other.options = cacheKey call.document call.options →
        now ≤ other.time + cache.expiry) :
    ∃ rendering, (cache.get now (cacheKey call.document call.options)).1 = .hit rendering := by
  have hstored : .stored ⟨cacheKey call.document call.options, made, call.time⟩ ∈
      history.filterMap Mark.cacheMark? :=
    List.mem_filterMap.2 ⟨_, hcall, Mark.cacheMark?_eq_stored_iff.2
      ⟨call, rfl, Finished.entry?_eq_some_iff.2 ⟨made, hstores, rfl⟩⟩⟩
  have huncleared : .cleared ∉ history.filterMap Mark.cacheMark? := fun hcleared => by
    obtain ⟨mark, hmark, hclears⟩ := List.mem_filterMap.1 hcleared
    exact hkept (Mark.cacheMark?_eq_cleared_iff.1 hclears ▸ hmark)
  obtain ⟨newest, hnewest⟩ := Cache.exists_latest?_of_mem huncleared hstored
  rcases hmirrors.get_cases (isSome_shortKey?_cacheKey call.document call.options) with
    ⟨entry, -, -, hget⟩ | ⟨hstale, -⟩
  · exact ⟨entry.value, by rw [hget]⟩
  · obtain ⟨before, mark, later, rfl, hmark, hkey, -⟩ :=
      Cache.latest?_filterMap_eq_some_iff.1 hnewest
    obtain ⟨other, rfl, hentry⟩ := Mark.cacheMark?_eq_stored_iff.1 hmark
    obtain ⟨newer, hnewer, rfl⟩ := Finished.entry?_eq_some_iff.1 hentry
    have hold := hstale _ hnewest
    have hyoung := hfresh other newer (List.mem_append_right _ List.mem_cons_self) hnewer hkey
    simp [Cache.isFresh] at hold
    omega

/-! ## Early calls -/

namespace State

/-- In a run, the call with a number begins to work for a request before any artifact has been
stored for it. -/
def IsEarly (studio : Studio) (start : State) (events : List Event) (document : Document)
    (options : RenderOptions) (id : Nat) : Prop :=
  ∃ before event later job, events = before ++ event :: later ∧
    (start.run studio before).begins? event = some job ∧
    (job.id = id ∧ job.document = document ∧ job.options = options) ∧
    ∀ call made, (start.run studio before).Ended document options call → ¬ call.Stores made

/-- What calls for a request return, they return within a time of every artifact that has been
stored for it, so of the first one. -/
def EndsWithin (s : State) (time : Nat) (document : Document) (options : RenderOptions) : Prop :=
  ∀ maker made, s.Ended document options maker → maker.Stores made →
    ∀ call rendering, s.Ended document options call → call.outcome = .ok rendering →
      call.time ≤ maker.time + time

/-- The calls that have ended are those of the chronicle, if none had ended before. -/
theorem mem_chronicle_iff (hs : start.Numbered) (hnobody : start.finished = [])
    {events : List Event} : .finished call ∈ start.chronicle studio events ↔
      call ∈ (start.run studio events).finished := by
  rw [(run_moves hs studio events).finished, hnobody, List.append_nil, List.mem_reverse,
    List.mem_filterMap]
  constructor
  · exact fun hcall => ⟨.finished call, hcall, rfl⟩
  · rintro ⟨mark, hmark, hcalled⟩
    cases mark with
    | finished other =>
        cases hcalled
        exact hmark
    | cleared => cases hcalled

end State

section Opened

variable {settings : Settings} {around : Surroundings} {events : List Event}
  (hopen : openWith settings around = .ok (studio, start))
  (hcaching : settings.enableCaching = true) (hkept : .clearCache ∉ events)
include hopen hcaching hkept

/-- The cache of an opened press has an artifact for a request, if one was stored and nothing
has been cleared, as long as all that is under its key is fresh. -/
theorem exists_hit_of_ended (hended : call ∈ (start.run studio events).finished)
    (hstores : call.Stores made)
    (hfresh : ∀ other newer, other ∈ (start.run studio events).finished → other.Stores newer →
      cacheKey other.document other.options = cacheKey call.document call.options →
        (start.run studio events).now ≤ other.time + millis settings.cacheExpiryMs) :
    ∃ cache rendering, (start.run studio events).cache = some cache ∧
      (cache.get (start.run studio events).now (cacheKey call.document call.options)).1 =
        .hit rendering := by
  obtain ⟨-, hnobody⟩ := State.slotted_of_openWith hopen
  obtain ⟨-, governor, rfl⟩ := fresh_of_openWith hopen
  have hnumbered := State.numbered_fresh settings governor
  obtain ⟨cache, hcache, hexpiry, hmirrors⟩ := (State.mirrored_fresh hcaching governor).run
    hnumbered (State.fitting_fresh settings governor) studio events
  have hmem {other : Finished} := @State.mem_chronicle_iff studio _ other hnumbered hnobody events
  obtain ⟨rendering, hhit⟩ := exists_hit_of_stores hmirrors (State.not_mem_chronicle hkept)
    (hmem.2 hended) hstores fun other newer hother hnewer hkey => by
      rw [hexpiry]
      exact hfresh other newer (hmem.1 hother) hnewer hkey
  exact ⟨cache, rendering, hcache, hhit⟩

/-- Whoever makes an artifact for a request in time was early; anybody else would have been
served. -/
theorem isEarly_of_stores
    (hunshared : ∀ call ∈ (start.run studio events).finished,
      cacheKey call.document call.options = cacheKey document options →
        (start.run studio events).Ended document options call)
    (hwithin : (start.run studio events).EndsWithin (millis settings.cacheExpiryMs) document
      options)
    (hended : (start.run studio events).Ended document options call)
    (hstores : call.Stores made) : start.IsEarly studio events document options call.id := by
  obtain ⟨hslotted, hnobody⟩ := State.slotted_of_openWith hopen
  have hsound := State.sound_of_openWith hopen
  -- The call has returned, so it has begun to work in some event.
  have hserved : call.isRefused = false := by simp [Finished.isRefused, hstores.1]
  have hbegun := ((hslotted.run hsound events).ended call hended.mem).1 hserved
  obtain ⟨job, hjob, hid⟩ := List.mem_map.1 hbegun
  obtain ⟨before, event, later, rfl, hbegins⟩ := State.exists_begins_of_mem_begun hjob
  have hmid : (start.run studio before).Numbered := hsound.numbered.run studio before
  have hmine := State.concerning_of_begins studio hmid hbegins later
  have hdistinct := State.distinct_run hsound.numbered (by rw [hnobody]; exact List.nodup_nil)
    studio (before ++ event :: later)
  have hresult := State.result?_of_mem hdistinct hended.mem
  have hmore : (start.run studio before).finished ⊆
      (start.run studio (before ++ event :: later)).finished := by
    rw [State.run_append, (State.run_moves hmid studio (event :: later)).finished]
    exact List.subset_append_right _ _
  have hlast := hended.mem
  rw [State.run_append] at hlast hresult
  obtain ⟨hdocument, hoptions⟩ := hmine.calls call hlast hid.symm
  have hlate : (start.run studio before).now ≤ call.time :=
    State.now_le_time hmid hlast fun hold => State.ne_of_begins studio hmid hbegins hold hid.symm
  refine ⟨before, event, later, job, rfl, hbegins,
    ⟨hid, hdocument.symm.trans hended.document, hoptions.symm.trans hended.options⟩,
    fun other older hother hstored => ?_⟩
  -- If something had been stored by then, it would be fresh, and the call would be a hit.
  obtain ⟨cache, rendering, hcache, hhit⟩ := exists_hit_of_ended hopen hcaching
    (fun hclear => hkept (List.mem_append_left _ hclear)) hother.mem hstored
    fun newer newest hnewer hnewest hkey => by
      have hsame := hunshared newer (hmore hnewer) (hkey.trans hother.key)
      exact Nat.le_trans hlate (hwithin newer newest hsame hnewest call made hended hstores.1)
  rw [hother.key, ← hended.key, hdocument, hoptions] at hhit
  rw [← hid, result?_of_hit studio hmid hbegins hcache hhit later] at hresult
  obtain ⟨hreturned, hfresh⟩ := hstores
  rw [← Option.some.inj hresult] at hreturned
  cases hreturned
  cases hfresh

end Opened

/-! ## The theorem -/

/-- Calls for the same request agree up to the second, for every run of an opened press with
caching in which nothing is cleared: calls that arrive, wait, work and leave in any order, alone
or in batches, whatever becomes of the engine.  This supposes that the digest tells the request
from those of the calls that have ended, and that what is returned for it is returned within the
lifetime of entries from the first time on that something was stored for it.

* Only calls that looked the request up before anything was stored for it make an artifact.
* Whatever a call returns for the request has the content of an artifact that one of them made.
* If the artifacts that they made were made alike, and pages are printed alike if pages were asked
  for, then all that is returned has the same content.  It is also that of all entries for the
  request; and the cache has one that is served, as long as no longer than the lifetime of entries
  has passed since the first of them was stored. -/
theorem identical_calls_agree {settings : Settings} {around : Surroundings}
    (hopen : openWith settings around = .ok (studio, start))
    (hcaching : settings.enableCaching = true) {events : List Event}
    (hkept : .clearCache ∉ events) (document : Document) (options : RenderOptions) :
    let s := start.run studio events
    let lifetime := millis settings.cacheExpiryMs
    let early := start.IsEarly studio events document options
    let makes (call : Finished) (made : Rendering) : Prop :=
      s.Ended document options call ∧ call.Stores made
    let returns (call : Finished) (rendering : Rendering) : Prop :=
      s.Ended document options call ∧ call.outcome = .ok rendering
    Separates Digest.sha256Hex (keyMaterial document options :: s.finished.map Finished.material) →
      s.EndsWithin lifetime document options →
        (∀ maker made, makes maker made → early maker.id) ∧
        (∀ call rendering, returns call rendering →
          ∃ maker made, makes maker made ∧ rendering.body = made.body) ∧
        ((options.format = .paginated → studio.browser.PrintsAlike) →
          (∀ maker made, makes maker made → early maker.id → ∀ other made', makes other made' →
            early other.id → MadeAlike options made made') →
          ∀ call rendering, returns call rendering →
            (∀ other rendering', returns other rendering' → rendering'.body = rendering.body) ∧
            (∀ entry ∈ s.entries, entry.key = cacheKey document options →
              entry.value.body = rendering.body) ∧
            ((∀ maker made, makes maker made → s.now ≤ maker.time + lifetime) →
              ∃ cache stored, s.cache = some cache ∧
                (cache.get s.now (cacheKey document options)).1 = .hit stored ∧
                stored.body = rendering.body)) := by
  intro s lifetime early makes returns hseparates hwithin
  have hunshared : ∀ call ∈ s.finished, cacheKey call.document call.options =
      cacheKey document options → s.Ended document options call := fun call hcall hkey => by
    have hmaterial := hseparates call.material
      (List.mem_cons_of_mem _ (List.mem_map_of_mem hcall)) _ List.mem_cons_self hkey
    obtain ⟨hdocument, hoptions⟩ := keyMaterial_inj hmaterial
    exact ⟨hcall, hdocument, hoptions⟩
  obtain ⟨htruthful, hbacked⟩ := provenance_run hopen events
  have hearly (maker : Finished) (made : Rendering) (h : makes maker made) : early maker.id :=
    isEarly_of_stores hopen hcaching hkept hunshared hwithin h.1 h.2
  have hmade (maker : Finished) (made : Rendering) (h : makes maker made) :
      IsMadeFor studio document options made := by
    have htells := htruthful.calls maker h.1.mem made h.2
    rwa [h.1.document, h.1.options] at htells
  have hstored {stored : Rendering} (h : s.Stored (cacheKey document options) stored) :
      ∃ maker, makes maker stored := by
    obtain ⟨maker, hmaker, hstores, hkey⟩ := h
    exact ⟨maker, hunshared maker hmaker hkey, hstores⟩
  have hreturned (call : Finished) (rendering : Rendering) (h : returns call rendering) :
      ∃ maker made, makes maker made ∧ rendering.body = made.body := by
    cases hhit : rendering.metadata.cacheHit with
    | false => exact ⟨call, rendering, ⟨h.1, h.2, hhit⟩, rfl⟩
    | true =>
        obtain ⟨stored, hbehind, rfl⟩ := hbacked.calls call h.1.mem rendering h.2 hhit
        rw [h.1.key] at hbehind
        obtain ⟨maker, hmakes⟩ := hstored hbehind
        exact ⟨maker, stored, hmakes, rfl⟩
  refine ⟨hearly, hreturned, fun hprints halike call rendering hcall => ?_⟩
  obtain ⟨maker, made, hmakes, hbody⟩ := hreturned call rendering hcall
  have hsame (other : Finished) (made' : Rendering) (h : makes other made') :
      made'.body = rendering.body := by
    rw [hbody]
    exact (halike other made' h (hearly other made' h) maker made hmakes
      (hearly maker made hmakes)).body_eq (hmade other made' h) (hmade maker made hmakes) hprints
  have hentry (entry : Entry Rendering) (hmem : entry ∈ s.entries)
      (hkey : entry.key = cacheKey document options) : entry.value.body = rendering.body := by
    obtain ⟨other, hother⟩ := hstored (hkey ▸ hbacked.entries entry hmem)
    exact hsame other entry.value hother
  refine ⟨fun other rendering' h => ?_, hentry, fun hfresh => ?_⟩
  · obtain ⟨another, made', hmakes', hbody'⟩ := hreturned other rendering' h
    rw [hbody']
    exact hsame another made' hmakes'
  · obtain ⟨cache, stored, hcache, hhit⟩ := exists_hit_of_ended hopen hcaching hkept hmakes.1.mem
      hmakes.2 fun other newer hother hnewer hkey =>
        hfresh other newer ⟨hunshared other hother (hkey.trans hmakes.1.key), hnewer⟩
    rw [hmakes.1.key] at hhit
    obtain ⟨-, entry, hfound, -, rfl⟩ := Cache.entry?_of_hit hhit
    have hmem : entry ∈ s.entries := by
      rw [State.entries_eq hcache]
      exact List.mem_of_find?_eq_some hfound
    exact ⟨cache, entry.value, hcache, hhit,
      hentry entry hmem (by simpa using List.find?_some hfound)⟩

namespace State

theorem ended_of_requests {count : Nat}
    (hrequests : s.finished.map (fun call => (call.document, call.options)) =
      List.replicate count (document, options)) (hcall : call ∈ s.finished) :
    s.Ended document options call := by
  have hmem := List.mem_map_of_mem (f := fun call => (call.document, call.options)) hcall
  rw [hrequests] at hmem
  obtain ⟨hdocument, hoptions⟩ := Prod.mk.inj (List.eq_of_mem_replicate hmem)
  exact ⟨hcall, hdocument, hoptions⟩

theorem endsWithin_of_times {count time : Nat}
    (htimes : s.finished.map Finished.time = List.replicate count time) (lifetime : Nat) :
    s.EndsWithin lifetime document options := by
  have htime {call : Finished} (hcall : call ∈ s.finished) : call.time = time :=
    List.eq_of_mem_replicate (htimes ▸ List.mem_map_of_mem hcall)
  intro maker made hmaker _ call rendering hcall _
  rw [htime hmaker.mem, htime hcall.mem]
  exact Nat.le_add_right _ _

/-- What was made at some point of a call that has returned is told by its record. -/
theorem exists_of_told {β : Type} {tell : Rendering → β} (told : β)
    (h : some told ∈ s.finished.map fun call => call.outcome.toOption.map tell) :
    ∃ call made, call ∈ s.finished ∧ call.outcome = .ok made ∧ tell made = told := by
  obtain ⟨call, hcall, htold⟩ := List.mem_map.1 h
  cases houtcome : call.outcome with
  | error fault =>
      rw [houtcome] at htold
      cases htold
  | ok made =>
      rw [houtcome] at htold
      exact ⟨call, made, hcall, houtcome, Option.some.inj htold⟩

end State

/-- Two calls overlap: both look the request up, and after that both store what they have made.
They return the same, and this is served from then on. -/
theorem identical_calls_agree_of_two :
    let document := Document.ofKind .businessModel
    let options := { RenderOptions.ofSettings {} with format := .vector }
    let settings : Settings := { outputPath := some "prints" }
    let around : Surroundings := ⟨.obliging, .missing, none, ⟨0, 0⟩⟩
    let events := [.arrive document options, .arrive document options, .proceed 1, .proceed 0]
    ∃ (studio : Studio) (start : State), openWith settings around = .ok (studio, start) ∧
      settings.enableCaching = true ∧ .clearCache ∉ events ∧
      let s := start.run studio events
      Separates Digest.sha256Hex
          (keyMaterial document options :: s.finished.map Finished.material) ∧
        s.EndsWithin (millis settings.cacheExpiryMs) document options ∧
        ∃ first second, s.result? 0 = some (.ok first) ∧ s.result? 1 = some (.ok second) ∧
          first.metadata.cacheHit = false ∧ second.metadata.cacheHit = false ∧
          second.body = first.body ∧
          ∃ cache stored, s.cache = some cache ∧
            (cache.get s.now (cacheKey document options)).1 = .hit stored ∧
            stored.body = first.body := by
  intro document options settings around events
  obtain ⟨studio, start, hopen, s, hs, hnow, hrequests, htimes, hdates, first, second, hfirst,
      hsecond, hfresh, hfresh'⟩ :
      ∃ (studio : Studio) (start : State), openWith settings around = .ok (studio, start) ∧
        ∃ s, start.run studio events = s ∧ s.now = 0 ∧
          s.finished.map (fun call => (call.document, call.options)) =
            List.replicate 2 (document, options) ∧
          s.finished.map Finished.time = List.replicate 2 0 ∧
          s.finished.map (fun call => call.outcome.toOption.map fun made =>
            made.metadata.generatedAt) = List.replicate 2 (some ⟨0, 0⟩) ∧
          ∃ first second, s.result? 0 = some (.ok first) ∧ s.result? 1 = some (.ok second) ∧
            first.metadata.cacheHit = false ∧ second.metadata.cacheHit = false := by
    refine ⟨_, _, rfl, _, rfl, rfl, rfl, rfl, ?_, _, _, rfl, rfl, rfl, rfl⟩
    decide +kernel
  have hended {call : Finished} (hcall : call ∈ s.finished) : s.Ended document options call :=
    State.ended_of_requests hrequests hcall
  have hdate {call : Finished} {made : Rendering} (hcall : call ∈ s.finished)
      (houtcome : call.outcome = .ok made) : made.metadata.generatedAt = ⟨0, 0⟩ := by
    have hmem := List.mem_map_of_mem (f := fun call => call.outcome.toOption.map fun made =>
      made.metadata.generatedAt) hcall
    rw [hdates] at hmem
    have htold := List.eq_of_mem_replicate hmem
    rw [houtcome] at htold
    exact Option.some.inj htold
  have hseparates : Separates Digest.sha256Hex
      (keyMaterial document options :: s.finished.map Finished.material) := by
    have hone : ∀ text ∈ keyMaterial document options :: s.finished.map Finished.material,
        text = keyMaterial document options := by
      refine List.forall_mem_cons.2 ⟨rfl, fun text htext => ?_⟩
      obtain ⟨call, hcall, rfl⟩ := List.mem_map.1 htext
      rw [Finished.material, (hended hcall).document, (hended hcall).options]
    intro text htext other hother _
    rw [hone text htext, hone other hother]
  have hwithin : s.EndsWithin (millis settings.cacheExpiryMs) document options :=
    State.endsWithin_of_times htimes _
  have hkept : Event.clearCache ∉ events := by simp [events]
  obtain ⟨call, hcall, -, houtcome⟩ := State.mem_finished_of_result? hfirst
  obtain ⟨call', hcall', -, houtcome'⟩ := State.mem_finished_of_result? hsecond
  obtain ⟨-, -, hagree⟩ := identical_calls_agree hopen rfl hkept document options (hs ▸ hseparates)
    (hs ▸ hwithin)
  rw [hs] at hagree
  obtain ⟨hsame, -, hserved⟩ := hagree (fun hpages => by cases hpages)
    (fun maker made hmakes _ other made' hmakes' _ => ⟨by
      rw [hdate hmakes.1.mem hmakes.2.1, hdate hmakes'.1.mem hmakes'.2.1],
      fun hpages => by cases hpages⟩) call first ⟨hended hcall, houtcome⟩
  refine ⟨studio, start, hopen, rfl, hkept, ?_⟩
  rw [hs]
  exact ⟨hseparates, hwithin, first, second, hfirst, hsecond, hfresh, hfresh',
    hsame call' second ⟨hended hcall', houtcome'⟩, hserved fun _ _ _ => hnow ▸ Nat.zero_le _⟩

/-- Calls for the same request that overlap may disagree: two calls for markup that begin in
different seconds, and two calls for pages between which the engine is disabled while the browser
prints for the first of them. -/
theorem not_all_identical_calls_agree :
    let document := Document.ofKind .businessModel
    let form := "<p>\x7b\x7bgeneratedAt\x7d\x7d</p>"
    let settings : Settings := { templatesPath := some "forms", outputPath := some "prints" }
    let browser : Browser :=
      { Browser.obliging with print := fun _ _ _ => ⟨0, .returned "%PDF".toUTF8⟩ }
    let around : Surroundings :=
      ⟨browser, .entries [("businessModel.svg", .bytes form.toUTF8.data.toList)], none, ⟨0, 0⟩⟩
    let disagree (options : RenderOptions) (events : List Event) : Prop :=
      ∃ (studio : Studio) (start : State), openWith settings around = .ok (studio, start) ∧
        settings.enableCaching = true ∧ .clearCache ∉ events ∧
        let s := start.run studio events
        s.jobs = [] ∧ s.EndsWithin (millis settings.cacheExpiryMs) document options ∧
          ∃ call made call' made', s.Ended document options call ∧ call.outcome = .ok made ∧
            s.Ended document options call' ∧ call'.outcome = .ok made' ∧
            made.body.bytes ≠ made'.body.bytes
    let markup := { RenderOptions.ofSettings {} with format := .vector }
    let pages := { RenderOptions.ofSettings {} with format := .paginated }
    disagree markup [.arrive document markup, .advance 1000000000, .arrive document markup,
        .proceed 0, .proceed 1] ∧
      disagree pages [.arrive document pages, .settle, .askEngine (.disable "worn out"), .settle,
        .arrive document pages, .endPrint 0, .proceed 2, .proceed 0] := by
  intro document form settings browser around disagree markup pages
  have hdisagree {options : RenderOptions} {events : List Event} (time : Nat) (text text' : String)
      (hkept : .clearCache ∉ events) (hne : text.toUTF8 ≠ text'.toUTF8)
      (h : ∃ (studio : Studio) (start : State), openWith settings around = .ok (studio, start) ∧
        ∃ s, start.run studio events = s ∧ s.jobs.isEmpty = true ∧
          s.finished.map (fun call => (call.document, call.options)) =
            List.replicate 2 (document, options) ∧
          s.finished.map Finished.time = List.replicate 2 time ∧
          s.finished.map (fun call => call.outcome.toOption.map fun made => made.body.bytes) =
            [some text.toUTF8, some text'.toUTF8]) : disagree options events := by
    obtain ⟨studio, start, hopen, s, rfl, hrest, hrequests, htimes, hbytes⟩ := h
    obtain ⟨call, made, hcall, houtcome, htold⟩ := State.exists_of_told text.toUTF8
      (hbytes ▸ List.mem_cons_self)
    obtain ⟨call', made', hcall', houtcome', htold'⟩ := State.exists_of_told
      text'.toUTF8 (hbytes ▸ List.mem_cons_of_mem _ List.mem_cons_self)
    exact ⟨studio, start, hopen, rfl, hkept, List.isEmpty_iff.1 hrest,
      State.endsWithin_of_times htimes _, call, made, call', made',
      State.ended_of_requests hrequests hcall, houtcome,
      State.ended_of_requests hrequests hcall', houtcome', by rwa [htold, htold']⟩
  constructor
  · refine hdisagree 1000000000 "<p>1970-01-01T00:00:01Z</p>" "<p>1970-01-01T00:00:00Z</p>"
      (by simp) (by decide) ⟨_, _, rfl, _, rfl, ?_⟩
    decide +kernel
  · refine hdisagree 0 "%PDF" "<p>1970-01-01T00:00:00Z</p>" (by simp) (by decide)
      ⟨_, _, rfl, _, rfl, ?_⟩
    decide +kernel

end Press

end CanvasPress

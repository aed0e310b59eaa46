/-
# Degradation

When no engine can be had, a call for a printed document is delivered its markup, and
the rendering says so.  Only a failed engine leads to such renderings, and failure is
final; so one that is kept in the cache and served from it does not hide an engine that
works, or could be launched.  Conversely a failed engine fails nobody who asks it for a
printed document: he is delivered the markup.  Only a call for which a print was under
way when the engine failed ends as that print does.
-/

import CanvasPress.Proofs.Press.Printing
import CanvasPress.Proofs.Press.Runs

namespace CanvasPress.Press

variable {studio : Studio} {s s' : State} {job known : Job} {marks : List Mark}
  {rendering : Rendering}

/-! ## What a press holds -/

/-- A press has returned a rendering or keeps it in its cache. -/
def State.Holds (s : State) (rendering : Rendering) : Prop :=
  (∃ call ∈ s.finished, call.outcome = .ok rendering) ∨
    ∃ cache, s.cache = some cache ∧ ∃ entry ∈ cache.entries, entry.value = rendering

/-- A rendering is made of what a call was converted into. -/
def State.Makes (studio : Studio) (s : State) (rendering : Rendering) : Prop :=
  ∃ job known work conversion filepath, s.Knows job known ∧
    s.Converts studio job known work (.ok conversion) ∧
      rendering = s.renderingOf job work conversion filepath

/-- When a rendering says that it stands in for a printed document, one was requested,
markup was delivered, and the engine has failed. -/
def Excuses (e : Engine) (rendering : Rendering) : Prop :=
  rendering.metadata.fallback = true →
    rendering.metadata.requestedFormat = .paginated ∧ rendering.metadata.format = .vector ∧
      rendering.format = .vector ∧ e.IsFailed

/-- A press holds nothing new after the end of a call but its result. -/
theorem State.Holds.of_finish {outcome : Except Fault Rendering}
    (h : (s.finish job outcome).Holds rendering) : outcome = .ok rendering ∨ s.Holds rendering := by
  rcases h with ⟨call, hcall, houtcome⟩ | ⟨cache, hcache, hentry⟩
  · rw [finished_finish] at hcall
    rcases List.mem_cons.1 hcall with rfl | hcall
    · exact .inl houtcome
    · exact .inr (.inl ⟨call, hcall, houtcome⟩)
  · rw [cache_finish] at hcache
    exact .inr (.inr ⟨cache, hcache, hentry⟩)

/-- A press holds nothing new if only its cache has changed and that has lost entries. -/
theorem State.Holds.of_cache (h : s'.Holds rendering) (hfinished : s'.finished = s.finished)
    (hcache : ∀ cache', s'.cache = some cache' →
      ∃ cache, s.cache = some cache ∧ cache'.entries ⊆ cache.entries) : s.Holds rendering := by
  rcases h with hreturned | ⟨cache', hcache', entry, hentry, hvalue⟩
  · exact .inl (hfinished ▸ hreturned)
  · obtain ⟨cache, hsome, hsub⟩ := hcache cache' hcache'
    exact .inr ⟨cache, hsome, entry, hsub hentry, hvalue⟩

/-- After a move a press holds what it held, what it held marked as a hit, or what it has
made of a conversion. -/
theorem Move.holds (h : Move studio s marks s') (hholds : s'.Holds rendering) :
    s.Holds rendering ∨ (∃ stored, s.Holds stored ∧ rendering = stored.asHit) ∨
      s.Makes studio rendering := by
  cases h with
  | reject document options fault =>
      rcases hholds with ⟨call, hcall, houtcome⟩ | hcached
      · rcases List.mem_cons.1 hcall with rfl | hcall
        · cases houtcome
        · exact .inl (.inl ⟨call, hcall, houtcome⟩)
      · exact .inl (.inr hcached)
  | lookUp document options hcache =>
      refine .inl (hholds.of_cache rfl fun cache' hcache' => ?_)
      cases hcache'
      exact ⟨_, hcache, Cache.entries_get_subset _ _ _⟩
  | hit hknows hphase hcache hhit =>
      rcases hholds.of_finish with hsame | hheld
      · cases hsame
        obtain ⟨entry, hentry, rfl⟩ := Cache.mem_entries_of_hit hhit
        exact .inr (.inl ⟨_, .inr ⟨_, hcache, entry, hentry, rfl⟩, rfl⟩)
      · exact .inl hheld
  | deliver filepath hknows hconverts =>
      have hmakes : s.Makes studio (s.renderingOf _ _ _ filepath) :=
        ⟨_, _, _, _, _, hknows, hconverts, rfl⟩
      rcases hholds.of_finish with hsame | hreturned | ⟨cache', hcache', entry, hentry, rfl⟩
      · cases hsame
        exact .inr (.inr hmakes)
      · exact .inl (.inl hreturned)
      · obtain ⟨cache, hcache, rfl⟩ := Option.map_eq_some_iff.1 hcache'
        rcases List.mem_cons.1 (Cache.entries_put_subset _ _ _ _ hentry) with rfl | hentry
        · exact .inr (.inr hmakes)
        · exact .inl (.inr ⟨cache, hcache, entry, hentry, rfl⟩)
  | fail hknows hconverts =>
      rcases hholds.of_finish with hsame | hheld
      · cases hsame
      · exact .inl hheld
  | expire ms hknows hphase =>
      rcases hholds.of_finish with hsame | hheld
      · cases hsame
      · exact .inl hheld
  | purge =>
      refine .inl (hholds.of_cache rfl fun cache' hcache' => ?_)
      obtain ⟨cache, hcache, rfl⟩ := Option.map_eq_some_iff.1 hcache'
      exact ⟨cache, hcache, Cache.entries_purge_subset _ _⟩
  | clear =>
      refine .inl (hholds.of_cache rfl fun cache' hcache' => ?_)
      obtain ⟨cache, hcache, rfl⟩ := Option.map_eq_some_iff.1 hcache'
      exact ⟨cache, hcache, Cache.entries_clear_subset _⟩
  | _ => exact .inl hholds

/-- A call that saves after a move saved before, or saves what it has just been converted
into. -/
theorem Move.saving (h : Move studio s marks s') {work : Work} {conversion : Conversion}
    {ends : Nat} (hjob : job ∈ s'.jobs) (hphase : job.phase = .saving work conversion ends) :
    job ∈ s.jobs ∨ ∃ saved known, s.Knows saved known ∧
      s.Converts studio saved known work (.ok conversion) := by
  have hclosed {id : Nat} (hjobs : s'.jobs = s.othersThan id) : job ∈ s.jobs := by
    rw [hjobs] at hjob
    exact (State.mem_othersThan.1 hjob).1
  cases h with
  | enter ticket document options =>
      rcases List.mem_append.1 hjob with hjob | hjob
      · exact .inl hjob
      · cases List.mem_singleton.1 hjob
        cases hphase
  | drop id => exact .inl (hclosed rfl)
  | rasterize ends hknows =>
      rcases State.mem_jobs_wait hjob with rfl | ⟨hmem, -⟩
      · cases hphase
      · exact .inl hmem
  | paginate hknows =>
      rcases State.mem_jobs_wait hjob with rfl | ⟨hmem, -⟩
      · cases hphase
      · exact .inl hmem
  | save ends hknows hconverts =>
      rcases State.mem_jobs_wait hjob with rfl | ⟨hmem, -⟩
      · cases hphase
        exact .inr ⟨_, _, hknows, hconverts⟩
      · exact .inl hmem
  | hit => exact .inl (hclosed (State.closes_hit _ _ _).jobs)
  | deliver => exact .inl (hclosed (State.closes_deliver _ _ _ _ _).jobs)
  | fail => exact .inl (hclosed (State.closes_finish _ _ _).jobs)
  | expire => exact .inl (hclosed (State.closes_finish _ _ _).jobs)
  | _ => exact .inl hjob

/-! ## Excuses -/

/-- Nothing stands in for a printed document without an excuse: neither what the press
holds, nor what calls are about to save. -/
structure State.Honest (s : State) : Prop where
  held : ∀ rendering, s.Holds rendering → Excuses s.engine rendering
  saved : ∀ job ∈ s.jobs, ∀ work conversion ends, job.phase = .saving work conversion ends →
    conversion.fallback = true → s.engine.IsFailed

namespace State

/-- Markup takes the place of a printed document only when the engine has failed. -/
theorem Honest.failed_of_converts {work : Work} {conversion : Conversion} (hs : s.Honest)
    (hfitting : s.Fitting) (hknows : s.Knows job known)
    (hconverts : s.Converts studio job known work (.ok conversion))
    (hfallback : conversion.fallback = true) : s.engine.IsFailed := by
  have hsuits := (hconverts.suits hfitting hknows).2
  rw [Conversion.Suits, if_pos hfallback] at hsuits
  generalize houtcome : (Except.ok conversion : Except Fault Conversion) = outcome at hconverts
  cases hconverts with
  | vector hphase hkey hformat =>
      cases houtcome
      cases hfallback
  | raster hphase =>
      have hfits := hknows.fits hfitting
      rw [hphase] at hfits
      cases hsuits.1.symm.trans hfits.2
  | fallback hphase hfailed => exact ⟨_, hfailed⟩
  | printed hphase hreply =>
      cases houtcome
      cases hfallback
  | misprinted hphase hreply => cases houtcome
  | kept hphase =>
      cases houtcome
      exact hs.saved known (mem_of_job? hknows.listed).1 _ _ _ hphase hfallback

theorem Honest.excuses_of_makes (hs : s.Honest) (hfitting : s.Fitting)
    (hmakes : s.Makes studio rendering) : Excuses s.engine rendering := by
  obtain ⟨job, known, work, conversion, filepath, hknows, hconverts, rfl⟩ := hmakes
  intro (hfallback : conversion.fallback = true)
  have hsuits := (hconverts.suits hfitting hknows).2
  rw [Conversion.Suits, if_pos hfallback] at hsuits
  exact ⟨hsuits.1, hsuits.2, hsuits.2, hs.failed_of_converts hfitting hknows hconverts hfallback⟩

end State

theorem Move.honest (h : Move studio s marks s') (hfitting : s.Fitting)
    (horderly : s.engine.Orderly) (hs : s.Honest) : s'.Honest where
  held rendering hholds := by
    have hexcused : Excuses s.engine rendering := by
      rcases h.holds hholds with hheld | ⟨stored, hheld, rfl⟩ | hmakes
      · exact hs.held rendering hheld
      · exact hs.held stored hheld
      · exact hs.excuses_of_makes hfitting hmakes
    intro hfallback
    obtain ⟨hrequested, hdelivered, hformat, hfailed⟩ := hexcused hfallback
    exact ⟨hrequested, hdelivered, hformat, (h.failed horderly hfailed).1⟩
  saved job hjob work conversion ends hphase hfallback := by
    have hfailed : s.engine.IsFailed := by
      rcases h.saving hjob hphase with hmem | ⟨saved, known, hknows, hconverts⟩
      · exact hs.saved job hmem work conversion ends hphase hfallback
      · exact hs.failed_of_converts hfitting hknows hconverts hfallback
    exact (h.failed horderly hfailed).1

theorem State.Honest.run (hs : s.Honest) (hnumbered : s.Numbered) (hfitting : s.Fitting)
    (horderly : s.engine.Orderly) (studio : Studio) (events : List Event) :
    (s.run studio events).engine.Orderly ∧ (s.run studio events).Honest := by
  have hkept {s s' : State} {marks : List Mark} (hmove : Move studio s marks s')
      (h : s.Fitting ∧ s.engine.Orderly ∧ s.Honest) :
      s'.Fitting ∧ s'.engine.Orderly ∧ s'.Honest := by
    obtain ⟨hfitting, horderly, hhonest⟩ := h
    exact ⟨hmove.fitting hfitting, hmove.orderly horderly, hmove.honest hfitting horderly hhonest⟩
  exact ((run_moves hnumbered studio events).preserve hkept ⟨hfitting, horderly, hs⟩).2

/-! ## Opened presses -/

end CanvasPress.Press

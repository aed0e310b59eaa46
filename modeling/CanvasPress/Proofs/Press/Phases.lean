/-
# Where calls stand

What a call waits for fits what it was asked for: raster work is done for calls that
want a picture, the engine is waited for by calls that want a printed document, and
what is being saved is what was asked for, or markup in place of a printed document.
The work of a call carries the key of its request.
-/

import CanvasPress.Proofs.Press.Chronicle

namespace CanvasPress

/-- A conversion delivers what was asked for; in place of a printed document it may
deliver markup and say so. -/
def Conversion.Suits (options : RenderOptions) (conversion : Conversion) : Prop :=
  if conversion.fallback then options.format = .paginated ∧ conversion.format = .vector
  else conversion.format = options.format

/-- A conversion into a raster picture delivers one, and says so. -/
theorem Conversion.exists_eq_of_raster {painter : Picture.Painter} {svg : String}
    {options : RenderOptions} {quality : Nat} {conversion : Conversion}
    (h : Conversion.raster painter svg options quality = .ok conversion) :
    ∃ image, conversion = ⟨.raster, Format.raster.mediaType options.encoding,
      Format.raster.extension options.encoding, .picture image, false⟩ := by
  unfold Conversion.raster at h
  cases hpicture : Picture.painted (painter.paint (orderOf svg options quality)) with
  | error fault =>
      rw [hpicture] at h
      cases h
  | ok image =>
      rw [hpicture] at h
      cases h
      exact ⟨image, rfl⟩

theorem Conversion.suits_of_raster {painter : Picture.Painter} {svg : String}
    {options : RenderOptions} {quality : Nat} {conversion : Conversion}
    (hformat : options.format = .raster)
    (h : Conversion.raster painter svg options quality = .ok conversion) :
    conversion.Suits options := by
  obtain ⟨image, rfl⟩ := exists_eq_of_raster h
  exact hformat.symm

namespace Press

variable {studio : Studio} {s s' : State} {job known : Job}

/-- A phase fits the request of its call. -/
def Phase.Fits (document : Document) (options : RenderOptions) : Phase → Prop
  | .queued => True
  | .rastering work _ => work.key = cacheKey document options ∧ options.format = .raster
  | .paginating work => work.key = cacheKey document options ∧ options.format = .paginated
  | .saving work conversion _ =>
    work.key = cacheKey document options ∧ conversion.Suits options

namespace State

/-- Every call in progress is in a phase that fits its request. -/
def Fitting (s : State) : Prop :=
  ∀ job ∈ s.jobs, job.phase.Fits job.document job.options

theorem fitting_fresh (settings : Settings) (governor : Governor) :
    (fresh settings governor).Fitting := by
  intro job hjob
  cases hjob

theorem Knows.fits (hknows : s.Knows job known) (hs : s.Fitting) :
    known.phase.Fits job.document job.options := by
  rw [← hknows.document, ← hknows.options]
  exact hs known (mem_of_job? hknows.listed).1

/-- What a conversion delivers suits the request, and is stored under its key. -/
theorem Converts.suits {work : Work} {conversion : Conversion} (hs : s.Fitting)
    (hknows : s.Knows job known)
    (hconverts : s.Converts studio job known work (.ok conversion)) :
    work.key = cacheKey job.document job.options ∧ conversion.Suits job.options := by
  have hfits := hknows.fits hs
  generalize houtcome : (Except.ok conversion : Except Fault Conversion) = outcome at hconverts
  cases hconverts with
  | vector hphase hkey hformat =>
      cases houtcome
      exact ⟨hkey, hformat.symm⟩
  | raster hphase =>
      rw [hphase] at hfits
      exact ⟨hfits.1, Conversion.suits_of_raster hfits.2 houtcome.symm⟩
  | fallback hphase hfailed =>
      cases houtcome
      rw [hphase] at hfits
      exact ⟨hfits.1, hfits.2, rfl⟩
  | printed hphase hreply =>
      cases houtcome
      rw [hphase] at hfits
      exact ⟨hfits.1, hfits.2.symm⟩
  | misprinted hphase hreply => cases houtcome
  | kept hphase =>
      cases houtcome
      rw [hphase] at hfits
      exact hfits

theorem Fitting.wait (hs : s.Fitting) {phase : Phase}
    (hfits : phase.Fits job.document job.options) : (s.wait job phase).Fitting := by
  intro other hother
  rcases mem_jobs_wait hother with rfl | ⟨hmem, -⟩
  · exact hfits
  · exact hs other hmem

theorem Fitting.without (hs : s.Fitting) {id : Nat} (hjobs : s'.jobs = s.othersThan id) :
    s'.Fitting := by
  intro other hother
  rw [hjobs, mem_othersThan] at hother
  exact hs other hother.1

end State

theorem Move.fitting {marks : List Mark} (h : Move studio s marks s') (hs : s.Fitting) :
    s'.Fitting := by
  cases h with
  | enter ticket document options =>
      intro job hjob
      rcases List.mem_append.1 hjob with hjob | hjob
      · exact hs job hjob
      · cases List.mem_singleton.1 hjob
        trivial
  | drop id => exact hs.without rfl
  | rasterize ends hknows hphase hkey hformat => exact hs.wait ⟨hkey, hformat⟩
  | paginate hknows hphase hkey hformat => exact hs.wait ⟨hkey, hformat⟩
  | save ends hknows hconverts => exact hs.wait (hconverts.suits hs hknows)
  | hit => exact hs.without (State.closes_hit _ _ _).jobs
  | deliver => exact hs.without (State.closes_deliver _ _ _ _ _).jobs
  | fail => exact hs.without (State.closes_finish _ _ _).jobs
  | expire => exact hs.without (State.closes_finish _ _ _).jobs
  | _ => exact hs

namespace State

theorem Fitting.run (hs : s.Fitting) (hnumbered : s.Numbered) (studio : Studio)
    (events : List Event) : (s.run studio events).Fitting :=
  (run_moves hnumbered studio events).preserve Move.fitting hs

end State

end Press

end CanvasPress

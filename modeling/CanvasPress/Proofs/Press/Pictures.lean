/-
# What becomes of calls for pictures

Options count as valid whatever size they ask for, as long as it is not empty, and documents may
say anything.  But pictures have a largest side, and a canvas is drawn only if markup may hold
what it shows and if it has not too many elements.  Nothing else decides about a call for a
picture, at a press with the built-in templates and without limits on queue and time: its caller
gets a picture of exactly the size that he asked for, or the fault that tells what is amiss.  This
supposes that nothing gets in the way of whoever paints it.

What a call has delivered was made for its request.  What remains is that a call that has failed
has failed by its own conversion; this is read off the turns.
-/

import CanvasPress.Proofs.Drawing.Canvas
import CanvasPress.Proofs.Press.Crowds
import CanvasPress.Proofs.Press.Provenance

namespace CanvasPress

open Drawing Markup.Draft

/-! ## Pictures of canvases -/

/-- Pictures may be as large as the options ask. -/
def RenderOptions.Fits (options : RenderOptions) : Prop :=
  options.width ≤ Picture.maxSide ∧ options.height ≤ Picture.maxSide

/-- A canvas may be drawn: markup may hold what it shows, and it has not too many elements. -/
def Document.IsDrawable (document : Document) (options : RenderOptions) : Prop :=
  (∀ text ∈ document.shownTexts options, IsLegalText text) ∧
    document.elementCount ≤ Expansion.maxElements

instance (options : RenderOptions) : Decidable options.Fits :=
  inferInstanceAs (Decidable (_ ∧ _))

instance (document : Document) (options : RenderOptions) :
    Decidable (document.IsDrawable options) :=
  inferInstanceAs (Decidable (_ ∧ _))

variable {document : Document} {options : RenderOptions}

theorem RenderOptions.positive_of_valid (hvalid : options.validate = .ok ()) :
    0 < options.width ∧ 0 < options.height := by
  unfold validate at hvalid
  split_ifs at hvalid with hempty
  omega

/-- Valid options ask for a possible size just if pictures may be that large. -/
theorem RenderOptions.isSide_iff_fits (hvalid : options.validate = .ok ()) :
    (Picture.isSide options.width && Picture.isSide options.height) = true ↔ options.Fits := by
  have hpositive := positive_of_valid hvalid
  simp only [Picture.isSide, Fits, Bool.and_eq_true, decide_eq_true_eq]
  omega

namespace Conversion

variable {painter : Picture.Painter} {svg : String} {quality : Nat} {conversion : Conversion}

/-- What is converted into a picture is a picture of the size that was asked for. -/
theorem exists_picture_of_raster (h : raster painter svg options quality = .ok conversion) :
    conversion.format = .raster ∧ ∃ image, conversion.body = .picture image ∧
      image.HasSize options.width options.height := by
  unfold raster at h
  cases hpainted : Picture.painted (painter.paint (orderOf svg options quality)) with
  | error fault =>
      rw [hpainted] at h
      cases h
  | ok image =>
      rw [hpainted] at h
      cases h
      exact ⟨rfl, image, rfl, Picture.hasSize_of_painted hpainted⟩

/-- No picture is larger than pictures may be. -/
theorem raster_of_not_fits (hvalid : options.validate = .ok ()) (hlarge : ¬ options.Fits) :
    raster painter svg options quality =
      .error (Picture.sizeFault options.width options.height) := by
  have hsize := mt (RenderOptions.isSide_iff_fits hvalid).1 hlarge
  rw [raster, Picture.Painter.paint, orderOf, if_neg hsize]
  rfl

/-- A picture that may be as large comes of whatever can be read as a drawing. -/
theorem raster_of_fits (hvalid : options.validate = .ok ()) (hfits : options.Fits)
    (hlives : ∀ order, painter.crash? order = none) :
    ((∃ scene, Scene.ofText? svg = some scene) → (∀ order, painter.hitch? order = none) →
        ∃ conversion, raster painter svg options quality = .ok conversion) ∧
      ((¬ ∃ scene, Scene.ofText? svg = some scene) →
        raster painter svg options quality =
          .error (Picture.drawingFault (painter.objection svg))) := by
  have hsize := (RenderOptions.isSide_iff_fits hvalid).2 hfits
  rw [raster, Picture.Painter.paint, orderOf, if_pos hsize, hlives]
  dsimp only
  cases Scene.ofText? svg with
  | none =>
      refine ⟨fun hdrawn => ?_, fun _ => rfl⟩
      obtain ⟨scene, hscene⟩ := hdrawn
      cases hscene
  | some scene =>
      refine ⟨fun _ hfree => ?_, fun hno => absurd ⟨scene, rfl⟩ hno⟩
      simp only [hfree]
      exact ⟨_, rfl⟩

end Conversion

/-- A canvas of a size that pictures may have can be read as a drawing just if it may be drawn. -/
theorem Document.exists_scene_iff_isDrawable (hvalid : options.validate = .ok ())
    (hfits : options.Fits) (time : Timestamp) (name : String) :
    (∃ scene, Scene.ofText? (document.compose (Template.builtin document.kind (Theme.ofName name))
      options time) = some scene) ↔ document.IsDrawable options := by
  have hpositive := RenderOptions.positive_of_valid hvalid
  have hside : Picture.maxSide < 2 ^ 24 := by decide
  exact exists_scene_iff time name ⟨hpositive.1, hfits.1.trans_lt hside⟩
    ⟨hpositive.2, hfits.2.trans_lt hside⟩

namespace Press

variable {studio : Studio} {s s' : State} {job : Job} {fate : Fate} {engine : Engine}

/-! ## Whose conversion has failed -/

/-- What composing a document for a picture at a time of day and letting somebody paint it comes
to. -/
def Studio.picture (studio : Studio) (painter : Picture.Painter) (document : Document)
    (options : RenderOptions) (time : Timestamp) : Except Fault Conversion :=
  Conversion.raster painter (studio.svg document options time) options
    studio.settings.rasterQuality

/-- A fault does not come from somebody else's conversion: if a call for a picture fails in
conversion, it is its own document that its painter does not convert. -/
def Owns (studio : Studio) (id : Nat) (document : Document) (options : RenderOptions)
    (fault : Fault) : Prop :=
  options.format = .raster → ∀ stage text, fault = .conversion stage text →
    ∃ time, studio.picture (studio.painter id) document options time = .error fault

theorem owns_of_ne {id : Nat} {fault : Fault} (h : ∀ stage text, fault ≠ .conversion stage text) :
    Owns studio id document options fault :=
  fun _ stage text hfault => absurd hfault (h stage text)

/-- What becomes of a call that has its turn is its own fault. -/
def Fate.IsOwn (studio : Studio) (job : Job) : Fate → Prop
  | .failed fault => Owns studio job.id job.document job.options fault
  | _ => True

theorem isOwn_fateOf {work : Work} {outcome : Except Fault Conversion}
    (hown : ∀ fault, outcome = .error fault → Owns studio job.id job.document job.options fault)
    (now : Nat) : (State.fateOf studio now work outcome).IsOwn studio job := by
  cases outcome with
  | error fault => exact hown fault rfl
  | ok conversion =>
      simp only [State.fateOf]
      cases studio.settings.outputPath <;> trivial

namespace State

/-- Calls that have failed have done so by their own fault. -/
def Candid (studio : Studio) (s : State) : Prop :=
  ∀ call ∈ s.finished, ∀ fault, call.outcome = .error fault →
    Owns studio call.id call.document call.options fault

namespace Candid

theorem congr (h : s.Candid studio) (hfinished : s'.finished = s.finished) : s'.Candid studio :=
  fun call hcall => h call (hfinished ▸ hcall)

theorem reject {fault : Fault} (h : s.Candid studio)
    (hown : Owns studio s.nextId document options fault) :
    (s.reject document options fault).Candid studio := by
  intro call hcall other hother
  rcases List.mem_cons.1 hcall with rfl | hcall
  · cases hother
    exact hown
  · exact h call hcall other hother

/-- A call has its turn by its own fault. -/
theorem fulfil (h : s.Candid studio) (hfate : fate.IsOwn studio job) :
    (s.fulfil job fate).Candid studio := by
  rcases fate.waits_or_ends s job with ⟨phase, rfl⟩ | ⟨outcome, houtcome⟩
  · exact h
  · have hends := releases_fulfil houtcome
    intro call hcall fault hfault
    rw [hends.finished] at hcall
    rcases List.mem_cons.1 hcall with rfl | hcall
    · cases fate with
      | failed fault =>
          cases houtcome
          cases hfault
          exact hfate
      | waits phase => cases houtcome
      | _ =>
          cases houtcome
          cases hfault
    · exact h call hcall fault hfault

/-- Whoever hears from the engine has not asked for a picture. -/
theorem stirred (hstirred : s.Stirred studio engine s') (h : s.Candid studio)
    (htruthful : s.Truthful studio) : s'.Candid studio := by
  cases hstirred with
  | unheard lines => exact h
  | @heard lines job work answer outcome hjob hphase =>
      have hmid : (({ s with engine := engine } : State).report lines).Candid studio := h
      have hwork := htruthful.jobs job (mem_of_job? hjob).1
      rw [hphase] at hwork
      refine hmid.fulfil (isOwn_fateOf (fun fault _ hraster => ?_) _)
      have hpaginated : job.options.format = .paginated := hwork.2
      rw [hpaginated] at hraster
      cases hraster

theorem started (hstarted : s.Started studio job s') (h : s.Candid studio)
    (htruthful : s.Truthful studio) : s'.Candid studio := by
  cases hstarted with
  | opens lines hfate =>
      have hsearched : (s.searched job lines).Candid studio := h
      refine hsearched.fulfil ?_
      cases hfate with
      | vector hformat => exact isOwn_fateOf (fun fault hfault => by cases hfault) _
      | _ => trivial
  | asks lines hformat hstirred =>
      have hsearched : (s.searched job lines).Candid studio := h
      have hwork : (s.workFor studio job).IsFor studio job.document job.options := ⟨rfl, rfl⟩
      have hasked : (s.searched job lines).Truthful studio := ⟨htruthful.jobs, htruthful.calls⟩
      have hwaits : (Fate.waits (.paginating (s.workFor studio job))).IsOwn studio job := trivial
      exact (hsearched.fulfil hwaits).stirred hstirred (hasked.fulfil ⟨hwork, hformat⟩)

/-- Every event leaves a press candid. -/
theorem step (h : s.Candid studio) (htruthful : s.Truthful studio) (event : Event) :
    (s.step studio event).Candid studio := by
  have hhappens := happens_step studio s event
  generalize s.step studio event = s' at hhappens ⊢
  cases hhappens with
  | invalid hinvalid => exact h.reject (owns_of_ne nofun)
  | refused hvalid hrefused =>
      have hmid : ({ s with governor := s.governor.acquire.2 } : State).Candid studio := h
      exact hmid.reject (owns_of_ne nofun)
  | @admitted document options _ hvalid hgranted hstarted =>
      have hentered : (s.entered document options).Candid studio := h
      exact hentered.started hstarted (htruthful.entered document options)
  | @called job _ hjob hphase hpromised hstarted =>
      have hmid : ({ s with governor := s.governor.poll job.ticket } : State).Candid studio := h
      exact hmid.started hstarted ⟨htruthful.jobs, htruthful.calls⟩
  | @rasterized job work ends hjob hphase =>
      have hwork := htruthful.jobs job (mem_of_job? hjob).1
      rw [hphase] at hwork
      refine h.fulfil (isOwn_fateOf (fun fault hfault _ _ _ _ => ?_) _)
      exact ⟨work.generatedAt, by rw [Studio.picture, ← hwork.1.svg, hfault]⟩
  | @saved job work conversion _ lines filepath hjob hphase =>
      have hmid : (s.report lines).Candid studio := h
      have hdelivered : (Fate.delivered work conversion filepath).IsOwn studio job := trivial
      exact hmid.fulfil hdelivered
  | @expired job ms hjob hlimit hphase =>
      have hmid : ({ s with engine := s.engine.leave job.id } : State).Candid studio := h
      have hlate : (Fate.failed (.timeout ms)).IsOwn studio job := owns_of_ne nofun
      exact hmid.fulfil hlate
  | stirred hstep hstirred => exact h.stirred hstirred htruthful
  | asked hstirred =>
      have hmid : ({ s with nextId := s.nextId + 1 } : State).Candid studio := h
      exact hmid.stirred hstirred ⟨htruthful.jobs, htruthful.calls⟩
  | held => exact h.congr (by rw [hold_eq])
  | _ => exact h

theorem run (hs : s.Steady studio) (h : s.Candid studio) (htruthful : s.Truthful studio)
    (events : List Event) : (s.run studio events).Candid studio := by
  induction events generalizing s with
  | nil => exact h
  | cons event rest ih =>
      exact ih (hs.step event) (h.step htruthful event) (htruthful.step hs event)

end Candid

/-! ## Who has ended -/

/-- Whoever is in progress has come since an earlier state, and whoever has ended has come since
or was on record then. -/
structure Since (before s : State) : Prop where
  given : before.nextId ≤ s.nextId
  jobs : ∀ job ∈ s.jobs, before.nextId ≤ job.id
  calls : ∀ call ∈ s.finished, call ∈ before.finished ∨ before.nextId ≤ call.id

variable {before : State} {known : Job}

theorem Since.of_rest (hrest : s.jobs = []) : Since s s where
  given := Nat.le_refl _
  jobs job hjob := by
    rw [hrest] at hjob
    cases hjob
  calls _ hcall := .inl hcall

theorem Since.congr (h : Since before s) (hnext : s.nextId ≤ s'.nextId)
    (hjobs : s'.jobs ⊆ s.jobs) (hfinished : s'.finished = s.finished) : Since before s' where
  given := h.given.trans hnext
  jobs job hjob := h.jobs job (hjobs hjob)
  calls call hcall := h.calls call (hfinished ▸ hcall)

theorem Since.of_knows (h : Since before s) (hknows : s.Knows job known) :
    before.nextId ≤ job.id := by
  obtain ⟨hmem, hid⟩ := mem_of_job? hknows.listed
  exact hid ▸ h.jobs known hmem

theorem Since.wait (h : Since before s) (hknows : s.Knows job known) (phase : Phase) :
    Since before (s.wait job phase) where
  given := h.given
  jobs other hother := by
    rcases mem_jobs_wait hother with rfl | ⟨hmem, -⟩
    · have hlater : before.nextId ≤ job.id := h.of_knows hknows
      exact hlater
    · exact h.jobs other hmem
  calls := h.calls

theorem Since.ends {outcome : Except Fault Rendering} (h : Since before s)
    (hknows : s.Knows job known) (hcloses : s.Closes s' job outcome) : Since before s' where
  given := hcloses.nextId ▸ h.given
  jobs other hother := by
    rw [hcloses.jobs, mem_othersThan] at hother
    exact h.jobs other hother.1
  calls call hcall := by
    rw [hcloses.finished] at hcall
    rcases List.mem_cons.1 hcall with rfl | hcall
    · exact .inr (h.of_knows hknows)
    · exact h.calls call hcall

end State

/-- Nobody comes back. -/
theorem Move.since {before : State} {marks : List Mark} (h : Move studio s marks s')
    (hs : State.Since before s) : State.Since before s' := by
  cases h with
  | number => exact hs.congr (Nat.le_succ _) (List.Subset.refl _) rfl
  | reject document options fault =>
      refine ⟨hs.given.trans (Nat.le_succ _), hs.jobs, fun call hcall => ?_⟩
      rcases List.mem_cons.1 hcall with rfl | hcall
      · exact .inr hs.given
      · exact hs.calls call hcall
  | enter ticket document options =>
      refine ⟨hs.given.trans (Nat.le_succ _), fun job hjob => ?_, hs.calls⟩
      rcases List.mem_append.1 hjob with hjob | hjob
      · exact hs.jobs job hjob
      · cases List.mem_singleton.1 hjob
        exact hs.given
  | drop id =>
      exact hs.congr (Nat.le_refl _) (fun _ hother => (State.mem_othersThan.1 hother).1) rfl
  | rasterize ends hknows => exact hs.wait hknows _
  | paginate hknows => exact hs.wait hknows _
  | save ends hknows => exact hs.wait hknows _
  | hit hknows => exact hs.ends hknows (State.closes_hit _ _ _)
  | deliver filepath hknows => exact hs.ends hknows (State.closes_deliver _ _ _ _ _)
  | fail hknows => exact hs.ends hknows (State.closes_finish _ _ _)
  | expire ms hknows => exact hs.ends hknows (State.closes_finish _ _ _)
  | _ => exact hs.congr (Nat.le_refl _) (List.Subset.refl _) rfl

namespace State

/-- When a call at a press at rest is over, nobody has ended but it and those before. -/
theorem mem_finished_render (hs : s.Numbered) (hrest : s.jobs = []) {call : Finished}
    (hcall : call ∈ (s.render studio document options none).2.finished) :
    call ∈ s.finished ∨ call.document = document ∧ call.options = options := by
  let arrived := (s.step studio (.arrive document options)).step studio (.advance moment)
  let later := .advance moment :: arrived.driveEvents studio
    (fun s' => (s'.result? s.nextId).isNone) none arrived.eventBound
  have hlast : (s.render studio document options none).2 =
      s.run studio (.arrive document options :: later) :=
    driveWhile_eq_run _ _ _ _
  have hclockwork : ∀ event ∈ later, event.isClockwork = true :=
    List.forall_mem_cons.2 ⟨rfl, isClockwork_driveEvents _ _ _ _⟩
  have hbatchwork : ∀ event ∈ Event.arrive document options :: later, event.isBatchwork = true :=
    List.forall_mem_cons.2
      ⟨rfl, fun event hevent => Event.isBatchwork_of_isClockwork (hclockwork event hevent)⟩
  have hnobody : later.filterMap Event.request? = [] :=
    List.filterMap_eq_nil_iff.2 fun event hevent =>
      Event.request?_of_isClockwork (hclockwork event hevent)
  have hnext : (s.run studio (.arrive document options :: later)).nextId = s.nextId + 1 := by
    have hrequests : (Event.arrive document options :: later).filterMap Event.request? =
        [(document, options)] :=
      congrArg (List.cons _) hnobody
    rw [nextId_run hbatchwork, hrequests]
    rfl
  rw [hlast] at hcall
  have hsince : Since s (s.run studio (.arrive document options :: later)) :=
    (run_moves hs studio _).preserve Move.since (Since.of_rest hrest)
  refine (hsince.calls call hcall).imp_right fun hlater => ?_
  have hbound := (hs.run studio _).finished call hcall
  rw [hnext] at hbound
  have hid : call.id = s.nextId := Nat.le_antisymm (Nat.le_of_lt_succ hbound) hlater
  have hmine := (concerning_arrive hs studio document options).run (hs.step _) studio later
  exact hmine.calls call hcall hid

end State

/-! ## The theorem -/

/-- What comes of a call for a picture: it delivers what its document converts to at some time of
day, or fails as the conversion does. -/
inductive ComesOf (studio : Studio) (document : Document) (options : RenderOptions) :
    Except Fault Rendering → Prop where
  | made {time : Timestamp} {conversion : Conversion} {rendering : Rendering}
      (hmade : studio.picture .sound document options time = .ok conversion)
      (hformat : rendering.format = conversion.format)
      (hbody : rendering.body = conversion.body) : ComesOf studio document options (.ok rendering)
  | failed {id : Nat} {time : Timestamp} {fault : Fault}
      (hfailed : studio.picture (studio.painter id) document options time = .error fault) :
      ComesOf studio document options (.error fault)

/-- A rendering that was made for a call for a picture is what its document converts to. -/
theorem IsMadeFor.comesOf {rendering : Rendering} (h : IsMadeFor studio document options rendering)
    (hraster : options.format = .raster) : ComesOf studio document options (.ok rendering) := by
  obtain ⟨conversion, htells⟩ := h
  have hproduced := htells.produced
  have hformat := htells.format
  have hbody := htells.body
  cases hproduced with
  | picture _ hpicture => exact .made hpicture hformat hbody
  | markup hother => cases hraster.symm.trans hother
  | pages hother _ => cases hraster.symm.trans hother
  | standIn hother => cases hraster.symm.trans hother

variable {settings : Settings} {around : Surroundings} {start : State}

/-- Without limits on queue and time, valid calls fail in conversion at most. -/
theorem MayFailWith.exists_conversion {fault : Fault} (h : MayFailWith settings options fault)
    (hvalid : options.validate = .ok ()) (hqueue : settings.maxQueueDepth = none)
    (hlimit : settings.renderTimeoutMs = none) :
    ∃ stage text, fault = .conversion stage text := by
  cases fault with
  | conversion stage text => exact ⟨stage, text, rfl⟩
  | config cause =>
      have hinvalid : options.validate = .error cause := h
      rw [hvalid] at hinvalid
      cases hinvalid
  | queueFull waiting limit =>
      obtain ⟨hlimited, -⟩ := h
      rw [hqueue] at hlimited
      cases hlimited
  | timeout ms =>
      have hlimited : settings.renderTimeoutMs = some ms := h
      rw [hlimit] at hlimited
      cases hlimited
  | _ => exact h.elim

/-- At a press at rest without limits on queue and time, a valid call for a picture returns what
comes of it, if no earlier call for something else has its key. -/
theorem comesOf_render (hopen : openWith settings around = .ok (studio, start))
    (hqueue : settings.maxQueueDepth = none) (hlimit : settings.renderTimeoutMs = none)
    (events : List Event) (hs : s = start.run studio events) (hrest : s.jobs = [])
    (hactive : s.governor.active = 0) (hraster : options.format = .raster)
    (hvalid : options.validate = .ok ())
    (hunshared : ∀ call ∈ s.finished,
      cacheKey call.document call.options = cacheKey document options →
        call.document = document ∧ call.options = options) :
    ∃ outcome, (s.render studio document options none).1 = some outcome ∧
      ComesOf studio document options outcome := by
  have hopened := State.steady_of_openWith hopen
  obtain ⟨-, hnobody⟩ := State.slotted_of_openWith hopen
  have hsettings : studio.settings = settings := (fresh_of_openWith hopen).1
  have hsteady : s.Steady studio := hs ▸ hopened.run events
  have hroom : s.outsiders.length < s.governor.capacity := by
    rw [State.outsiders_eq_nil (State.heldApart_of_idle hsteady.sound hactive)]
    exact hsteady.sound.roomy
  obtain ⟨outcome, hreturns⟩ :=
    Option.isSome_iff_exists.1 (State.isSome_render hsteady hroom document options)
  obtain ⟨later, hlast, call, hcall, hdocument, hoptions, houtcome⟩ :=
    State.exists_call_of_render hsteady.sound.numbered hreturns
  have hrun : (s.render studio document options none).2 =
      start.run studio (events ++ .arrive document options :: later) := by
    rw [hlast, State.run_append, hs]
  obtain ⟨htruthful, hbacked⟩ := provenance_run hopen (events ++ .arrive document options :: later)
  refine ⟨outcome, hreturns, ?_⟩
  cases outcome with
  | ok rendering =>
      -- It may be served from the cache, so its key must not be that of something else.
      rw [← hrun] at htruthful hbacked
      have hmade : IsMadeFor studio call.document call.options rendering := by
        refine isMadeFor_of_unshared htruthful hbacked hcall (fun maker hmaker hkey => ?_) houtcome
        rw [hdocument, hoptions] at hkey ⊢
        exact (State.mem_finished_render hsteady.sound.numbered hrest hmaker).elim
          (fun hold => hunshared maker hold hkey) id
      rw [hdocument, hoptions] at hmade
      exact hmade.comesOf hraster
  | error fault =>
      have hmay := (State.accountable_render hopened.sound hnobody events
        (hs ▸ hreturns)).faults fault rfl
      have hcandid : (start.run studio (events ++ .arrive document options :: later)).Candid
          studio := by
        obtain ⟨-, governor, rfl⟩ := fresh_of_openWith hopen
        exact State.Candid.run hopened (fun _ hcall => absurd hcall List.not_mem_nil)
          (State.Truthful.fresh studio settings governor) _
      obtain ⟨stage, text, rfl⟩ := hmay.exists_conversion hvalid
        (hsettings ▸ hqueue) (hsettings ▸ hlimit)
      have howns := hcandid call (hrun ▸ hcall) _ houtcome
      rw [hdocument, hoptions] at howns
      obtain ⟨time, hfailed⟩ := howns hraster stage text rfl
      exact .failed hfailed

theorem unshared_nil (document : Document) (options : RenderOptions) :
    ∀ call ∈ ([] : List Finished),
      cacheKey call.document call.options = cacheKey document options →
        call.document = document ∧ call.options = options :=
  fun _ hcall => absurd hcall List.not_mem_nil

/-- A press without overrides composes with the built-in templates. -/
theorem Studio.svg_of_empty (hplain : studio.templates = .empty) (document : Document)
    (options : RenderOptions) (time : Timestamp) : studio.svg document options time =
      document.compose (Template.builtin document.kind (Theme.ofName options.theme)) options
        time := by
  rw [Studio.svg, hplain]
  rfl

/-- A press has no overrides of its templates and no limits on queue and time.  Whenever it is at
rest, a call for a picture with valid options returns, whatever it is to draw; this supposes that
no earlier call for something else has the same key.

* If pictures may be as large as the options ask, and the canvas may be drawn, it returns a
  picture of exactly that size, unless something gets in the way of whoever paints it.
* If pictures may not be as large, it returns the fault that says so.
* If the canvas may not be drawn, it returns the fault that the drawing cannot be read, with the
  reason that is given for that, unless the work dies first. -/
theorem pictures_of_valid_options (hopen : openWith settings around = .ok (studio, start))
    (hplain : studio.templates = .empty) (hqueue : settings.maxQueueDepth = none)
    (hlimit : settings.renderTimeoutMs = none) (events : List Event) :
    let s := start.run studio events
    s.jobs = [] → s.governor.active = 0 → ∀ (document : Document) (options : RenderOptions),
      options.format = .raster → options.validate = .ok () →
      (∀ call ∈ s.finished, cacheKey call.document call.options = cacheKey document options →
        call.document = document ∧ call.options = options) →
      let returned := (s.render studio document options none).1
      (options.Fits → document.IsDrawable options → (∀ id, (studio.painter id).IsSound) →
        ∃ rendering image, returned = some (.ok rendering) ∧ rendering.format = .raster ∧
          rendering.body = .picture image ∧ image.HasSize options.width options.height) ∧
      (¬ options.Fits →
        returned = some (.error (Picture.sizeFault options.width options.height))) ∧
      (options.Fits → ¬ document.IsDrawable options →
        (∀ id order, (studio.painter id).crash? order = none) →
        ∃ id time, returned = some (.error (Picture.drawingFault
          ((studio.painter id).objection (studio.svg document options time))))) := by
  intro s hrest hactive document options hraster hvalid hunshared returned
  obtain ⟨outcome, hreturns, hcomes⟩ :=
    comesOf_render hopen hqueue hlimit events rfl hrest hactive hraster hvalid hunshared
  have hreturned : returned = some outcome := hreturns
  rw [hreturned]
  -- Whether the canvas can be read does not depend on the time at which it was composed.
  have hscene (hfits : options.Fits) (time : Timestamp) :
      (∃ scene, Scene.ofText? (studio.svg document options time) = some scene) ↔
        document.IsDrawable options := by
    rw [Studio.svg_of_empty hplain]
    exact Document.exists_scene_iff_isDrawable hvalid hfits time options.theme
  refine ⟨fun hfits hdrawable hsound => ?_, fun hlarge => ?_, fun hfits hnot hlives => ?_⟩
  · cases hcomes with
    | @made time conversion rendering hmade hformat hbody =>
        obtain ⟨hpicture, image, himage, hsize⟩ := Conversion.exists_picture_of_raster hmade
        exact ⟨rendering, image, rfl, hformat.trans hpicture, hbody.trans himage, hsize⟩
    | @failed id time fault hfailed =>
        obtain ⟨conversion, hmade⟩ :=
          (Conversion.raster_of_fits hvalid hfits (hsound id).lives).1
            ((hscene hfits time).2 hdrawable) (hsound id).unhindered
        rw [Studio.picture, hmade] at hfailed
        cases hfailed
  · cases hcomes with
    | made hmade =>
        rw [Studio.picture, Conversion.raster_of_not_fits hvalid hlarge] at hmade
        cases hmade
    | failed hfailed =>
        rw [Studio.picture, Conversion.raster_of_not_fits hvalid hlarge] at hfailed
        cases hfailed
        rfl
  · cases hcomes with
    | @made time conversion rendering hmade =>
        rw [Studio.picture, (Conversion.raster_of_fits hvalid hfits fun _ => rfl).2
          (mt (hscene hfits time).1 hnot)] at hmade
        cases hmade
    | @failed id time fault hfailed =>
        rw [Studio.picture, (Conversion.raster_of_fits hvalid hfits (hlives id)).2
          (mt (hscene hfits time).1 hnot)] at hfailed
        cases hfailed
        exact ⟨id, time, rfl⟩

/-- A picture one pixel wider than pictures may be is refused, although its options are valid,
and so is one of a canvas whose title has a character that markup may not hold.  Nothing is
wrong with an ordinary canvas. -/
theorem pictures_of_valid_options_at_limits :
    let options := RenderOptions.ofSettings {}
    let wide := { options with width := Picture.maxSide + 1, height := 1 }
    let document := Document.ofKind .businessModel
    let unspeakable := document.withText "title" "a\x01b"
    let around : Surroundings := ⟨.obliging, .missing, none, ⟨0, 0⟩⟩
    ∃ (studio : Studio) (start : State), openWith {} around = .ok (studio, start) ∧
      options.validate = .ok () ∧ wide.validate = .ok () ∧
      (∃ rendering image, (start.render studio document options none).1 = some (.ok rendering) ∧
        rendering.format = .raster ∧ rendering.body = .picture image ∧ image.HasSize 1200 800) ∧
      (start.render studio document wide none).1 = some (.error (Picture.sizeFault 16385 1)) ∧
      ∃ reason, (start.render studio unspeakable options none).1 =
        some (.error (Picture.drawingFault reason)) := by
  intro options wide document unspeakable around
  refine ⟨_, _, rfl, rfl, rfl, ?_⟩
  have hpictures := pictures_of_valid_options (show openWith {} around = .ok _ from rfl) rfl rfl
    rfl [] rfl rfl
  have hfits : options.Fits := by decide
  have hlarge : ¬ wide.Fits := by decide
  have hdrawable : document.IsDrawable options := by decide
  have hnot : ¬ unspeakable.IsDrawable options := by decide
  obtain ⟨_, _, hunread⟩ := (hpictures unspeakable options rfl rfl (unshared_nil _ _)).2.2 hfits
    hnot fun _ _ => rfl
  exact ⟨(hpictures document options rfl rfl (unshared_nil _ _)).1 hfits hdrawable
      fun _ => Picture.Painter.isSound_sound,
    (hpictures document wide rfl rfl (unshared_nil _ _)).2.1 hlarge, _, hunread⟩

/-- Options may be valid, with sides that a machine word can hold, and no picture comes of
them. -/
theorem not_every_valid_picture_is_made :
    ¬ ∀ (studio : Studio) (start : State) (around : Surroundings) (document : Document)
      (options : RenderOptions), openWith {} around = .ok (studio, start) →
        options.format = .raster → options.validate = .ok () → options.width < 2 ^ 32 →
        options.height < 2 ^ 32 → ∃ rendering image,
          (start.render studio document options none).1 = some (.ok rendering) ∧
            rendering.body = .picture image ∧ image.HasSize options.width options.height := by
  intro hall
  let document := Document.ofKind .businessModel
  let options := { RenderOptions.ofSettings {} with width := Picture.maxSide + 1, height := 1 }
  let around : Surroundings := ⟨.obliging, .missing, none, ⟨0, 0⟩⟩
  obtain ⟨rendering, image, hreturns, -⟩ :=
    hall _ _ around document options rfl rfl rfl (by decide) (by decide)
  obtain ⟨outcome, houtcome, hcomes⟩ := comesOf_render (show openWith {} around = .ok _ from rfl)
    rfl rfl [] rfl rfl rfl rfl rfl (unshared_nil document options)
  cases houtcome.symm.trans hreturns
  cases hcomes with
  | made hmade =>
      have hlarge : ¬ options.Fits := by decide
      rw [Studio.picture, Conversion.raster_of_not_fits rfl hlarge] at hmade
      cases hmade

end Press

end CanvasPress

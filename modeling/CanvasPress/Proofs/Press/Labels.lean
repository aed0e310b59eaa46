/-
# What artifacts say of themselves

The description that goes with an artifact is put together from the options, from what the
conversion has delivered, and from key and clock; when the artifact is served from the
cache, it is repeated to a later call.  So it could be at odds with the content, or with the
request that it answers.  It is not: whatever was made for a request is described as such,
and what a call returns was made for its request.
-/

import CanvasPress.Proofs.Press.Faults
import CanvasPress.Proofs.Press.Provenance

namespace CanvasPress

variable {options : RenderOptions} {conversion : Conversion}

/-! ## Conversions -/

/-- A conversion says rightly what it delivers for some options. -/
structure Conversion.IsLabelled (options : RenderOptions) (conversion : Conversion) : Prop where
  fallback : conversion.fallback = true ↔
    options.format = .paginated ∧ conversion.format = .vector
  delivered : conversion.fallback = false → conversion.format = options.format
  mediaType : conversion.mediaType = conversion.format.mediaType options.encoding
  extension : conversion.extension = conversion.format.extension options.encoding

theorem Conversion.isLabelled_of_raster {painter : Picture.Painter} {svg : String} {quality : Nat}
    (hformat : options.format = .raster)
    (h : Conversion.raster painter svg options quality = .ok conversion) :
    conversion.IsLabelled options := by
  obtain ⟨image, rfl⟩ := Conversion.exists_eq_of_raster h
  exact ⟨by simp, fun _ => hformat.symm, rfl, rfl⟩

/-- However composed markup is converted for some options, the conversion says so. -/
theorem Press.Studio.Produces.isLabelled {studio : Press.Studio} {svg : String}
    (h : studio.Produces svg options conversion) : conversion.IsLabelled options := by
  cases h with
  | markup hformat => exact ⟨by simp [Conversion.vector, hformat], fun _ => hformat.symm, rfl, rfl⟩
  | picture hformat hpicture => exact Conversion.isLabelled_of_raster hformat hpicture
  | pages hformat hreturned =>
      exact ⟨by simp [Conversion.paginated], fun _ => hformat.symm, rfl, rfl⟩
  | standIn hformat =>
      exact ⟨by simp [Conversion.vector, hformat], fun hno => (by cases hno), rfl, rfl⟩

/-! ## Artifacts -/

/-- An artifact says of itself, and of the request that it answers, what is true.  The
directory for copies is that of the settings. -/
structure Rendering.IsConsistent (outputPath : Option String) (document : Document)
    (options : RenderOptions) (rendering : Rendering) : Prop where
  size : rendering.record.sizeBytes = rendering.body.bytes.size
  format : rendering.metadata.format = rendering.format
  requestedFormat : rendering.metadata.requestedFormat = options.format
  theme : rendering.metadata.theme = options.theme
  width : rendering.metadata.width = options.width
  height : rendering.metadata.height = options.height
  dpi : rendering.metadata.dpi = options.dpi
  fallback : rendering.metadata.fallback = true ↔
    options.format = .paginated ∧ rendering.format = .vector
  delivered : rendering.metadata.fallback = false → rendering.format = options.format
  mediaType : rendering.mediaType = rendering.format.mediaType options.encoding
  /-- The name has the first eight digits of the key, which has sixty-four. -/
  filename : rendering.filename =
    "canvas_" ++ rendering.metadata.generatedAt.stamp ++ "_" ++
      String.ofList ((cacheKey document options).toList.take 8) ++
      (if rendering.metadata.fallback then "_fallback" else "") ++ "." ++
      rendering.format.extension options.encoding
  digits : (cacheKey document options).toList.length = 64 ∧
    ∀ digit ∈ (cacheKey document options).toList, digit ∈ hexDigits
  filepath : rendering.filepath = none ∨ ∃ directory, outputPath = some directory ∧
    rendering.filepath = some (Path.join directory rendering.filename)
  unfiled : outputPath = none → rendering.filepath = none

namespace Press

variable {studio : Studio} {s : State}

/-- What was made for a request is described as such. -/
theorem IsMadeFor.isConsistent {document : Document} {rendering : Rendering}
    (h : IsMadeFor studio document options rendering) :
    rendering.IsConsistent studio.settings.outputPath document options := by
  obtain ⟨conversion, htells⟩ := h
  have hlabelled := htells.produced.isLabelled
  have hmetadata := htells.metadata
  have hfilepath : rendering.filepath = none ∨ ∃ directory,
      studio.settings.outputPath = some directory ∧
        rendering.filepath = some (Path.join directory rendering.filename) := by
    cases hpath : rendering.filepath with
    | none => exact .inl rfl
    | some path =>
        obtain ⟨directory, hdirectory, rfl⟩ := htells.filepath path hpath
        exact .inr ⟨directory, hdirectory, rfl⟩
  refine
    { size := ?_
      format := hmetadata.format.trans htells.format.symm
      requestedFormat := hmetadata.requestedFormat
      theme := hmetadata.theme
      width := hmetadata.width
      height := hmetadata.height
      dpi := hmetadata.dpi
      fallback := ?_
      delivered := fun hno => ?_
      mediaType := ?_
      filename := ?_
      digits := ⟨length_cacheKey _ _, fun digit => mem_hexDigits_of_mem_cacheKey⟩
      filepath := hfilepath
      unfiled := fun hnone => ?_ }
  · rw [htells.body]
    exact htells.size
  · rw [hmetadata.fallback, htells.format]
    exact hlabelled.fallback
  · rw [hmetadata.fallback] at hno
    rw [htells.format]
    exact hlabelled.delivered hno
  · rw [htells.mediaType, htells.format]
    exact hlabelled.mediaType
  · rw [htells.filename, artifactName, shortKey_cacheKey, hlabelled.extension, htells.format,
      hmetadata.fallback]
  · rcases hfilepath with hunfiled | ⟨directory, hdirectory, -⟩
    · exact hunfiled
    · rw [hnone] at hdirectory
      cases hdirectory

/-- Every artifact is consistent, for every run of an opened press: calls that arrive, wait,
work and leave in any order, with or without a cache and a directory for copies, whatever
becomes of the engine, of prints and of copies.  This supposes that the digest tells the
requests of the calls that have ended apart; else a call might be served what was made for
another one.

* Whatever a call has returned, be it made for it or served from the cache, is consistent
  with its request.
* This is so in particular of what rendering a document returns at the end of the run. -/
theorem artifacts_are_consistent {settings : Settings} {around : Surroundings} {start : State}
    (hopen : openWith settings around = .ok (studio, start)) (events : List Event) :
    let s := start.run studio events
    let separated (s : State) : Prop :=
      Separates Digest.sha256Hex (s.finished.map Finished.material)
    (separated s → ∀ call ∈ s.finished, ∀ rendering, call.outcome = .ok rendering →
        rendering.IsConsistent settings.outputPath call.document call.options) ∧
      (∀ document options patience rendering,
        let rendered := s.render studio document options patience
        separated rendered.2 → rendered.1 = some (.ok rendering) →
          rendering.IsConsistent settings.outputPath document options) := by
  intro s separated
  obtain ⟨rfl, -⟩ := fresh_of_openWith hopen
  have hreturned (events : List Event) (hseparates : separated (start.run studio events))
      {call : Finished} (hcall : call ∈ (start.run studio events).finished) {rendering : Rendering}
      (houtcome : call.outcome = .ok rendering) :
      rendering.IsConsistent studio.settings.outputPath call.document call.options := by
    obtain ⟨htruthful, hbacked⟩ := provenance_run hopen events
    exact (isMadeFor_of_mem htruthful hbacked hseparates hcall houtcome).isConsistent
  constructor
  · intro hseparates call hcall rendering houtcome
    exact hreturned events hseparates hcall houtcome
  · intro document options patience rendering rendered hseparates houtcome
    have hnumbered : s.Numbered :=
      (State.steady_of_openWith hopen).sound.numbered.run studio events
    have harrived : (s.step studio (.arrive document options)).Numbered := hnumbered.step _
    obtain ⟨last, ⟨during, rfl⟩, hresult, after, hlast⟩ :=
      State.reaches_render studio s document options patience
    rw [← State.run_append] at hlast
    -- The call has its result in the end as well, and it is still for the same request.
    have hkept : rendered.2.result? s.nextId = some (.ok rendering) := by
      rw [show rendered.2 = _ from hlast, State.run_append]
      exact (State.run_moves (harrived.run studio during) studio after).result?
        (harrived.run studio during) (hresult ▸ houtcome)
    obtain ⟨call, hcall, hid, hreturns⟩ := State.mem_finished_of_result? hkept
    have hconcerning : rendered.2.Concerning s.nextId document options := by
      rw [show rendered.2 = _ from hlast]
      exact (State.concerning_arrive hnumbered studio document options).run harrived studio _
    obtain ⟨rfl, rfl⟩ := hconcerning.calls call hcall hid
    have hrun : rendered.2 = start.run studio
        (events ++ .arrive call.document call.options :: (during ++ after)) := by
      rw [State.run_append]
      exact hlast
    rw [hrun] at hseparates hcall
    exact hreturned _ hseparates hcall hreturns

/-- With the engine disabled, the copy of what stands in for a printed document has a name
that says so, and the artifact tells where it is. -/
theorem artifacts_are_consistent_of_stand_in :
    let document := Document.ofKind .businessModel
    let options := { RenderOptions.ofSettings {} with format := .paginated }
    let around : Surroundings := ⟨.obliging, .missing, none, ⟨0, 0⟩⟩
    ∃ (studio : Studio) (start : State),
      openWith { outputPath := some "prints" } around = .ok (studio, start) ∧
        let s := start.run studio
          [.askEngine (.disable "worn out"), .arrive document options, .proceed 1]
        Separates Digest.sha256Hex (s.finished.map Finished.material) ∧
          ∃ call ∈ s.finished, ∃ rendering, call.outcome = .ok rendering ∧
            rendering.metadata.fallback = true ∧ rendering.filepath.isSome = true ∧
              rendering.IsConsistent (some "prints") document options := by
  intro document options around
  obtain ⟨studio, start, hopen, s, hs, hrequests, rendering, hresult, hfallback, hfiled⟩ :
      ∃ (studio : Studio) (start : State),
        openWith { outputPath := some "prints" } around = .ok (studio, start) ∧
          ∃ s, start.run studio
              [.askEngine (.disable "worn out"), .arrive document options, .proceed 1] = s ∧
            s.finished.map (fun call => (call.document, call.options)) = [(document, options)] ∧
              ∃ rendering, s.result? 1 = some (.ok rendering) ∧
                rendering.metadata.fallback = true ∧ rendering.filepath.isSome = true :=
    ⟨_, _, rfl, _, rfl, rfl, _, rfl, rfl, rfl⟩
  have hmaterials : s.finished.map Finished.material = [keyMaterial document options] := by
    have hkeyed := congrArg (List.map fun r => keyMaterial r.1 r.2) hrequests
    rwa [List.map_map] at hkeyed
  have hseparates : Separates Digest.sha256Hex (s.finished.map Finished.material) := by
    rw [hmaterials]
    intro text htext other hother _
    rw [List.mem_singleton.1 htext, List.mem_singleton.1 hother]
  obtain ⟨call, hcall, -, houtcome⟩ := State.mem_finished_of_result? hresult
  have hrequest : (call.document, call.options) ∈ [(document, options)] :=
    hrequests ▸ List.mem_map_of_mem hcall
  obtain ⟨hdocument, hoptions⟩ := Prod.mk.inj (List.mem_singleton.1 hrequest)
  refine ⟨studio, start, hopen, ?_⟩
  obtain ⟨hreturned, -⟩ := artifacts_are_consistent hopen
    [.askEngine (.disable "worn out"), .arrive document options, .proceed 1]
  rw [hs] at hreturned ⊢
  have hconsistent := hreturned hseparates call hcall rendering houtcome
  rw [hdocument, hoptions] at hconsistent
  exact ⟨hseparates, call, hcall, rendering, houtcome, hfallback, hfiled, hconsistent⟩

end Press

end CanvasPress

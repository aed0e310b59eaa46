/-
# What stands in for a printed document

Where no engine can be had, a printed document is replaced by the markup.  It is exactly what
somebody is delivered who has asked for markup: composition does not know into what its result
will be converted, and both conversions squeeze the same text.  All that differs is that the
stand-in says so.  Where an engine can be had, it is the composed text as it is that goes on
the page, and the page goes to the browser once.
-/

import CanvasPress.Proofs.Press.Degradation
import CanvasPress.Proofs.Press.Faults
import CanvasPress.Proofs.Press.Pages

namespace CanvasPress

/-- The markup of a document, composed with the templates of a store at a time of day. -/
def Template.Store.compose (store : Template.Store) (document : Document) (options : RenderOptions)
    (time : Timestamp) : String :=
  document.compose (store.get document.kind options.theme) options time

namespace Press

variable {studio : Studio} {s s' : State} {job : Job} {id : Nat} {event : Event}
  {marks : List Mark} {svg : String} {options : RenderOptions} {conversion : Conversion}

/-! ## Conversions -/

/-- Whatever stands in for a printed document is the markup. -/
theorem Studio.Produces.eq_of_fallback (h : studio.Produces svg options conversion)
    (hfallback : conversion.fallback = true) :
    conversion = { Conversion.vector svg false with fallback := true } := by
  cases h with
  | markup hformat => cases hfallback
  | picture hformat hpicture =>
      obtain ⟨image, rfl⟩ := Conversion.exists_eq_of_raster hpicture
      cases hfallback
  | pages hformat hreturned => cases hfallback
  | standIn hformat => rfl

/-- Whoever asks for markup is delivered it. -/
theorem Studio.Produces.eq_of_vector (h : studio.Produces svg options conversion)
    (hvector : options.format = .vector) : conversion = .vector svg false := by
  cases h with
  | markup hformat => rfl
  | picture hformat hpicture =>
      rw [hvector] at hformat
      cases hformat
  | pages hformat hreturned =>
      rw [hvector] at hformat
      cases hformat
  | standIn hformat =>
      rw [hvector] at hformat
      cases hformat

/-! ## Presses with a hopeless engine -/

/-- The engine of a press has failed, or its launch fails that is under way or comes next. -/
def State.IsHopeless (studio : Studio) (s : State) : Prop :=
  s.engine.IsHopeless studio.settings.engine studio.browser

/-- Nothing that a press does helps a hopeless engine. -/
theorem Move.hopeless (h : Move studio s marks s') (horderly : s.engine.Orderly)
    (hhopeless : s.IsHopeless studio) :
    Engine.StaysHopeless studio.settings.engine studio.browser s.engine s'.engine := by
  rcases h.engine_cases with hsame | ⟨step, -, happlied⟩
  · rw [hsame]
    exact ⟨hhopeless, List.Subset.refl _, rfl⟩
  · rw [happlied]
    exact hhopeless.apply horderly _ step

/-- A hopeless engine begins to print for nobody, whatever the press does. -/
theorem Move.neverPrinted_of_hopeless (h : Move studio s marks s') (horderly : s.engine.Orderly)
    (hhopeless : s.IsHopeless studio) (hnever : s.engine.NeverPrinted id) :
    s'.engine.NeverPrinted id := by
  rcases h.engine_cases with hsame | ⟨step, -, happlied⟩
  · rwa [hsame]
  · rw [happlied]
    exact hnever.apply_of_subset (hhopeless.apply horderly _ step).printing

namespace State

/-- The engine is hopeless, and has printed for nobody but for whom it has been printing. -/
structure Hopeless (studio : Studio) (s before : State) : Prop where
  orderly : s.engine.Orderly
  hopeless : s.IsHopeless studio
  printing : s.engine.printing ⊆ before.engine.printing
  never : ∀ id, before.engine.NeverPrinted id → s.engine.NeverPrinted id

theorem Hopeless.run (hs : s.Numbered) (horderly : s.engine.Orderly)
    (hhopeless : s.IsHopeless studio) (events : List Event) :
    (s.run studio events).Hopeless studio s := by
  have hkept {mid mid' : State} {marks : List Mark} (hmove : Move studio mid marks mid')
      (h : mid.Hopeless studio s) : mid'.Hopeless studio s := by
    have hstays := hmove.hopeless h.orderly h.hopeless
    exact ⟨hmove.orderly h.orderly, hstays.hopeless, List.Subset.trans hstays.printing h.printing,
      fun id hnever => hmove.neverPrinted_of_hopeless h.orderly h.hopeless (h.never id hnever)⟩
  have hstart : s.Hopeless studio s :=
    ⟨horderly, hhopeless, List.Subset.refl _, fun _ hnever => hnever⟩
  exact (run_moves hs studio events).preserve hkept hstart

/-- Nothing is handed to the browser of a hopeless engine, whatever happens. -/
theorem begunFor_of_hopeless (hs : s.Numbered) (horderly : s.engine.Orderly)
    (hhopeless : s.IsHopeless studio) (id : Nat) (events : List Event) :
    s.begunFor studio id events = [] := by
  induction events generalizing s with
  | nil => rfl
  | cons event rest ih =>
      have hstep : (s.step studio event).Hopeless studio s :=
        Hopeless.run hs horderly hhopeless [event]
      rw [begunFor, Engine.begunFor_of_begun (Engine.begun_of_subset hstep.printing),
        ih (hs.step event) hstep.orderly hstep.hopeless]
      rfl

/-- A call for a printed document that begins with a hopeless engine and ends in time is
delivered what stands in for it. -/
theorem fallback_of_hopeless (hnumbered : s.Numbered) (hfitting : s.Fitting)
    (hstrangers : s.Strangers) (horderly : s.engine.Orderly) (hhopeless : s.IsHopeless studio)
    (hbegins : s.begins? event = some job) (hformat : job.options.format = .paginated)
    (hmisses : s.Misses job) (later : List Event) {outcome : Except Fault Rendering}
    (hresult : (s.run studio (event :: later)).result? job.id = some outcome)
    (htime : ∀ ms, outcome ≠ .error (.timeout ms)) :
    ∃ rendering, outcome = .ok rendering ∧ rendering.metadata.fallback = true ∧
      rendering.metadata.cacheHit = false := by
  have hmissed := missed_of_begins studio hnumbered hbegins hmisses later
  have hfresh (rendering : Rendering) (hok : outcome = .ok rendering) :
      rendering.metadata.cacheHit = false := hmissed.result? (hok ▸ hresult)
  have hnever := Engine.neverPrinted_of_not_concerns
    (not_concerns_of_begins studio hnumbered hstrangers hbegins)
  have hlast : (s.run studio (event :: later)).Hopeless studio s :=
    Hopeless.run hnumbered horderly hhopeless _
  have hends := ends_of_begins studio hnumbered hfitting hbegins hformat later hresult
  obtain ⟨rendering, hok, hfallback⟩ :=
    hends.fallback_of_neverPrinted (hlast.never job.id hnever) hfresh htime
  exact ⟨rendering, hok, hfallback, hfresh rendering hok⟩

end State

/-! ## The theorem -/

/-- **What stands in for a printed document is the vector rendering, and what is printed is
the composed markup, once.**

* Composition does not depend on format, density and encoding.
* In a session at rest whose engine has failed, or has not been launched and cannot be, a
  conversion into a printed document delivers what the conversion into markup delivers, but
  says so, and hands nothing to the browser.  In any other session at rest it hands the page
  around the composed markup to the browser, once, and comes to what that comes to.
* In any run of an opened press, a rendering that a call has made is that of the conversion
  into markup if markup was asked for, and if it says that it stands in for a printed document,
  which is all the difference.  If it is a printed document it is what the browser has returned
  for the page around the composed markup, and that is all that was handed to the browser for
  the call.
* A call for a printed document that begins with an engine that has failed, or whose launch
  under way or to come fails, hands nothing to the browser; if it does not find its artifact
  and ends in time, it is delivered such a rendering. -/
theorem stand_ins_deliver_the_vector_rendering {settings : Settings} {around : Surroundings}
    {start : State} (hopen : openWith settings around = .ok (studio, start)) :
    (∀ (store : Template.Store) (document : Document) (options : RenderOptions)
        (time : Timestamp) (format : Format) (dpi : Nat) (encoding : Encoding),
      store.compose document
          { options with format := format, dpi := dpi, encoding := encoding } time =
        store.compose document options time) ∧
      (∀ (store : Template.Store) (document : Document) (options : RenderOptions)
          (time : Timestamp) (quality : Nat) (s : Engine.Session),
        s.Quiet → options.format = .paginated →
          let svg := store.compose document options time
          let direct := { options with format := .vector }
          let steps := Engine.operation s.next (.print (Page.around svg) .a4Landscape)
          let begun := s.engine.begunIn s.settings s.browser steps
          let result := s.convert svg options quality
          result.2.engine = s.engine.run s.settings s.browser steps ∧
            (s.engine.outlook s.settings s.browser = .ready ∨
              s.engine.IsHopeless s.settings s.browser) ∧
            (s.engine.IsHopeless s.settings s.browser ↔
              s.engine.IsFailed ∨ s.engine.status = .uninitialized ∧
                Engine.launchStatus s.settings s.browser s.engine.launches ≠ .ready) ∧
            (s.engine.IsHopeless s.settings s.browser →
              begun = [] ∧ result.2.engine.prints = s.engine.prints ∧
                ∃ plain, plain.fallback = false ∧
                  (s.convert (store.compose document direct time) direct quality).1 = .ok plain ∧
                  result.1 = .ok { plain with fallback := true }) ∧
            (s.engine.outlook s.settings s.browser = .ready →
              begun = [⟨0, s.engine.prints, s.next, Page.around svg, .a4Landscape⟩] ∧
                result.2.engine.prints = s.engine.prints + 1 ∧
                result.1 = (Conversion.printed (s.browser.print s.engine.prints (Page.around svg)
                  .a4Landscape).ending).map fun pdf => .paginated pdf options)) ∧
      ∀ events : List Event,
        let s := start.run studio events
        (∀ call ∈ s.finished, ∀ rendering, call.Stores rendering →
          let svg := studio.templates.compose call.document call.options
            rendering.metadata.generatedAt
          (call.options.format = .vector →
            Tells studio call.document call.options (.vector svg false) rendering) ∧
          (rendering.metadata.fallback = true →
            Tells studio call.document call.options
              { Conversion.vector svg false with fallback := true } rendering) ∧
          (rendering.format = .paginated →
            IsPrintOf studio.browser svg rendering.body
              (start.begunFor studio call.id events))) ∧
        ∀ event job, s.begins? event = some job → job.options.format = .paginated →
          s.IsHopeless studio → ∀ later,
            s.begunFor studio job.id (event :: later) = [] ∧
              (s.Misses job → ∀ outcome,
                (s.run studio (event :: later)).result? job.id = some outcome →
                (∀ ms, outcome ≠ .error (.timeout ms)) → ∃ rendering,
                  outcome = .ok rendering ∧
                    Tells studio job.document job.options
                      { Conversion.vector (studio.templates.compose job.document job.options
                          rendering.metadata.generatedAt) false with fallback := true }
                      rendering) := by
  have hstandIn (events : List Event) {call : Finished}
      (hcall : call ∈ (start.run studio events).finished) {rendering : Rendering}
      (hstores : call.Stores rendering) (hfallback : rendering.metadata.fallback = true) :
      Tells studio call.document call.options
        { Conversion.vector (studio.templates.compose call.document call.options
            rendering.metadata.generatedAt) false with fallback := true } rendering := by
    obtain ⟨htruthful, -⟩ := provenance_run hopen events
    obtain ⟨conversion, htells⟩ := htruthful.calls call hcall rendering hstores
    rw [htells.metadata.fallback] at hfallback
    exact htells.produced.eq_of_fallback hfallback ▸ htells
  refine ⟨fun store document options time format dpi encoding => rfl, ?_, fun events => ?_⟩
  · intro store document options time quality s hquiet hformat svg direct steps begun result
    have hengine : result.2.engine = s.engine.run s.settings s.browser steps :=
      Engine.Session.engine_convert hquiet hformat svg quality
    have hidle := Engine.not_isLaunching_of_not_busy hquiet.rest.idle
    refine ⟨hengine, Engine.ready_or_isHopeless _ _ _, Engine.isHopeless_iff hidle,
      fun hhopeless => ?_, fun hready => ?_⟩
    · obtain ⟨hbegun, hprints, -⟩ := Engine.operation_of_hopeless hquiet.rest hhopeless s.next
        (Page.around svg) .a4Landscape
      refine ⟨hbegun, hengine ▸ hprints, .vector svg false, rfl, rfl, ?_⟩
      exact Engine.Session.convert_of_hopeless hquiet hhopeless hformat svg quality
    · obtain ⟨hbegun, hprints, -⟩ := Engine.operation_of_ready hquiet.rest hready s.next
        (Page.around svg) .a4Landscape
      refine ⟨hbegun, hengine ▸ hprints, ?_⟩
      exact Engine.Session.convert_of_ready hquiet hready hformat svg quality
  · intro s
    have hsteady : s.Steady studio := (State.steady_of_openWith hopen).run events
    have hnumbered := hsteady.sound.numbered
    constructor
    · intro call hcall rendering hstores svg
      refine ⟨fun hvector => ?_, hstandIn events hcall hstores, fun hformat => ?_⟩
      · obtain ⟨htruthful, -⟩ := provenance_run hopen events
        obtain ⟨conversion, htells⟩ := htruthful.calls call hcall rendering hstores
        exact htells.produced.eq_of_vector hvector ▸ htells
      · have hhanded := State.handed_run hopen events call.id
        exact (hhanded.calls call hcall rfl rendering hstores hformat).print
    · intro event job hbegins hformat hhopeless later
      have horderly : s.engine.Orderly := by
        have hopened := (State.steady_of_openWith hopen).sound.numbered
        obtain ⟨-, governor, rfl⟩ := fresh_of_openWith hopen
        exact (State.run_moves hopened studio events).preserve Move.orderly Engine.orderly_fresh
      refine ⟨State.begunFor_of_hopeless hnumbered horderly hhopeless job.id _,
        fun hmisses outcome hresult htime => ?_⟩
      obtain ⟨rendering, rfl, hfallback, hfresh⟩ := State.fallback_of_hopeless hnumbered
        hsteady.sound.fitting hsteady.strangers horderly hhopeless hbegins hformat hmisses later
        hresult htime
      obtain ⟨call, hcall, hid, houtcome⟩ := State.mem_finished_of_result? hresult
      obtain ⟨hdocument, hoptions⟩ :=
        (State.concerning_of_begins studio hnumbered hbegins later).calls call hcall hid
      have hrun : s.run studio (event :: later) = start.run studio (events ++ event :: later) :=
        (State.run_append _ _).symm
      rw [hrun] at hcall
      have htells := hstandIn _ hcall ⟨houtcome, hfresh⟩ hfallback
      rw [hdocument, hoptions] at htells
      exact ⟨rendering, rfl, htells⟩

/-- No browser can be launched: the call is delivered the vector rendering, and says so. -/
theorem stand_ins_deliver_the_vector_rendering_without_a_browser :
    let document := Document.ofKind .businessModel
    let options := { RenderOptions.ofSettings {} with format := .paginated }
    let around : Surroundings := ⟨.missing, .missing, none, ⟨0, 0⟩⟩
    ∃ (studio : Studio) (start : State), openWith {} around = .ok (studio, start) ∧
      ∃ job, start.begins? (.arrive document options) = some job ∧ start.IsHopeless studio ∧
        start.Misses job ∧ start.begunFor studio job.id [.arrive document options, .settle] = [] ∧
          ∃ rendering, (start.run studio [.arrive document options, .settle]).result? job.id =
              some (.ok rendering) ∧
            Tells studio document options
              { Conversion.vector (studio.templates.compose document options
                  rendering.metadata.generatedAt) false with fallback := true } rendering := by
  intro document options around
  obtain ⟨studio, start, hopen, job, hbegins, hrequest, hhopeless, hmisses, rendering, hresult⟩ :
      ∃ (studio : Studio) (start : State), openWith {} around = .ok (studio, start) ∧
        ∃ job, start.begins? (.arrive document options) = some job ∧
          (job.document, job.options) = (document, options) ∧ start.IsHopeless studio ∧
            start.Misses job ∧ ∃ rendering, (start.run studio
              [.arrive document options, .settle]).result? job.id = some (.ok rendering) :=
    ⟨_, _, rfl, _, rfl, rfl, ⟨_, rfl⟩, State.misses_fresh _ _ _, _, rfl⟩
  obtain ⟨hdocument, hoptions⟩ := Prod.mk.inj hrequest
  have hformat : job.options.format = .paginated := by rw [hoptions]
  obtain ⟨-, -, hpress⟩ := stand_ins_deliver_the_vector_rendering hopen
  obtain ⟨-, hcalls⟩ := hpress []
  obtain ⟨hnothing, hdelivered⟩ := hcalls _ job hbegins hformat hhopeless [.settle]
  obtain ⟨_, houtcome, htells⟩ := hdelivered hmisses _ hresult (fun ms h => by cases h)
  cases houtcome
  rw [hdocument, hoptions] at htells
  exact ⟨studio, start, hopen, job, hbegins, hhopeless, hmisses, hnothing, rendering, hresult,
    htells⟩

end Press

end CanvasPress

/-
# Calls whose prints fail

A call for a printed document that has come to its print ends as the print does.  If that
fails, so does the call, for the same reason, unless it runs out of time before: nothing that
happens meanwhile, be it to the engine, has the call delivered markup or anything else.  This
is so because nobody has more than one dealing with the engine.
-/

import CanvasPress.Proofs.Engine.Misprints
import CanvasPress.Proofs.Press.Isolation

namespace CanvasPress.Press

variable {studio : Studio} {s s' : State} {job : Job} {fate : Fate} {id : Nat} {event : Event}
  {engine : Engine} {fault : Fault}

namespace State

/-! ## One dealing at most -/

/-- What the engine goes on with by itself is neither a request nor the leaving of somebody. -/
theorem ne_of_engineStep? {step : Engine.Step} (h : engineStep? event = some step) (who : Nat) :
    (∀ request, step ≠ .ask who request) ∧ step ≠ .leave who := by
  cases event <;> cases h <;> simp

/-- Nobody has more than one dealing with the engine. -/
def IsSingle (s : State) : Prop :=
  ∀ who, s.engine.dealings who ≤ 1

theorem isSingle_fresh (settings : Settings) (governor : Governor) :
    (fresh settings governor).IsSingle := by
  intro who
  change Engine.fresh.dealings who ≤ 1
  rw [Engine.dealings_of_not_concerns Engine.not_concerns_fresh]
  exact Nat.zero_le 1

theorem dealings_ask_le (h : s.IsSingle) (hstranger : ¬ s.engine.Concerns id) (now : Nat)
    (request : Engine.Request) (who : Nat) : (s.engine.ask now id request).dealings who ≤ 1 := by
  rw [Engine.dealings_ask]
  by_cases hsame : id = who
  · subst hsame
    rw [Engine.dealings_of_not_concerns hstranger, Engine.share_self]
  · rw [Engine.share_of_ne hsame]
    exact h who

/-- A call that begins asks the engine for the first time. -/
theorem isSingle_started (hstarted : s.Started studio job s') (h : s.IsSingle)
    (hstranger : ¬ s.engine.Concerns job.id) : s'.IsSingle := by
  intro who
  cases hstarted with
  | opens lines hfate =>
      rw [engine_fulfil]
      exact h who
  | asks lines hformat hstirred =>
      rw [engine_stirred hstirred]
      exact dealings_ask_le h hstranger _ _ who

theorem IsSingle.step (h : s.IsSingle) (hstrangers : s.Strangers) (studio : Studio)
    (event : Event) : (s.step studio event).IsSingle := by
  have hhappens := happens_step studio s event
  generalize s.step studio event = s' at hhappens ⊢
  have hleaves (caller who : Nat) : (s.engine.leave caller).dealings who ≤ 1 :=
    Nat.le_trans (Engine.dealings_leave_le caller who) (h who)
  cases hhappens with
  | admitted hvalid hgranted hstarted =>
      exact isSingle_started hstarted h (hstrangers.later _ (Nat.le_refl _))
  | @called job _ hjob hphase hpromised hstarted =>
      have hstranger := hstrangers.queued job (mem_of_job? hjob).1 hphase
      exact isSingle_started hstarted h hstranger
  | rasterized hjob hphase =>
      intro who
      rw [engine_fulfil]
      exact h who
  | saved lines filepath hjob hphase =>
      intro who
      rw [engine_fulfil]
      exact h who
  | expired hjob hlimit hphase =>
      intro who
      rw [engine_fulfil]
      exact hleaves _ who
  | left hjob => exact hleaves _
  | absent hjob => exact hleaves _
  | @stirred event step _ hstep hstirred =>
      intro who
      obtain ⟨hask, hleave⟩ := ne_of_engineStep? hstep who
      rw [engine_stirred hstirred, Engine.dealings_apply _ _ _ hask hleave]
      exact h who
  | asked hstirred =>
      intro who
      rw [engine_stirred hstirred]
      exact dealings_ask_le h (hstrangers.later _ (Nat.le_refl _)) _ _ who
  | held =>
      rw [hold_eq]
      exact h
  | _ => exact h

theorem IsSingle.run (h : s.IsSingle) (hsteady : s.Steady studio) (events : List Event) :
    (s.run studio events).IsSingle := by
  induction events generalizing s with
  | nil => exact h
  | cons event rest ih => exact ih (h.step hsteady.strangers studio event) (hsteady.step event)

/-! ## Calls that come to nothing -/

/-- The outcome of a call whose print fails. -/
def IsLost (fault : Fault) (outcome : Except Fault Rendering) : Prop :=
  outcome = .error fault ∨ ∃ ms, outcome = .error (.timeout ms)

/-- The call with a number waits for a print that fails, or it has ended so. -/
structure Doomed (studio : Studio) (fault : Fault) (s : State) (id : Nat) : Prop where
  given : id < s.nextId
  waits : ∀ job ∈ s.jobs, job.id = id → ∃ work, job.phase = .paginating work
  calls : ∀ call ∈ s.finished, call.id = id → IsLost fault call.outcome
  keeps : s.engine.Keeps (Engine.misprintTerms studio.browser fault) id

/-- The call has its turn in a way in which it is lost, or another call has. -/
theorem doomed_fulfil (h : s.Doomed studio fault id)
    (hmine : job.id = id → ∃ reason, fate = .failed reason ∧ IsLost fault (.error reason)) :
    (s.fulfil job fate).Doomed studio fault id := by
  rcases fate.waits_or_ends s job with ⟨phase, rfl⟩ | ⟨outcome, houtcome⟩
  · have hother : job.id ≠ id := by
      intro hid
      obtain ⟨reason, hfate, -⟩ := hmine hid
      cases hfate
    refine ⟨h.given, fun other hmem hid => ?_, h.calls, h.keeps⟩
    rcases mem_jobs_wait hmem with rfl | ⟨hmem, -⟩
    · exact absurd hid hother
    · exact h.waits other hmem hid
  · have hends := releases_fulfil houtcome
    refine ⟨hends.nextId ▸ h.given, fun other hmem hid => ?_, fun call hcall hid => ?_,
      hends.engine ▸ h.keeps⟩
    · rw [hends.jobs, mem_othersThan] at hmem
      exact h.waits other hmem.1 hid
    · rw [hends.finished] at hcall
      rcases List.mem_cons.1 hcall with rfl | hcall
      · obtain ⟨reason, rfl, hlost⟩ := hmine hid
        cases houtcome
        exact hlost
      · exact h.calls call hcall hid

namespace Doomed

theorem congr (h : s.Doomed studio fault id) (hnext : s.nextId ≤ s'.nextId)
    (hjobs : ∀ job ∈ s'.jobs, job.id = id → job ∈ s.jobs)
    (hfinished : ∀ call ∈ s'.finished, call.id = id → call ∈ s.finished)
    (hkeeps : s'.engine.Keeps (Engine.misprintTerms studio.browser fault) id) :
    s'.Doomed studio fault id where
  given := Nat.lt_of_lt_of_le h.given hnext
  waits job hjob hid := h.waits job (hjobs job hjob hid) hid
  calls call hcall hid := h.calls call (hfinished call hcall hid) hid
  keeps := hkeeps

/-- The engine takes a step that the call has not asked for. -/
theorem stirred (hstirred : s.Stirred studio engine s') (h : s.Doomed studio fault id)
    (hkeeps : engine.Keeps (Engine.misprintTerms studio.browser fault) id) :
    s'.Doomed studio fault id := by
  have hmid (lines : List LogLine) :
      (({ s with engine := engine } : State).report lines).Doomed studio fault id :=
    ⟨h.given, h.waits, h.calls, hkeeps⟩
  cases hstirred with
  | unheard lines => exact hmid lines
  | heard lines hjob hphase hreplies hgrounds hconverted =>
      refine doomed_fulfil (hmid lines) fun hid => ?_
      -- All that the call can have been told is how its print has failed.
      obtain rfl := hkeeps.answered _ (by rw [hreplies, hid]; exact List.mem_cons_self)
      cases hconverted
      exact ⟨fault, rfl, .inl rfl⟩

/-- Another call begins to work. -/
theorem started (hstarted : s.Started studio job s') (h : s.Doomed studio fault id)
    (hne : job.id ≠ id) : s'.Doomed studio fault id := by
  have fair := Engine.areFair_misprintTerms studio.browser fault id fun _ => True
  have hsearched (lines : List LogLine) : (s.searched job lines).Doomed studio fault id :=
    ⟨h.given, h.waits, h.calls, h.keeps⟩
  cases hstarted with
  | opens lines hfate => exact doomed_fulfil (hsearched lines) fun hid => absurd hid hne
  | asks lines hformat hstirred =>
      have hwaits : ((s.searched job lines).fulfil job
          (.waits (.paginating (s.workFor studio job)))).Doomed studio fault id :=
        doomed_fulfil (hsearched lines) fun hid => absurd hid hne
      exact hwaits.stirred hstirred
        (h.keeps.ask fair (.inr trivial) (fun hid => absurd hid hne) s.now)

theorem reject (h : s.Doomed studio fault id) (document : Document) (options : RenderOptions)
    (cause : Fault) : (s.reject document options cause).Doomed studio fault id := by
  refine h.congr (Nat.le_succ _) (fun _ hjob _ => hjob) (fun call hcall hid => ?_) h.keeps
  rcases List.mem_cons.1 hcall with rfl | hcall
  · exact absurd hid (Nat.ne_of_gt h.given)
  · exact hcall

theorem entered (h : s.Doomed studio fault id) (document : Document) (options : RenderOptions) :
    (s.entered document options).Doomed studio fault id := by
  refine h.congr (Nat.le_succ _) (fun job hjob hid => ?_) (fun _ hcall _ => hcall) h.keeps
  rcases List.mem_append.1 hjob with hjob | hjob
  · exact hjob
  · cases List.mem_singleton.1 hjob
    exact absurd hid (Nat.ne_of_gt h.given)

/-- Whatever happens, the call is lost. -/
theorem step (h : s.Doomed studio fault id) (event : Event) :
    (s.step studio event).Doomed studio fault id := by
  have fair := Engine.areFair_misprintTerms studio.browser fault id fun _ => True
  have hhappens := happens_step studio s event
  generalize s.step studio event = s' at hhappens ⊢
  have hwaits {job : Job} (hjob : s.job? job.id = some job)
      (hphase : ∀ work, job.phase ≠ .paginating work) : job.id ≠ id := by
    intro hid
    obtain ⟨work, hprints⟩ := h.waits job (mem_of_job? hjob).1 hid
    exact hphase work hprints
  have hgoverned (governor : Governor) :
      ({ s with governor := governor } : State).Doomed studio fault id :=
    ⟨h.given, h.waits, h.calls, h.keeps⟩
  cases hhappens with
  | idle => exact h
  | invalid hinvalid => exact h.reject _ _ _
  | refused hvalid hrefused => exact (hgoverned _).reject _ _ _
  | @queued document options lines hvalid hqueued =>
      have hlisted := h.entered document options
      exact ⟨hlisted.given, hlisted.waits, hlisted.calls, hlisted.keeps⟩
  | @admitted document options _ hvalid hgranted hstarted =>
      exact (h.entered document options).started hstarted (Nat.ne_of_gt h.given)
  | @called job _ hjob hphase hpromised hstarted =>
      have hne : job.id ≠ id := hwaits hjob fun work hprints => by
        rw [hphase] at hprints
        cases hprints
      exact (hgoverned _).started hstarted hne
  | rasterized hjob hphase =>
      refine doomed_fulfil h fun hid => absurd hid (hwaits hjob fun work hprints => ?_)
      rw [hphase] at hprints
      cases hprints
  | saved lines filepath hjob hphase =>
      have hreported : (s.report lines).Doomed studio fault id :=
        ⟨h.given, h.waits, h.calls, h.keeps⟩
      refine doomed_fulfil hreported fun hid => absurd hid (hwaits hjob fun work hprints => ?_)
      rw [hphase] at hprints
      cases hprints
  | @expired job ms hjob hlimit hphase =>
      have hleft : ({ s with engine := s.engine.leave job.id } : State).Doomed studio fault id :=
        ⟨h.given, h.waits, h.calls, h.keeps.leave _⟩
      exact doomed_fulfil hleft fun _ => ⟨.timeout ms, rfl, .inr ⟨ms, rfl⟩⟩
  | left hjob =>
      exact h.congr (Nat.le_refl _) (fun _ hjob _ => (mem_othersThan.1 hjob).1)
        (fun _ hcall _ => hcall) (h.keeps.leave _)
  | absent hjob => exact ⟨h.given, h.waits, h.calls, h.keeps.leave _⟩
  | @stirred event step _ hstep hstirred =>
      obtain ⟨hask, -⟩ := ne_of_engineStep? hstep id
      exact h.stirred hstirred (h.keeps.apply fair (.inr trivial) (fun _ _ => trivial) s.now hask)
  | asked hstirred =>
      have hnumber : ({ s with nextId := s.nextId + 1 } : State).Doomed studio fault id :=
        ⟨Nat.lt_succ_of_lt h.given, h.waits, h.calls, h.keeps⟩
      exact hnumber.stirred hstirred (h.keeps.ask fair (.inr trivial)
        (fun hid => absurd hid (Nat.ne_of_gt h.given)) s.now)
  | held =>
      rw [hold_eq]
      exact hgoverned _
  | _ => exact ⟨h.given, h.waits, h.calls, h.keeps⟩

theorem run (h : s.Doomed studio fault id) (events : List Event) :
    (s.run studio events).Doomed studio fault id := by
  induction events generalizing s with
  | nil => exact h
  | cons event rest ih => exact ih (h.step event)

end Doomed

/-- A call whose print is under way and fails is doomed. -/
theorem doomed_of_printing (hs : s.Numbered) (hsingle : s.IsSingle) (hjob : job ∈ s.jobs)
    {work : Work} (hphase : job.phase = .paginating work) {p : Engine.Printing}
    (hp : p ∈ s.engine.printing) (hcaller : p.caller = job.id)
    (hresult : p.result studio.browser = .error fault) : s.Doomed studio fault job.id where
  given := hs.jobs job hjob
  waits other hother hid := by
    rw [List.inj_on_of_nodup_map hs.distinct hother hjob hid]
    exact ⟨work, hphase⟩
  calls call hcall hid := absurd hid (hs.apart job hjob call hcall)
  keeps := Engine.keeps_misprintTerms (hsingle job.id) hp hcaller hresult

theorem Closes.result? {outcome : Except Fault Rendering} (h : s.Closes s' job outcome) :
    s'.result? job.id = some outcome := by
  have hmine : ((s.ending job outcome).id == job.id) = true := beq_iff_eq.2 rfl
  simp only [State.result?, h.finished, List.find?_cons, hmine, Option.map_some]
  rfl

/-- When the print ends, so does the call, and the engine is as it was but for the print. -/
theorem endPrint_of_failing (hs : s.Numbered) (hsingle : s.IsSingle) (hjob : job ∈ s.jobs)
    {work : Work} (hphase : job.phase = .paginating work) {p : Engine.Printing}
    (hp : p ∈ s.engine.printing) (hcaller : p.caller = job.id)
    (hresult : p.result studio.browser = .error fault) :
    (s.step studio (.endPrint job.id)).result? job.id = some (.error fault) ∧
      (s.step studio (.endPrint job.id)).engine =
        ({ s.engine with printing := s.engine.printing.erase p } : Engine).reply job.id
          (.misprinted fault) := by
  obtain ⟨-, -, honly, -⟩ := Engine.only_print_of_dealings_le_one (hsingle job.id) hp hcaller
  have hfind : (s.engine.printing.find? fun p => p.caller == job.id) = some p :=
    find?_of_unique hp (beq_iff_eq.2 hcaller) fun other hother hsame =>
      honly other hother (beq_iff_eq.1 hsame)
  generalize hafter : ({ s.engine with printing := s.engine.printing.erase p } :
    Engine).reply job.id (.misprinted fault) = after
  have hend : s.engine.endPrint studio.browser job.id = after :=
    (Engine.endPrint_of_error hfind hresult).trans hafter
  have hanswer : (after.replies.take (after.replies.length - s.engine.replies.length)).reverse =
      [(job.id, .misprinted fault)] := by
    simp [← hafter, Engine.reply]
  have hlisted : s.job? job.id = some job := job?_of_mem hs hjob
  have hstep : s.step studio (.endPrint job.id) =
      (({ s with engine := after } : State).report []).finish job (.error fault) := by
    have htold : (({ s with engine := after } : State).report []).job? job.id = some job := hlisted
    simp only [step, State.endPrint, withEngine, hend, hanswer, List.foldl_cons, List.foldl_nil,
      passOn, htold, hphase, answered, converted]
  rw [hstep]
  have hends := closes_finish (({ s with engine := after } : State).report []) job (.error fault)
  exact ⟨hends.result?, hends.engine⟩

end State

/-! ## The theorem -/

/-- **A running engine that fails to print fails the conversion, and runs on.**

* Whatever a call to print reports that does not return a document, it is a failed conversion.
  It is one into a printed document, and says so, unless the browser itself blames the
  conversion into a raster picture.
* An engine that runs and is free takes such a print in its stride, whatever others do
  meanwhile.
* In a session at rest whose engine runs, a print, a printed picture and a conversion into a
  printed document fail for that reason and are not replaced by markup.
* In an opened press a call whose print is under way and fails ends so when the print ends, and
  the engine is as it was but for the print.  Whatever happens otherwise, it has no other
  result but that it has run out of time. -/
theorem failing_prints_fail_their_calls {settings : Settings} {around : Surroundings}
    {start : State} (hopen : openWith settings around = .ok (studio, start)) :
    (∀ ending : Ending ByteArray, ending.Fails → ∃ fault,
        Conversion.printed ending = .error fault ∧ fault.IsMisprint ending.BlamesRaster) ∧
      (∀ (limits : LaunchSettings) (browser : Browser) (e : Engine) (who : Nat) (html : String)
          (page : PageSize) (fault : Fault),
        e.isIdle = true → e.status = .ready → ¬ e.Concerns who →
        Conversion.printed (browser.print e.prints html page).ending = .error fault →
          e.RunsOn limits browser who html page fault) ∧
      (∀ s : Engine.Session, s.Quiet → s.engine.status = .ready →
        (∀ html page fault,
          Conversion.printed (s.browser.print s.engine.prints html page).ending = .error fault →
            (s.printBytes html page).1 = .error fault ∧
              (s.printBytes html page).2.engine =
                ({ s.engine with prints := s.engine.prints + 1 } : Engine).reply s.next
                  (.misprinted fault)) ∧
          ∀ svg fault, Conversion.printed (s.browser.print s.engine.prints (Page.around svg)
              .a4Landscape).ending = .error fault →
            let after := (s.printBytes (Page.around svg) .a4Landscape).2
            s.paginateBytes svg = (.error fault, after) ∧
              ∀ options : RenderOptions, options.format = .paginated →
                ∀ quality, s.convert svg options quality = (.error fault, after)) ∧
      ∀ (events : List Event) (s : State), start.run studio events = s →
        ∀ job ∈ s.jobs, ∀ work, job.phase = .paginating work →
        ∀ p ∈ s.engine.printing, p.caller = job.id →
        ∀ fault, p.result studio.browser = .error fault →
          ((s.step studio (.endPrint job.id)).result? job.id = some (.error fault) ∧
            (s.step studio (.endPrint job.id)).engine =
              ({ s.engine with printing := s.engine.printing.erase p } : Engine).reply job.id
                (.misprinted fault)) ∧
          ∀ later outcome, (s.run studio later).result? job.id = some outcome →
            State.IsLost fault outcome := by
  refine ⟨fun ending hfails => ?_,
    fun limits browser e who html page fault hidle hready hstranger hresult =>
      Engine.runsOn_of_failing hidle hready hstranger hresult, fun s hquiet hready => ?_, ?_⟩
  · obtain ⟨fault, hprinted⟩ := Conversion.printed_of_fails hfails
    exact ⟨fault, hprinted, Conversion.isMisprint_of_printed hprinted⟩
  · refine ⟨fun html page fault hresult =>
      Engine.Session.print_of_failing hquiet hready hresult, fun svg fault hresult => ?_⟩
    exact ⟨Engine.Session.paginate_of_failing hquiet hready hresult, fun options hformat quality =>
      Engine.Session.convert_of_failing hformat hquiet hready hresult quality⟩
  · rintro events s rfl job hjob work hphase p hp hcaller fault hresult
    have hopened := State.steady_of_openWith hopen
    obtain ⟨-, governor, hfresh⟩ := fresh_of_openWith hopen
    have hs := (hopened.sound.run events).numbered
    have hsingle : (start.run studio events).IsSingle :=
      (hfresh ▸ State.isSingle_fresh settings governor : start.IsSingle).run hopened events
    refine ⟨State.endPrint_of_failing hs hsingle hjob hphase hp hcaller hresult,
      fun later outcome hlater => ?_⟩
    have hdoomed := State.doomed_of_printing hs hsingle hjob hphase hp hcaller hresult
    obtain ⟨call, hcall, hid, rfl⟩ := State.mem_finished_of_result? hlater
    exact (hdoomed.run later).calls call hcall hid

/-- The print dies: the call fails with it, and the browser stays open. -/
theorem failing_prints_fail_their_calls_after_crash :
    let browser : Browser := { Browser.obliging with print := fun _ _ _ => ⟨0, .panicked "gone"⟩ }
    let options : RenderOptions := { RenderOptions.ofSettings {} with format := .paginated }
    let around : Surroundings := ⟨browser, .missing, none, ⟨0, 0⟩⟩
    let fault := Fault.conversion .pdf (abortReport "print" "gone")
    ∃ (studio : Studio) (start : State), openWith {} around = .ok (studio, start) ∧
      let s := start.run studio [.arrive (.ofKind .businessModel) options, .settle]
      let last := s.step studio (.endPrint 0)
      s.engine.status = .ready ∧ last.result? 0 = some (.error fault) ∧
        last.engine.status = .ready ∧ last.engine.closes = s.engine.closes ∧
        last.engine.printed = s.engine.printed := by
  intro browser options around fault
  have hopen : openWith {} around = .ok _ := rfl
  refine ⟨_, _, hopen, ?_⟩
  intro s last
  obtain ⟨job, work, hjob, hid, hphase⟩ :
      ∃ job work, job ∈ s.jobs ∧ job.id = 0 ∧ job.phase = .paginating work :=
    ⟨_, _, List.mem_cons_self, rfl, rfl⟩
  obtain ⟨p, hp, hcaller, hfails⟩ :
      ∃ p ∈ s.engine.printing, p.caller = 0 ∧ p.result browser = .error fault :=
    ⟨_, List.mem_cons_self, rfl, rfl⟩
  have hrunning : s.engine.status = .ready := rfl
  obtain ⟨-, -, -, hpress⟩ := failing_prints_fail_their_calls hopen
  obtain ⟨⟨hresult, hengine⟩, -⟩ := hpress _ s rfl job hjob work hphase p hp
    (hcaller.trans hid.symm) fault hfails
  rw [hid] at hresult hengine
  clear_value s
  refine ⟨hrunning, hresult, ?_⟩
  change (s.step _ (.endPrint 0)).engine.status = _ ∧ (s.step _ (.endPrint 0)).engine.closes = _ ∧
    (s.step _ (.endPrint 0)).engine.printed = _
  rw [hengine]
  exact ⟨hrunning, rfl, rfl⟩

/-- A browser that blames the conversion into a raster picture is believed. -/
theorem not_every_misprint_names_the_page :
    let blame := Fault.conversion .raster "no chrome"
    let browser : Browser := { Browser.obliging with print := fun _ _ _ => ⟨0, .failed blame⟩ }
    let s := ((Engine.Session.start {} browser).call .obtain).2
    s.engine.status = .ready ∧ (s.printBytes "<html></html>" .a4Landscape).1 = .error blame ∧
      ¬ ∃ text, blame = .conversion .pdf text := by
  refine ⟨rfl, rfl, ?_⟩
  rintro ⟨text, hpdf⟩
  cases hpdf

end CanvasPress.Press

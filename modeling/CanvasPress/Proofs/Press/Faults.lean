/-
# How renderings fail

Whatever the engine reports, however its browser behaves and whatever happens to whoever
paints, a rendering fails in one of four ways, and each of them is something that its caller
has asked for or that the settings provide for.  A call whose caller is patient returns.
-/

import CanvasPress.Proofs.Press.Drive
import CanvasPress.Proofs.Press.Failures
import CanvasPress.Proofs.Press.Lookup

namespace CanvasPress.Press

variable {studio : Studio} {s : State} {settings : Settings} {options : RenderOptions}
  {outcome : Except Fault Rendering}

/-- The faults with which a rendering may fail, given the settings of the press and the
options of the call. -/
def MayFailWith (settings : Settings) (options : RenderOptions) : Fault → Prop
  | .config cause => options.validate = .error cause
  | .queueFull waiting limit => settings.maxQueueDepth = some limit ∧ limit ≤ waiting
  | .timeout ms => settings.renderTimeoutMs = some ms
  | .conversion _ _ => options.format = .raster ∨ options.format = .paginated
  | .launch _ => False
  | .engineUnavailable _ => False
  | .file _ => False
  | .decoding _ => False
  | .other _ => False

/-- A rendering is refused for its options exactly if they are invalid, and fails in no
other way than it may. -/
structure Accountable (settings : Settings) (options : RenderOptions)
    (outcome : Except Fault Rendering) : Prop where
  invalid : ∀ cause, outcome = .error (.config cause) ↔ options.validate = .error cause
  faults : ∀ fault, outcome = .error fault → MayFailWith settings options fault

theorem Justified.accountable (h : Justified settings options outcome) :
    Accountable settings options outcome := by
  cases h with
  | returned rendering hvalid =>
      exact ⟨fun cause => by simp [hvalid], fun fault hfault => by cases hfault⟩
  | @invalid cause hinvalid =>
      refine ⟨fun other => by simp [hinvalid], fun fault hfault => ?_⟩
      cases hfault
      exact hinvalid
  | full hvalid hlimit hfull =>
      refine ⟨fun cause => by simp [hvalid], fun fault hfault => ?_⟩
      cases hfault
      exact ⟨hlimit, hfull⟩
  | failed hvalid hearned =>
      refine ⟨fun cause => ?_, fun fault hfault => ?_⟩
      · cases hearned <;> simp [hvalid]
      · cases hfault
        cases hearned with
        | unconverted stage text hformat => exact hformat
        | late hlimit => exact hlimit

/-- Every call on record that was not there before has ended for a reason. -/
theorem State.accountable_run (hs : s.Sound studio) (hnobody : s.finished = [])
    (events : List Event) : ∀ call ∈ (s.run studio events).finished,
      Accountable studio.settings call.options call.outcome := by
  obtain ⟨ended, hbooks⟩ := Books.run hs events
  intro call hcall
  rw [hbooks.finished, hnobody, List.append_nil] at hcall
  exact (hbooks.justified call hcall).accountable

/-! ## Whose call it is -/

namespace State

/-- The call with a number is for a document with options, be it in progress or on
record. -/
structure Concerning (s : State) (id : Nat) (document : Document) (options : RenderOptions) :
    Prop where
  given : id < s.nextId
  jobs : ∀ job ∈ s.jobs, job.id = id → job.document = document ∧ job.options = options
  calls : ∀ call ∈ s.finished, call.id = id → call.document = document ∧ call.options = options

variable {s' : State} {job known : Job} {id : Nat} {document : Document}

theorem Concerning.congr (h : s.Concerning id document options) (hnext : s.nextId ≤ s'.nextId)
    (hjobs : ∀ job ∈ s'.jobs, job.id = id → job ∈ s.jobs)
    (hfinished : ∀ call ∈ s'.finished, call.id = id → call ∈ s.finished) :
    s'.Concerning id document options where
  given := Nat.lt_of_lt_of_le h.given hnext
  jobs job hjob hid := h.jobs job (hjobs job hjob hid) hid
  calls call hcall hid := h.calls call (hfinished call hcall hid) hid

theorem Concerning.of_knows (h : s.Concerning id document options) (hknows : s.Knows job known)
    (hid : job.id = id) : job.document = document ∧ job.options = options := by
  obtain ⟨hmem, hlisted⟩ := mem_of_job? hknows.listed
  rw [← hknows.document, ← hknows.options]
  exact h.jobs known hmem (hlisted.trans hid)

theorem Concerning.wait (h : s.Concerning id document options) (hknows : s.Knows job known)
    (phase : Phase) : (s.wait job phase).Concerning id document options where
  given := h.given
  jobs other hother hid := by
    rcases mem_jobs_wait hother with rfl | ⟨hmem, -⟩
    · have hmine : job.document = document ∧ job.options = options := h.of_knows hknows hid
      exact hmine
    · exact h.jobs other hmem hid
  calls := h.calls

theorem Concerning.ends {outcome : Except Fault Rendering} (h : s.Concerning id document options)
    (hknows : s.Knows job known) (hcloses : s.Closes s' job outcome) :
    s'.Concerning id document options where
  given := hcloses.nextId ▸ h.given
  jobs other hother hid := by
    rw [hcloses.jobs, mem_othersThan] at hother
    exact h.jobs other hother.1 hid
  calls call hcall hid := by
    rw [hcloses.finished] at hcall
    rcases List.mem_cons.1 hcall with rfl | hcall
    · exact h.of_knows hknows hid
    · exact h.calls call hcall hid

end State

section Moves

variable {s' : State} {marks : List Mark} {id : Nat} {document : Document}

/-- No move passes a call on to somebody else. -/
theorem Move.concerning (h : Move studio s marks s') (hs : s.Concerning id document options) :
    s'.Concerning id document options := by
  cases h with
  | number => exact hs.congr (Nat.le_succ _) (fun _ hjob _ => hjob) fun _ hcall _ => hcall
  | reject other others fault =>
      refine hs.congr (Nat.le_succ _) (fun _ hjob _ => hjob) fun call hcall hid => ?_
      rcases List.mem_cons.1 hcall with rfl | hcall
      · exact absurd hid (Nat.ne_of_gt hs.given)
      · exact hcall
  | enter ticket other others =>
      refine hs.congr (Nat.le_succ _) (fun job hjob hid => ?_) fun _ hcall _ => hcall
      rcases List.mem_append.1 hjob with hjob | hjob
      · exact hjob
      · cases List.mem_singleton.1 hjob
        exact absurd hid (Nat.ne_of_gt hs.given)
  | drop other =>
      exact hs.congr (Nat.le_refl _) (fun _ hjob _ => (State.mem_othersThan.1 hjob).1)
        fun _ hcall _ => hcall
  | rasterize ends hknows => exact hs.wait hknows _
  | paginate hknows => exact hs.wait hknows _
  | save ends hknows => exact hs.wait hknows _
  | hit hknows => exact hs.ends hknows (State.closes_hit _ _ _)
  | deliver filepath hknows => exact hs.ends hknows (State.closes_deliver _ _ _ _ _)
  | fail hknows => exact hs.ends hknows (State.closes_finish _ _ _)
  | expire ms hknows => exact hs.ends hknows (State.closes_finish _ _ _)
  | _ => exact hs.congr (Nat.le_refl _) (fun _ hjob _ => hjob) fun _ hcall _ => hcall

end Moves

namespace State

variable {job : Job} {id : Nat} {document : Document}

theorem Concerning.run (h : s.Concerning id document options) (hs : s.Numbered) (studio : Studio)
    (events : List Event) : (s.run studio events).Concerning id document options :=
  (run_moves hs studio events).preserve Move.concerning h

/-- A call that arrives is for the document and with the options that it came with. -/
theorem concerning_arrive (hs : s.Numbered) (studio : Studio) (document : Document)
    (options : RenderOptions) :
    (s.step studio (.arrive document options)).Concerning s.nextId document options := by
  have hnojob {job : Job} (hjob : job ∈ s.jobs) (hid : job.id = s.nextId) : False :=
    Nat.ne_of_lt (hs.jobs job hjob) hid
  have hnocall {call : Finished} (hcall : call ∈ s.finished) (hid : call.id = s.nextId) : False :=
    Nat.ne_of_lt (hs.finished call hcall) hid
  have hentered : (s.entered document options).Concerning s.nextId document options := by
    refine ⟨Nat.lt_succ_self _, fun job hjob hid => ?_,
      fun call hcall hid => (hnocall hcall hid).elim⟩
    rcases List.mem_append.1 hjob with hjob | hjob
    · exact (hnojob hjob hid).elim
    · rw [List.mem_singleton.1 hjob]
      exact ⟨rfl, rfl⟩
  have hrejected (fault : Fault) :
      (s.reject document options fault).Concerning s.nextId document options := by
    refine ⟨Nat.lt_succ_self _, fun job hjob hid => (hnojob hjob hid).elim,
      fun call hcall hid => ?_⟩
    rcases List.mem_cons.1 hcall with rfl | hcall
    · exact ⟨rfl, rfl⟩
    · exact (hnocall hcall hid).elim
  change (s.arrive studio document options).Concerning s.nextId document options
  unfold arrive
  split
  next => exact hrejected _
  next =>
    dsimp only
    split
    next =>
      exact (hrejected _).congr (Nat.le_refl _) (fun _ hjob _ => hjob) fun _ hcall _ => hcall
    next => exact hentered.congr (Nat.le_refl _) (fun _ hjob _ => hjob) fun _ hcall _ => hcall
    next =>
      exact (leads_begin (hs.entered studio document options).jobs
        (show (s.entered document options).Knows _ _ from ⟨job?_enter hs.jobs rfl, rfl, rfl⟩)
        rfl).preserve Move.concerning hentered

/-- A call that begins is on record as what it is, whatever happens later. -/
theorem concerning_of_begins (studio : Studio) (hnumbered : s.Numbered) {event : Event}
    (hbegins : s.begins? event = some job) (later : List Event) :
    (s.run studio (event :: later)).Concerning job.id job.document job.options := by
  obtain ⟨mid, hmoves, -, -, -, -, hknows, hphase, hstep⟩ :=
    step_of_begins studio hnumbered.jobs hbegins
  have hmidNumbered := hmoves.preserve Move.numbered hnumbered
  have hmid : mid.Concerning job.id job.document job.options := by
    refine ⟨hknows.id_lt hmidNumbered.jobs, fun other hother hid => ?_,
      fun call hcall hid => absurd hid (hmidNumbered.not_mem_finished hknows hcall)⟩
    rw [hmidNumbered.eq_known hknows hother hid]
    exact ⟨rfl, rfl⟩
  have hled : Leads studio mid (s.step studio event) :=
    hstep ▸ leads_begin hmidNumbered.jobs hknows hphase
  exact (hled.preserve Move.concerning hmid).run (hnumbered.step event) studio later

/-- A rendering is a run that begins with the arrival of its call, and what it returns is the
result of a call for the same document with the same options. -/
theorem exists_call_of_render (hs : s.Numbered) {document : Document} {options : RenderOptions}
    {patience : Option Nat} {outcome : Except Fault Rendering}
    (hreturns : (s.render studio document options patience).1 = some outcome) :
    ∃ later, (s.render studio document options patience).2 =
        s.run studio (.arrive document options :: later) ∧
      ∃ call ∈ (s.render studio document options patience).2.finished,
        call.document = document ∧ call.options = options ∧ call.outcome = outcome := by
  obtain ⟨later, hlast, hresult⟩ := run_of_render hs hreturns
  obtain ⟨call, hcall, hid, houtcome⟩ := mem_finished_of_result? hresult
  have hmine := (concerning_arrive hs studio document options).run (hs.step _) studio later
  obtain ⟨hdocument, hoptions⟩ := hmine.calls call (hlast ▸ hcall) hid
  exact ⟨later, hlast, call, hcall, hdocument, hoptions, houtcome⟩

/-- What a rendering returns, it may return. -/
theorem accountable_render {start : State} (hstart : start.Sound studio)
    (hnobody : start.finished = []) (events : List Event) {document : Document}
    {options : RenderOptions} {patience : Option Nat} {outcome : Except Fault Rendering}
    (hreturns : ((start.run studio events).render studio document options patience).1 =
      some outcome) : Accountable studio.settings options outcome := by
  have hs := hstart.run events
  obtain ⟨later, hlast, call, hcall, -, rfl, rfl⟩ := exists_call_of_render hs.numbered hreturns
  have hall := accountable_run hstart hnobody (events ++ .arrive document call.options :: later)
  rw [run_append] at hall
  exact hall call (hlast ▸ hcall)

/-- A call with invalid options is refused at once. -/
theorem result?_arrive_of_invalid {cause : ConfigFault} (hinvalid : options.validate = .error cause)
    (studio : Studio) (s : State) (document : Document) :
    (s.step studio (.arrive document options)).result? s.nextId =
      some (.error (.config cause)) := by
  have harrived : s.step studio (.arrive document options) =
      s.reject document options (.config cause) := by
    simp only [step, arrive, hinvalid]
  rw [harrived]
  simp [result?, reject]

/-- A rendering with invalid options returns at once. -/
theorem render_of_invalid (hs : s.Numbered) {cause : ConfigFault}
    (hinvalid : options.validate = .error cause) (patience : Option Nat) :
    (s.render studio document options patience).1 = some (.error (.config cause)) := by
  obtain ⟨last, ⟨events, rfl⟩, hreturns, -⟩ := reaches_render studio s document options patience
  rw [hreturns]
  exact (run_moves (hs.step _) studio events).result? (hs.step _)
    (result?_arrive_of_invalid hinvalid studio s document)

end State

/-! ## The theorem -/

/-- How renderings fail.  For every run of an opened press, with whatever templates, whatever
browser behind its engine and whoever paints its pictures:

* Every call that has ended was refused for its options if and only if they are invalid,
  was refused for the queue only if that is limited, is out of time only if there is a limit
  and then with that limit, and has failed in its conversion only if it wanted a picture or
  a printed document; it has failed in no other way.  The same holds of what rendering a
  document returns.
* A call for markup that had its slot is out of time if it has failed.
* Rendering a document with invalid options returns what is wrong with them, and with other
  options it returns something if its caller is patient, unless all slots are held apart
  from the calls of the press. -/
theorem faults_of_rendering {settings : Settings} {around : Surroundings} {start : State}
    (hopen : openWith settings around = .ok (studio, start)) (events : List Event) :
    let s := start.run studio events
    (∀ call ∈ s.finished, Accountable settings call.options call.outcome) ∧
      (∀ document options patience outcome,
        (s.render studio document options patience).1 = some outcome →
          Accountable settings options outcome) ∧
      (∀ call ∈ s.finished, call.options.format = .vector →
        call.id ∈ (start.begun studio events).map Job.id →
          ∀ fault, call.outcome = .error fault →
            ∃ ms, fault = .timeout ms ∧ settings.renderTimeoutMs = some ms) ∧
      (∀ document options patience cause, options.validate = .error cause →
        (s.render studio document options patience).1 = some (.error (.config cause))) ∧
      (s.outsiders.length < s.governor.capacity → ∀ document options,
        (s.render studio document options none).1.isSome = true) := by
  intro s
  have hsteady := State.steady_of_openWith hopen
  have hopened := hsteady.sound
  obtain ⟨hslotted, hnobody⟩ := State.slotted_of_openWith hopen
  have hsettings : studio.settings = settings := (fresh_of_openWith hopen).1
  have hall : ∀ call ∈ s.finished, Accountable settings call.options call.outcome :=
    hsettings ▸ State.accountable_run hopened hnobody events
  refine ⟨hall, fun document options patience outcome hreturns => ?_,
    fun call hcall hformat hbegun fault hfault => ?_,
    fun document options patience cause hinvalid => ?_,
    fun hroom document options => State.isSome_render (hsteady.run events) hroom document options⟩
  · exact hsettings ▸ State.accountable_render hopened hnobody events hreturns
  · have hmay := (hall call hcall).faults fault hfault
    -- A call that had its slot was not refused.
    have hserved := ((hslotted.run hopened events).ended call hcall).2 hbegun
    have hnot := mt (Finished.isRefused_iff hfault).2 (by simp [hserved])
    cases fault with
    | timeout ms => exact ⟨ms, rfl, hmay⟩
    | config cause => exact absurd (.inl ⟨cause, rfl⟩) hnot
    | queueFull waiting limit => exact absurd (.inr ⟨waiting, limit, rfl⟩) hnot
    | conversion stage text => simp [MayFailWith, hformat] at hmay
    | _ => exact hmay.elim
  · exact State.render_of_invalid (hopened.run events).numbered hinvalid patience

/-- A picture without a width is refused; with one, a patient caller gets an answer. -/
theorem faults_of_rendering_of_flat_picture :
    let document := Document.ofKind .businessModel
    let options := RenderOptions.ofSettings {}
    let around : Surroundings := ⟨.obliging, .missing, none, ⟨0, 0⟩⟩
    ∃ (studio : Studio) (start : State), openWith {} around = .ok (studio, start) ∧
      (start.render studio document { options with width := 0 } none).1 =
        some (.error (.config (.emptySize 0 800))) ∧
      start.outsiders.length < start.governor.capacity ∧
      (start.render studio document options none).1.isSome = true := by
  intro document options around
  refine ⟨_, _, rfl, ?_⟩
  obtain ⟨-, -, -, hrefused, hreturns⟩ :=
    faults_of_rendering (show openWith {} around = .ok _ from rfl) []
  have hroom := show 0 < 3 by decide
  exact ⟨hrefused document { options with width := 0 } none _ rfl, hroom,
    hreturns hroom document options⟩

end CanvasPress.Press

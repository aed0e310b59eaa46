/-
# Which commands work, and with what

A command that renders checks its configuration, its switches and its input before it opens a
press: if anything is not in order it ends with a complaint, and has done nothing outside but to
read files.  If all is in order, it works with the settings and the options that the switches,
the configuration and the built-in values make, field by field.

A configuration that is in order may name a directory of templates that cannot be listed.  This
comes out when the press is opened, and the command ends with what the system says about it.
-/

import CanvasPress.Proofs.CommandLine.Effects
import CanvasPress.Proofs.CommandLine.Switches
import CanvasPress.Proofs.Json.Decoding
import CanvasPress.Proofs.Press.Batches
import CanvasPress.Proofs.Press.Opening

namespace CanvasPress.CommandLine

open Json Press

/-! ## Options -/

namespace Overrides

/-- The options of a command: in each field what the switch says, else what the settings say if
they have the field, else what is built in. -/
def atop (o : Overrides) (settings : Settings) : RenderOptions where
  format := ((o.format.bind Format.ofName?).map (·.1)).getD .raster
  theme := o.theme.getD settings.defaultTheme
  width := o.width.getD 1200
  height := o.height.getD 800
  dpi := o.dpi.getD settings.defaultDpi
  includeMetadata := !o.noMetadata
  encoding := ((o.format.bind Format.ofName?).bind (·.2)).getD .png

/-- A format that is named is known, and width, height and density are not zero. -/
structure AreSound (o : Overrides) (settings : Settings) : Prop where
  format : ∀ name ∈ o.format, (Format.ofName? name).isSome
  width : (o.atop settings).width ≠ 0
  height : (o.atop settings).height ≠ 0
  dpi : (o.atop settings).dpi ≠ 0

end Overrides

theorem validate_options_eq_ok_iff {options : RenderOptions} : options.validate = .ok () ↔
    options.width ≠ 0 ∧ options.height ≠ 0 ∧ options.dpi ≠ 0 := by
  rw [RenderOptions.validate]
  split_ifs <;> simp <;> omega

/-- Switches and settings make options just if they are sound together, and then these. -/
theorem Overrides.resolve_eq_ok_iff {o : Overrides} {settings : Settings}
    {options : RenderOptions} :
    o.resolve settings = .ok options ↔ o.AreSound settings ∧ options = o.atop settings := by
  have hchecked (found : RenderOptions) (hfound : found = o.atop settings)
      (hknown : ∀ name ∈ o.format, (Format.ofName? name).isSome) :
      (found.validate >>= fun _ => .ok found : Except ConfigFault _) = .ok options ↔
        o.AreSound settings ∧ options = o.atop settings := by
    subst hfound
    constructor
    · intro h
      obtain ⟨_, hvalid, hsame⟩ := exists_of_bind_eq_ok h
      obtain ⟨hwidth, hheight, hdpi⟩ := validate_options_eq_ok_iff.1 hvalid
      exact ⟨⟨hknown, hwidth, hheight, hdpi⟩, (Except.ok.inj hsame).symm⟩
    · rintro ⟨hsound, rfl⟩
      rw [validate_options_eq_ok_iff.2 ⟨hsound.width, hsound.height, hsound.dpi⟩]
      rfl
  rw [resolve, applyTo]
  cases hformat : o.format with
  | none => exact hchecked _ (by simp [atop, hformat, RenderOptions.ofSettings]) (by simp [hformat])
  | some name =>
      cases hname : Format.ofName? name with
      | none =>
          have hunknown : ¬ o.AreSound settings := by
            intro hsound
            simpa [hname] using hsound.format name hformat
          refine ⟨fun h => ?_, fun h => absurd h.1 hunknown⟩
          simp only [hname] at h
          cases h
      | some found =>
          simp only [hname]
          exact hchecked _ (by simp [atop, hformat, hname, RenderOptions.ofSettings])
            (by simp [hformat, hname])

/-- JPEG is implied by its two names. -/
theorem implies_jpeg_iff {name : String} :
    (Format.ofName? name).bind (·.2) = some .jpeg ↔
      Format.normalName name = "jpeg" ∨ Format.normalName name = "jpg" := by
  change (member? Format.aliases (Format.normalName name)).bind (·.2) = _ ↔ _
  generalize Format.normalName name = normal
  simp only [Format.aliases, member?_cons, member?_nil]
  split_ifs with _ _ _ _ hjpeg hjpg <;> subst_vars <;> simp
  exact ⟨fun h => hjpeg h.symm, fun h => hjpg h.symm⟩

/-- Pictures are encoded as JPEG just if a format is named that implies it. -/
theorem Overrides.encoding_atop (o : Overrides) (settings : Settings) :
    (o.atop settings).encoding = .jpeg ↔ ∃ name ∈ o.format,
      Format.normalName name = "jpeg" ∨ Format.normalName name = "jpg" := by
  have hencoding : (o.atop settings).encoding = .jpeg ↔
      (o.format.bind Format.ofName?).bind (·.2) = some .jpeg := by
    rw [atop]
    cases (o.format.bind Format.ofName?).bind (·.2) <;> simp
  simp only [hencoding, Option.bind_assoc, Option.bind_eq_some_iff, Option.mem_def,
    ← implies_jpeg_iff]

/-! ## What is in order -/

/-- What the commands that render have in common: where the configuration and the input are,
where artifacts go, and what is overridden. -/
structure Brief where
  config : Option String
  input : String
  outputDir : Option String
  overrides : Overrides

namespace Brief

/-- The command that renders one document. -/
def single (brief : Brief) : Invocation :=
  ⟨brief.config, .render brief.input brief.outputDir brief.overrides⟩

/-- The command that renders a list of documents. -/
def batch (brief : Brief) (concurrency : Option Nat) : Invocation :=
  ⟨brief.config, .batch brief.input brief.outputDir concurrency brief.overrides⟩

/-- The brief that switches make. -/
def ofGiven (g : Given) (input : String) : Brief :=
  ⟨g.value? .config, input, g.value? .outputDir, .ofGiven g⟩

/-- The settings that a command works under: those loaded, with the directory for artifacts
that the switch names, else the one they name, else the standard one. -/
def settings (brief : Brief) (loaded : Settings) : Settings :=
  { loaded with outputPath := some ((brief.outputDir <|> loaded.outputPath).getD "output") }

end Brief

variable {α : Type} {world : World} {host : Host} {brief : Brief} {loaded : Settings}

/-- Configuration, switches and input of a command are in order. -/
structure InOrder (world : World) (decode : Decoder α) (brief : Brief) (loaded : Settings)
    (value : α) : Prop where
  config : world.loaded? brief.config = some loaded
  valid : loaded.validate = .ok ()
  overrides : brief.overrides.AreSound loaded
  input : world.value? decode brief.input = some value

theorem toOption_eq_some_iff {ε β : Type} {result : Except ε β} {value : β} :
    result.toOption = some value ↔ result = .ok value := by
  cases result <;> simp [Except.toOption]

theorem prepared?_eq_some_iff {settings : Settings} {options : RenderOptions} :
    world.prepared? brief.config brief.outputDir brief.overrides = some (settings, options) ↔
      ∃ loaded, world.loaded? brief.config = some loaded ∧ loaded.validate = .ok () ∧
        brief.overrides.AreSound loaded ∧ settings = brief.settings loaded ∧
          options = brief.overrides.atop loaded := by
  simp only [World.prepared?, Option.bind_eq_some_iff, toOption_eq_some_iff,
    Overrides.resolve_eq_ok_iff, Option.some.injEq, Prod.mk.injEq]
  constructor
  · rintro ⟨loaded, hconfig, _, hvalid, _, ⟨⟨hformat, hwidth, hheight, hdpi⟩, rfl⟩, rfl, rfl⟩
    exact ⟨loaded, hconfig, hvalid, ⟨hformat, hwidth, hheight, hdpi⟩, rfl, rfl⟩
  · rintro ⟨loaded, hconfig, hvalid, ⟨hformat, hwidth, hheight, hdpi⟩, rfl, rfl⟩
    exact ⟨loaded, hconfig, (), hvalid, _, ⟨⟨hformat, hwidth, hheight, hdpi⟩, rfl⟩, rfl, rfl⟩

/-! ## Commands in their steps -/

/-- The steps of a command: checks, the opening of a press, and what is done with it. -/
def inSteps (world : World) (host : Host) (decode : Decoder α) (brief : Brief)
    (work : Settings × RenderOptions → α → Studio × State → Attempt Recorded Output) :
    Attempt Recorded Output :=
  prepare (Disk.recording world) brief.config brief.outputDir brief.overrides >>= fun prepared =>
    loadInput (Disk.recording world) decode brief.input >>= fun value =>
      openPress (Disk.recording world) host prepared.1 >>= work prepared value

section Steps

variable {decode : Decoder α} {value : α}

/-- If anything is not in order, no press is opened, and it does not matter what else stands
behind the command. -/
theorem exists_complaint_inSteps (h : ∀ loaded value, ¬ InOrder world decode brief loaded value) :
    ∃ (complaint : Complaint) (reads : List Effect), complaint.exitCode = 1 ∧
      (∀ e ∈ reads, e.isRead = true) ∧ ∀ host work,
        Attempt.after (inSteps world host decode brief work) [] = (.error complaint, reads) := by
  have hprepare := inspects_prepare world brief.config brief.outputDir brief.overrides
  have hinput := inspects_loadInput world decode brief.input
  cases hprepared : world.prepared? brief.config brief.outputDir brief.overrides with
  | none =>
      rw [hprepared] at hprepare
      obtain ⟨_, reads, hafter, hreads, complaint, rfl, hcode⟩ := hprepare []
      exact ⟨complaint, reads, hcode, hreads, fun host work => after_bind_error hafter _⟩
  | some prepared =>
      obtain ⟨loaded, hconfig, hvalid, hsound, -, -⟩ := prepared?_eq_some_iff.1 hprepared
      cases hvalue : world.value? decode brief.input with
      | some value => exact absurd ⟨hconfig, hvalid, hsound, hvalue⟩ (h loaded value)
      | none =>
          rw [hprepared] at hprepare
          rw [hvalue] at hinput
          obtain ⟨_, reads, hafter, hreads, rfl⟩ := hprepare []
          obtain ⟨_, more, hread, hmore, complaint, rfl, hcode⟩ := hinput ([] ++ reads)
          refine ⟨complaint, [] ++ reads ++ more, hcode, ?_, fun host work => ?_⟩
          · simpa [or_imp, forall_and] using ⟨hreads, hmore⟩
          · exact (after_bind_ok hafter _).trans (after_bind_error hread _)

/-- If all is in order, a press is opened with what the checks come to, whatever the host. -/
theorem after_inSteps (h : InOrder world decode brief loaded value) :
    ∃ reads : List Effect, (∀ e ∈ reads, e.isRead = true) ∧ ∀ host work,
      Attempt.after (inSteps world host decode brief work) [] =
        Attempt.after (openPress (Disk.recording world) host (brief.settings loaded) >>=
          work (brief.settings loaded, brief.overrides.atop loaded) value) reads := by
  have hprepare := inspects_prepare world brief.config brief.outputDir brief.overrides
  have hinput := inspects_loadInput world decode brief.input
  rw [prepared?_eq_some_iff.2 ⟨loaded, h.config, h.valid, h.overrides, rfl, rfl⟩] at hprepare
  rw [h.input] at hinput
  obtain ⟨_, reads, hprepared, hreads, rfl⟩ := hprepare []
  obtain ⟨_, more, hread, hmore, rfl⟩ := hinput ([] ++ reads)
  refine ⟨[] ++ reads ++ more, ?_, fun host work =>
    (after_bind_ok hprepared _).trans (after_bind_ok hread _)⟩
  simpa [or_imp, forall_and] using ⟨hreads, hmore⟩

/-- If no press can be opened on any host, nothing has been written, and it does not matter what
else stands behind the command. -/
theorem after_inSteps_of_refusal (host : Host) (h : InOrder world decode brief loaded value)
    {fault : OpenFault} (hopen : ∀ host, openWith (brief.settings loaded)
      (world.around host (brief.settings loaded)) = .error fault) :
    ∃ effects : List Effect, (∀ e ∈ effects, e.isWrite = false) ∧ ∀ host work,
      Attempt.after (inSteps world host decode brief work) [] =
        (.error (complaintOf fault), effects) := by
  obtain ⟨reads, hreads, hafter⟩ := after_inSteps h
  refine ⟨reads ++ openEffects world host (brief.settings loaded), fun e he => ?_,
    fun other work => (hafter other work).trans (after_bind_error ?_ _)⟩
  · exact (List.mem_append.1 he).elim (fun h => isWrite_of_isRead (hreads e h))
      (isWrite_openEffects _ e)
  · rw [after_openPress, hopen, openEffects_eq host other]
    rfl

theorem after_inSteps_of_opening
    (work : Settings × RenderOptions → α → Studio × State → Attempt Recorded Output)
    (h : InOrder world decode brief loaded value)
    {opened : Studio × State}
    (hopen : openWith (brief.settings loaded) (world.around host (brief.settings loaded)) =
      .ok opened) :
    ∃ before, Attempt.after (inSteps world host decode brief work) [] =
      Attempt.after (work (brief.settings loaded, brief.overrides.atop loaded) value opened)
        before := by
  obtain ⟨reads, -, hafter⟩ := after_inSteps h
  refine ⟨reads ++ openEffects world host (brief.settings loaded),
    (hafter host work).trans (after_bind_ok ?_ _)⟩
  rw [after_openPress, hopen]
  rfl

end Steps

/-! ## The two commands -/

/-- What a rendering is for the command that asked for it. -/
def outputOf (outcome : Except Fault Rendering) : Except Complaint Output :=
  match outcome with
  | .ok rendering => .ok (.artifact rendering)
  | .error cause => .error (.fault cause)

/-- The command for one document works by rendering it with the options prepared. -/
theorem exists_inSteps_single (world : World) (brief : Brief) : ∃ work : Host → _, (∀ host,
      perform (Disk.recording world) host brief.single =
        inSteps world host Document.decode brief (work host)) ∧
    ∀ host settings options document studio start outcome before,
      (start.render studio document options none).1 = some outcome →
        ∃ after, Attempt.after (work host (settings, options) document (studio, start)) before =
          (outputOf outcome, after) := by
  refine ⟨_, fun _ => rfl, ?_⟩
  intro host settings options document studio start outcome before houtcome
  dsimp only
  rw [houtcome]
  cases outcome with
  | error cause => exact ⟨_, rfl⟩
  | ok rendering =>
      obtain ⟨more, hkeep⟩ := after_keep world [rendering] (before ++ [.report _])
      exact ⟨more, after_bind_ok hkeep _⟩

/-- The command for a list of documents works by rendering them in groups with the options
prepared. -/
theorem exists_inSteps_batch (world : World) (brief : Brief) (concurrency : Option Nat) :
    ∃ work : Host → _, (∀ host,
      perform (Disk.recording world) host (brief.batch concurrency) =
        inSteps world host (listOf Document.decode) brief (work host)) ∧
    ∀ host settings options documents studio start before,
      ∃ after, Attempt.after (work host (settings, options) documents (studio, start)) before =
        (.ok (.report (start.renderBatch studio documents
          ⟨groupSize host settings concurrency, options⟩).1), after) := by
  refine ⟨_, fun _ => rfl, ?_⟩
  intro host settings options documents studio start before
  dsimp only
  obtain ⟨more, hkeep⟩ := after_keep world _ (before ++ [.report _])
  exact ⟨more, after_bind_ok hkeep _⟩

/-! ## Reports -/

/-- The entries of a report as they are printed. -/
def printedEntries (items : List BatchItem) : List Json :=
  items.map fun item => (entryOf item).sorted

theorem sortedItems_eq_map (items : List Json) : sortedItems items = items.map sorted := by
  induction items with
  | nil => rfl
  | cons item rest ih => rw [sortedItems, ih, List.map_cons]

theorem written_report (items : List BatchItem) :
    (Output.report items).written = (Json.array (printedEntries items)).pretty ++ "\n" := by
  rw [Output.written, Json.sorted, sortedItems_eq_map, List.map_map]
  rfl

/-- An entry tells the place of its item and whether it succeeded. -/
theorem exists_sorted_entryOf (item : BatchItem) : ∃ members,
    (entryOf item).sorted = .object members ∧
      member? members "index" = some (.natural item.index) ∧
      member? members "success" = some (.bool item.outcome.isOk) := by
  rw [entryOf]
  cases item.outcome with
  | ok rendering =>
      refine ⟨_, rfl, ?_, ?_⟩ <;>
        simp [sortedMembers, sortMembers, member?_insertMember, sorted, natural,
          Except.isOk, Except.toBool]
  | error cause =>
      refine ⟨_, rfl, ?_, ?_⟩ <;>
        simp [sortedMembers, sortMembers, member?_insertMember, sorted, natural,
          Except.isOk, Except.toBool]

/-! ## Openings -/

/-- Why the templates that settings name cannot be listed. -/
def World.listingFault? (world : World) (settings : Settings) : Option FileFault :=
  settings.templatesPath.bind fun path => (world.list path).fault?

theorem obstacle?_around (world : World) (host : Host) (settings : Settings) :
    (world.around host settings).obstacle? settings = world.listingFault? settings := by
  rw [Surroundings.obstacle?, World.listingFault?, World.around]
  cases settings.templatesPath <;> rfl

theorem openWith_of_listingFault (settings : Settings) (hvalid : settings.validate = .ok ())
    {reason : FileFault} (h : world.listingFault? settings = some reason) :
    openWith settings (world.around host settings) = .error (.fault (.file reason)) := by
  have hobstacle := (obstacle?_around world host settings).trans h
  have hstore := storeFor_eq_error_iff.2 ⟨reason, hobstacle, rfl⟩
  rw [openWith, hvalid]
  simp only [hstore]

theorem exists_openWith (host : Host) (settings : Settings)
    (hvalid : settings.validate = .ok ()) (h : world.listingFault? settings = none)
    (hfew : settings.maxConcurrentRenders ≤ Governor.maxCapacity) :
    ∃ studio start, openWith settings (world.around host settings) = .ok (studio, start) ∧
      studio.settings = settings ∧ start.outsiders.length < start.governor.capacity := by
  have hobstacle := (obstacle?_around world host settings).trans h
  obtain ⟨store, hstore⟩ := exists_storeFor_iff.2 hobstacle
  have hmake : Governor.make settings.maxConcurrentRenders settings.maxQueueDepth = .ok _ :=
    Governor.make_eq_ok_iff.2 ⟨hfew, rfl⟩
  have hslots : 0 < max settings.maxConcurrentRenders 1 := by omega
  refine ⟨⟨host.toTools, settings, store, (world.around host settings).shelfFault, host.time⟩,
    .fresh settings (.ofCapacity settings.maxConcurrentRenders settings.maxQueueDepth), ?_, rfl,
    hslots⟩
  rw [openWith, hvalid]
  simp only [hstore, hmake]
  rfl

/-! ## The theorem -/

variable {words : List String}

/-- The words ask for a command that ends with a complaint and has only read files.  What else
the machine has, such as a browser, plays no part. -/
def Rejects (world : World) (words : List String) : Prop :=
  ∃ (complaint : Complaint) (reads : List Effect), complaint.exitCode = 1 ∧
    (∀ e ∈ reads, e.isRead = true) ∧
      ∀ host, runIn world host words = (.failed complaint, reads)

/-- A command checks before it works.  If anything is not in order it ends with a complaint and
has only read files.  If all is in order but the templates cannot be listed, it ends with what
the system says about them and has written nothing; again it does not matter which browser the
machine has.  Otherwise it works, unless the settings ask for more slots than can be counted. -/
def ChecksFirst (world : World) (words : List String) (decode : Decoder α) (brief : Brief)
    (works : Settings → α → Prop) : Prop :=
  ((∀ loaded value, ¬ InOrder world decode brief loaded value) → Rejects world words) ∧
    ∀ loaded value, InOrder world decode brief loaded value →
      (∀ reason, world.listingFault? loaded = some reason →
        ∃ effects : List Effect, (∀ e ∈ effects, e.isWrite = false) ∧
          ∀ host, runIn world host words = (.failed (.fault (.file reason)), effects)) ∧
      (world.listingFault? loaded = none → loaded.maxConcurrentRenders ≤ Governor.maxCapacity →
        works loaded value)

/-- It is enough to know how a command ends that has opened its press. -/
theorem checksFirst_of_inSteps (host : Host) {invocation : Invocation} {decode : Decoder α}
    {work : Host → Settings × RenderOptions → α → Studio × State → Attempt Recorded Output}
    (hwords : Wish.ofWords words = .perform invocation)
    (hsteps : ∀ host, perform (Disk.recording world) host invocation =
      inSteps world host decode brief (work host)) {works : Settings → α → Prop}
    (hworks : ∀ loaded value studio start before,
      openWith (brief.settings loaded) (world.around host (brief.settings loaded)) =
        .ok (studio, start) → studio.settings = brief.settings loaded →
      start.outsiders.length < start.governor.capacity →
      Attempt.after (perform (Disk.recording world) host invocation) [] =
        Attempt.after (work host (brief.settings loaded, brief.overrides.atop loaded) value
          (studio, start)) before → works loaded value) :
    ChecksFirst world words decode brief works := by
  refine ⟨fun hnot => ?_, fun loaded value hready => ⟨fun reason hreason => ?_,
    fun hnone hfew => ?_⟩⟩
  · obtain ⟨complaint, reads, hcode, hreads, hafter⟩ := exists_complaint_inSteps hnot
    refine ⟨complaint, reads, hcode, hreads, fun host => runIn_of_complaint hwords ?_⟩
    rw [hsteps, hafter]
  · have hopen (host : Host) : openWith (brief.settings loaded)
        (world.around host (brief.settings loaded)) = .error (.fault (.file reason)) :=
      openWith_of_listingFault (brief.settings loaded) hready.valid hreason
    obtain ⟨effects, hkept, hafter⟩ := after_inSteps_of_refusal host hready hopen
    refine ⟨effects, hkept, fun other => runIn_of_complaint hwords ?_⟩
    rw [hsteps, hafter]
    rfl
  · obtain ⟨studio, start, hopen, hsettings, hroom⟩ :=
      exists_openWith host (brief.settings loaded) hready.valid hnone hfew
    obtain ⟨before, hafter⟩ := after_inSteps_of_opening (work host) hready hopen
    rw [← hsteps] at hafter
    exact hworks loaded value studio start before hopen hsettings hroom hafter

/-- How a run ends whose command comes to something. -/
def endingOf : Except Complaint Output → Ending
  | .ok output => .done output
  | .error complaint => .failed complaint

/-- The command for one document renders it on a press with the settings of the command, with
the options of the command, and ends as the rendering does. -/
def RendersOne (world : World) (host : Host) (words : List String) (brief : Brief)
    (loaded : Settings) (document : Document) : Prop :=
  ∃ studio start outcome,
    openWith (brief.settings loaded) (world.around host (brief.settings loaded)) =
      .ok (studio, start) ∧
    studio.settings = brief.settings loaded ∧
    (start.render studio document (brief.overrides.atop loaded) none).1 = some outcome ∧
    (runIn world host words).1 = endingOf (outputOf outcome)

theorem checksFirst_single (hwords : Wish.ofWords words = .perform brief.single) :
    ChecksFirst world words Document.decode brief (RendersOne world host words brief) := by
  obtain ⟨work, hsteps, hwork⟩ := exists_inSteps_single world brief
  refine checksFirst_of_inSteps host hwords hsteps ?_
  intro loaded document studio start before hopen hsettings hroom hafter
  obtain ⟨outcome, houtcome⟩ := Option.isSome_iff_exists.1 (State.isSome_render
    (State.steady_of_openWith hopen) hroom document (brief.overrides.atop loaded))
  obtain ⟨effects, hended⟩ :=
    hwork host (brief.settings loaded) _ document studio start outcome before houtcome
  refine ⟨studio, start, outcome, hopen, hsettings, houtcome, ?_⟩
  rw [hended] at hafter
  cases outcome with
  | ok rendering => rw [runIn_of_output hwords hafter]; rfl
  | error cause => rw [runIn_of_complaint hwords hafter]; rfl

/-- The command for a list of documents renders them on a press with the settings of the command,
with the options of the command, and prints a report with an entry for each document in order.
The entry tells the place of the document and whether the call for it succeeded. -/
def ReportsAll (world : World) (host : Host) (words : List String) (brief : Brief)
    (concurrency : Option Nat) (loaded : Settings) (documents : List Document) : Prop :=
  ∃ studio start items last,
    openWith (brief.settings loaded) (world.around host (brief.settings loaded)) =
      .ok (studio, start) ∧
    studio.settings = brief.settings loaded ∧
    start.renderBatch studio documents ⟨groupSize host loaded concurrency,
      brief.overrides.atop loaded⟩ = (items, last) ∧
    (runIn world host words).1 = .done (.report items) ∧
    (Output.report items).written = (Json.array (printedEntries items)).pretty ++ "\n" ∧
    (printedEntries items).length = documents.length ∧
    ∀ i document, documents[i]? = some document → ∃ outcome members,
      last.result? (start.nextId + i) = some outcome ∧
      (printedEntries items)[i]? = some (.object members) ∧
      member? members "index" = some (.natural i) ∧
      member? members "success" = some (.bool outcome.isOk)

theorem checksFirst_batch {concurrency : Option Nat}
    (hwords : Wish.ofWords words = .perform (brief.batch concurrency)) :
    ChecksFirst world words (listOf Document.decode) brief
      (ReportsAll world host words brief concurrency) := by
  obtain ⟨work, hsteps, hwork⟩ :=
    exists_inSteps_batch world brief concurrency
  refine checksFirst_of_inSteps host hwords hsteps ?_
  intro loaded documents studio start before hopen hsettings hroom hafter
  let batch : BatchOptions := ⟨groupSize host loaded concurrency, brief.overrides.atop loaded⟩
  obtain ⟨effects, hended⟩ := hwork host (brief.settings loaded) (brief.overrides.atop loaded)
    documents studio start before
  have hresults :=
    State.areResults_renderBatch (State.steady_of_openWith hopen) hroom documents batch
  obtain ⟨lines, hlast⟩ := State.renderBatch_eq_run studio documents batch start
  rw [hended] at hafter
  refine ⟨studio, start, (start.renderBatch studio documents batch).1,
    (start.renderBatch studio documents batch).2, hopen, hsettings, rfl, ?_, written_report _,
    ?_, ?_⟩
  · rw [runIn_of_output hwords hafter]
    rfl
  · rw [printedEntries, List.length_map, hresults.length]
  · intro i document hdocument
    obtain ⟨outcome, hresult, hitem⟩ := hresults.item i document hdocument
    rw [Nat.zero_add] at hitem
    obtain ⟨members, hsorted, hindex, hsuccess⟩ := exists_sorted_entryOf ⟨i, document, outcome⟩
    refine ⟨outcome, members, ?_, ?_, hindex, hsuccess⟩
    · rw [hlast]
      exact hresult
    · rw [printedEntries, List.getElem?_map, hitem, Option.map_some, hsorted]

/-- What the commands that render do, on every machine and for all words.

* However switches are written behind a command, in any order and each at most once, they come
  to their values, and only these make up the brief of the command.
* The command checks first: configuration, switches and input.  If anything is not in order it
  ends with a complaint and has only read files.  Templates that cannot be listed come out later,
  but before anything is written or a browser is launched.
* Then it works with the settings loaded and the options that `Overrides.atop` makes of the
  switches and these settings.  The command for one document ends as its rendering does.  The
  command for a list of documents prints a report with one entry for each document in order,
  whatever becomes of each.
* Pictures are encoded as JPEG just if the switch names a format that implies it. -/
theorem commands_check_before_they_work (world : World) (host : Host) :
    (∀ verb given parts, AreWritten (Switch.ofVerb verb) given parts → ∃ g : Given,
      (∀ e ∈ given, g.value? e.1.topic = some e.2) ∧
      (∀ topic, (∀ e ∈ given, e.1.topic ≠ topic) → g.value? topic = none) ∧
      ∀ input ∈ g.value? .input,
        (verb = .render → Wish.ofWords (verb.name :: parts.flatten) =
          .perform (Brief.ofGiven g input).single) ∧
        (verb = .batch → Wish.ofWords (verb.name :: parts.flatten) =
          .perform ((Brief.ofGiven g input).batch (g.number? .concurrency)))) ∧
    ∀ (words : List String) (brief : Brief),
      (Wish.ofWords words = .perform brief.single →
        ChecksFirst world words Document.decode brief (RendersOne world host words brief)) ∧
      (∀ concurrency, Wish.ofWords words = .perform (brief.batch concurrency) →
        ChecksFirst world words (listOf Document.decode) brief
          (ReportsAll world host words brief concurrency)) ∧
      ∀ settings, (brief.overrides.atop settings).encoding = .jpeg ↔
        ∃ name ∈ brief.overrides.format,
          Format.normalName name = "jpeg" ∨ Format.normalName name = "jpg" := by
  refine ⟨fun verb given parts hwritten => ?_, fun words brief => ⟨checksFirst_single,
    fun _ => checksFirst_batch, brief.overrides.encoding_atop⟩⟩
  obtain ⟨g, hvalues, hothers, hread⟩ := exists_ofWords hwritten
  refine ⟨g, hvalues, hothers, fun input hinput => ⟨?_, ?_⟩⟩
  · rintro rfl
    exact hread _ (by rw [Command.ofGiven?, hinput]; rfl)
  · rintro rfl
    exact hread _ (by rw [Command.ofGiven?, hinput]; rfl)

/-- A machine that holds a few texts and no directories. -/
def World.ofTexts (texts : List (String × String)) : World where
  read path := (member? texts path).elim (.error .notFound) .ok
  list path := if (member? texts path).isSome then .file else .missing
  obstacle _ := none

/-- A list of one document, with switches in several spellings under a configuration with settings
of its own; one document without a switch; and one with a format that nobody knows. -/
theorem commands_check_before_they_work_of_texts :
    let world : World := .ofTexts
      [("cfg", "\x7b\"defaultDpi\":72,\"outputPath\":\"kept\"\x7d"),
        ("doc", "\x7b\"type\":\"valueProposition\",\"sections\":\x7b\x7d\x7d"),
        ("docs", "[\x7b\"type\":\"valueProposition\",\"sections\":\x7b\x7d\x7d]")]
    let host : Host := ⟨.obliging, ⟨0, 0⟩, 2⟩
    let given : List (Switch × String) :=
      [(⟨.format, "format", some 'f', .text⟩, " JPG "),
        (⟨.input, "input", some 'i', .path⟩, "docs"), (Switch.config, "cfg"),
        (⟨.width, "width", none, .integer Switch.wordBound⟩, "7")]
    let parts := [["--format= JPG "], ["-i", "docs"], ["--config", "cfg"], ["--width=7"]]
    let brief : Brief :=
      ⟨some "cfg", "docs", none, ⟨some " JPG ", none, some 7, none, none, false⟩⟩
    let loaded : Settings := { defaultDpi := 72, outputPath := some "kept" }
    let document : Document := ⟨none, .valueProposition, []⟩
    let plain : Brief := ⟨none, "doc", none, ⟨none, none, none, none, none, false⟩⟩
    let odd : Brief := { plain with overrides := { plain.overrides with format := some "bmp" } }
    AreWritten (Switch.ofVerb .batch) given parts ∧
      (∃ g : Given, g.value? .format = some " JPG " ∧ g.value? .theme = none) ∧
      Wish.ofWords ("batch" :: parts.flatten) = .perform (brief.batch none) ∧
      InOrder world (listOf Document.decode) brief loaded [document] ∧
      brief.overrides.atop loaded = ⟨.raster, "professional", 7, 800, 72, true, .jpeg⟩ ∧
      ReportsAll world host ("batch" :: parts.flatten) brief none loaded [document] ∧
      InOrder world Document.decode plain {} document ∧
      RendersOne world host ["render", "-i", "doc"] plain {} document ∧
      (∀ loaded value, ¬ InOrder world Document.decode odd loaded value) ∧
      Rejects world ["render", "-i", "doc", "-f=bmp"] := by
  intro world host given parts brief loaded document plain odd
  have hwritten : AreWritten (Switch.ofVerb .batch) given parts := by
    refine ⟨by decide, by decide +kernel, by decide, ?_⟩
    exact .cons (.joined nofun) <| .cons (.letterApart rfl nofun rfl) <|
      .cons (.apart nofun rfl) <| .cons (.joined nofun) .nil
  have hbatch : Wish.ofWords ("batch" :: parts.flatten) = .perform (brief.batch none) := by
    decide +kernel
  have hready : InOrder world (listOf Document.decode) brief loaded [document] :=
    ⟨by decide +kernel, Settings.validate_eq_ok_iff.2 (by decide),
      ⟨fun name hname => by cases hname; decide +kernel, by decide, by decide, by decide⟩,
      by decide +kernel⟩
  have hplain : InOrder world Document.decode plain {} document :=
    ⟨rfl, Settings.validate_eq_ok_iff.2 (by decide), ⟨nofun, by decide, by decide, by decide⟩,
      by decide +kernel⟩
  have hodd : ∀ loaded value, ¬ InOrder world Document.decode odd loaded value := by
    intro _ _ h
    exact absurd (h.overrides.format "bmp" rfl) (by decide +kernel)
  obtain ⟨hswitches, hcommands⟩ := commands_check_before_they_work world host
  obtain ⟨g, hvalues, hothers, -⟩ := hswitches .batch given parts hwritten
  obtain ⟨-, hworks⟩ := (hcommands _ brief).2.1 none hbatch
  obtain ⟨-, hrenders⟩ := (hcommands ["render", "-i", "doc"] plain).1 (by decide +kernel)
  obtain ⟨hrejects, -⟩ := (hcommands ["render", "-i", "doc", "-f=bmp"] odd).1 (by decide +kernel)
  exact ⟨hwritten, ⟨g, hvalues _ List.mem_cons_self, hothers _ (by decide)⟩, hbatch, hready,
    by decide +kernel, (hworks loaded _ hready).2 rfl (by decide), hplain,
    (hrenders {} _ hplain).2 rfl (by decide), hodd, hrejects hodd⟩

/-- A configuration whose templates are no directory is in order, and so are switches and input,
but there is no report. -/
theorem not_every_batch_in_order_is_reported :
    ¬ ∀ (world : World) (host : Host) (words : List String) (brief : Brief)
      (concurrency : Option Nat) (loaded : Settings) (documents : List Document),
        Wish.ofWords words = .perform (brief.batch concurrency) →
        InOrder world (listOf Document.decode) brief loaded documents →
          ∃ items, (runIn world host words).1 = .done (.report items) := by
  intro hall
  let world : World := .ofTexts [("cfg", "\x7b\"templatesPath\":\"docs\"\x7d"), ("docs", "[]")]
  let host : Host := ⟨.obliging, ⟨0, 0⟩, 2⟩
  let words := ["batch", "--config", "cfg", "-i", "docs"]
  let brief : Brief := ⟨some "cfg", "docs", none, ⟨none, none, none, none, none, false⟩⟩
  let loaded : Settings := { templatesPath := some "docs" }
  have hwords : Wish.ofWords words = .perform (brief.batch none) := by decide +kernel
  have hready : InOrder world (listOf Document.decode) brief loaded [] :=
    ⟨by decide +kernel, Settings.validate_eq_ok_iff.2 (by decide),
      ⟨nofun, by decide, by decide, by decide⟩, by decide +kernel⟩
  obtain ⟨-, hchecked⟩ : ChecksFirst world words (listOf Document.decode) brief
      (ReportsAll world host words brief none) := checksFirst_batch hwords
  obtain ⟨effects, -, hfailed⟩ := (hchecked loaded [] hready).1 .notDirectory rfl
  obtain ⟨items, hdone⟩ := hall world host words brief none loaded [] hwords hready
  rw [hfailed host] at hdone
  cases hdone

end CanvasPress.CommandLine

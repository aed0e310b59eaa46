/-
# What commands do outside

A command runs on a machine that answers what is under a path, and all that it does outside is
recorded.  Of the parts of a command that come first it can be said at once what they do:
they read files and nothing else, and come to a value or to a complaint.  `Inspects` says that
of a part, and is put together as the parts are.
-/

import CanvasPress.CommandLine.Run

namespace CanvasPress.CommandLine

open Json Press

/-! ## Machines that keep a record -/

/-- What a machine answers. -/
structure World where
  /-- The text of a file. -/
  read : String → Except FileFault String
  /-- What is found under the path of a directory. -/
  list : String → Listing
  /-- Why nothing can be written into a directory. -/
  obstacle : String → Option FileFault

/-- What a command does outside. -/
inductive Effect where
  | read (path : String)
  | list (path : String)
  /-- It asks whether anything can be written into a directory. -/
  | ask (path : String)
  | write (path : String) (body : Body)
  | report (lines : List LogLine)

/-- Whether a file is read. -/
def Effect.isRead : Effect → Bool
  | read _ => true
  | _ => false

/-- Whether a file is written. -/
def Effect.isWrite : Effect → Bool
  | write _ _ => true
  | _ => false

theorem isWrite_of_isRead {e : Effect} (h : e.isRead = true) : e.isWrite = false := by
  cases e <;> first | rfl | cases h

/-- Something that is done while a record is kept. -/
abbrev Recorded := StateM (List Effect)

/-- The disk that answers as a machine does and keeps a record. -/
def Disk.recording (world : World) : Disk Recorded where
  read path := do
    modify (· ++ [.read path])
    return world.read path
  list path := do
    modify (· ++ [.list path])
    return world.list path
  obstacle path := do
    modify (· ++ [.ask path])
    return world.obstacle path
  write path body := modify (· ++ [.write path body])
  report lines := modify (· ++ [.report lines])

/-- How a run ends, and what was done outside. -/
def runIn (world : World) (host : Host) (words : List String) : Ending × List Effect :=
  (run (Disk.recording world) host words).run []

variable {α β : Type} {world : World} {host : Host}

/-- What an attempt comes to, and what was done outside after it. -/
def Attempt.after (attempt : Attempt Recorded α) (effects : List Effect) :
    Except Complaint α × List Effect :=
  (ExceptT.run attempt).run effects

theorem after_bind_ok {attempt : Attempt Recorded α} {effects more : List Effect} {value : α}
    (h : Attempt.after attempt effects = (.ok value, more)) (next : α → Attempt Recorded β) :
    Attempt.after (attempt >>= next) effects = Attempt.after (next value) more := by
  unfold Attempt.after at h ⊢
  rw [ExceptT.run_bind, StateT.run_bind, h]
  rfl

theorem after_bind_error {attempt : Attempt Recorded α} {effects more : List Effect}
    {complaint : Complaint} (h : Attempt.after attempt effects = (.error complaint, more))
    (next : α → Attempt Recorded β) :
    Attempt.after (attempt >>= next) effects = (.error complaint, more) := by
  unfold Attempt.after at h ⊢
  rw [ExceptT.run_bind, StateT.run_bind, h]
  rfl

/-! ## Parts that only read -/

/-- What an attempt comes to is the value if there is one, and else a complaint of its own. -/
def IsFor (result : Except Complaint α) : Option α → Prop
  | some value => result = .ok value
  | none => ∃ complaint, result = .error complaint ∧ complaint.exitCode = 1

/-- An attempt does nothing outside but to read files, and comes to a value if there is one. -/
def Inspects (attempt : Attempt Recorded α) (value? : Option α) : Prop :=
  ∀ effects, ∃ result reads, Attempt.after attempt effects = (result, effects ++ reads) ∧
    (∀ e ∈ reads, e.isRead = true) ∧ IsFor result value?

theorem inspects_of_silent {attempt : Attempt Recorded α} {result : Except Complaint α}
    {value? : Option α} (hsilent : ∀ effects, Attempt.after attempt effects = (result, effects))
    (hresult : IsFor result value?) : Inspects attempt value? :=
  fun effects => ⟨result, [], by rw [List.append_nil, hsilent], nofun, hresult⟩

theorem inspects_pure (value : α) : Inspects (pure value) (some value) :=
  inspects_of_silent (fun _ => rfl) rfl

theorem inspects_accept {ε : Type} {complain : ε → Complaint}
    (hcomplain : ∀ cause, (complain cause).exitCode = 1) (result : Except ε α) :
    Inspects (accept complain result) result.toOption := by
  cases result with
  | ok value => exact inspects_of_silent (fun _ => rfl) rfl
  | error cause => exact inspects_of_silent (fun _ => rfl) ⟨_, rfl, hcomplain cause⟩

/-- If the first part comes to nothing, neither does the whole. -/
theorem Inspects.bind_none {attempt : Attempt Recorded α} (h : Inspects attempt none)
    (next : α → Attempt Recorded β) : Inspects (attempt >>= next) none := by
  intro effects
  obtain ⟨_, reads, hafter, hreads, complaint, rfl, hcode⟩ := h effects
  exact ⟨_, reads, after_bind_error hafter next, hreads, complaint, rfl, hcode⟩

/-- If the first part comes to a value, the rest goes on from there. -/
theorem Inspects.after_bind {attempt : Attempt Recorded α} {value : α}
    (h : Inspects attempt (some value)) (next : α → Attempt Recorded β) (effects : List Effect) :
    ∃ reads : List Effect, (∀ e ∈ reads, e.isRead = true) ∧
      Attempt.after (attempt >>= next) effects = Attempt.after (next value) (effects ++ reads) := by
  obtain ⟨_, reads, hafter, hreads, rfl⟩ := h effects
  exact ⟨reads, hreads, after_bind_ok hafter next⟩

/-- Parts that only read make up a whole that only reads. -/
theorem Inspects.bind {attempt : Attempt Recorded α} {value? : Option α}
    (h : Inspects attempt value?) {next : α → Attempt Recorded β} {last? : α → Option β}
    (hnext : ∀ value ∈ value?, Inspects (next value) (last? value)) :
    Inspects (attempt >>= next) (value?.bind last?) := by
  cases value? with
  | none => exact h.bind_none next
  | some value =>
      intro effects
      obtain ⟨reads, hreads, hafter⟩ := h.after_bind next effects
      obtain ⟨result, more, hlast, hmore, hresult⟩ := hnext value rfl (effects ++ reads)
      refine ⟨result, reads ++ more, ?_, fun e he => ?_, hresult⟩
      · rw [hafter, hlast, List.append_assoc]
      · exact (List.mem_append.1 he).elim (hreads e) (hmore e)

/-! ## Files and configurations -/

/-- What is written in a file, if it can be read and decoded. -/
def World.value? (world : World) (decode : Decoder α) (path : String) : Option α :=
  (world.read path).toOption.bind fun text => (decodeText decode text).toOption

/-- The settings that are written in the configuration, or the standard ones if none is named. -/
def World.loaded? (world : World) : Option String → Option Settings
  | none => some {}
  | some path => world.value? Settings.decode path

theorem inspects_read (world : World) (path : String) :
    Inspects (liftM ((Disk.recording world).read path) : Attempt Recorded _)
      (some (world.read path)) :=
  fun _ => ⟨_, [.read path], rfl, List.forall_mem_singleton.2 rfl, rfl⟩

theorem inspects_load (decode : Decoder α) {unreadable : FileFault → Complaint}
    {undecodable : Refusal → Complaint} (hunreadable : ∀ cause, (unreadable cause).exitCode = 1)
    (hundecodable : ∀ cause, (undecodable cause).exitCode = 1) (path : String) :
    Inspects (load (Disk.recording world) decode unreadable undecodable path)
      (world.value? decode path) :=
  (inspects_read world path).bind fun _ _ => (inspects_accept hunreadable _).bind
    fun _ _ => inspects_accept hundecodable _

theorem inspects_loadInput (world : World) (decode : Decoder α) (path : String) :
    Inspects (loadInput (Disk.recording world) decode path) (world.value? decode path) :=
  inspects_load decode (fun _ => rfl) (fun _ => rfl) path

theorem inspects_loadConfig (config : Option String) :
    Inspects (loadConfig (Disk.recording world) .unreadableConfig .undecodableConfig config)
      (world.loaded? config) := by
  cases config with
  | none => exact inspects_pure _
  | some path => exact inspects_load _ (fun _ => rfl) (fun _ => rfl) path

/-- The settings and the options of a command, if there are any. -/
def World.prepared? (world : World) (config outputDir : Option String) (overrides : Overrides) :
    Option (Settings × RenderOptions) :=
  (world.loaded? config).bind fun loaded =>
    (settingsWith outputDir loaded).validate.toOption.bind fun _ =>
      (overrides.resolve (settingsWith outputDir loaded)).toOption.bind fun options =>
        some (settingsWith outputDir loaded, options)

theorem inspects_prepare (world : World) (config outputDir : Option String)
    (overrides : Overrides) :
    Inspects (prepare (Disk.recording world) config outputDir overrides)
      (world.prepared? config outputDir overrides) :=
  (inspects_loadConfig config).bind fun _ _ =>
    (inspects_accept (fun _ => rfl) _).bind fun _ _ =>
      (inspects_accept (fun _ => rfl) _).bind fun _ _ => inspects_pure _

/-! ## Opening and keeping -/

/-- What a press finds on a machine. -/
def World.around (world : World) (host : Host) (settings : Settings) : Surroundings :=
  ⟨host.toTools, (settings.templatesPath.map world.list).getD .missing,
    world.obstacle (settings.outputPath.getD standardOutput), host.time⟩

/-- What is done outside while a press is opened. -/
def openEffects (world : World) (host : Host) (settings : Settings) : List Effect :=
  (settings.templatesPath.map .list).toList ++
    [.ask (settings.outputPath.getD standardOutput),
      .report (openLog settings (world.around host settings))]

/-- The opening of a press leaves the browser alone: what is done is the same on every host. -/
theorem openEffects_eq (host host' : Host) (settings : Settings) :
    openEffects world host settings = openEffects world host' settings := rfl

theorem isWrite_openEffects (settings : Settings) :
    ∀ e ∈ openEffects world host settings, e.isWrite = false := by
  rw [openEffects]
  cases settings.templatesPath <;> simp [Effect.isWrite]

/-- Why a command ends whose press cannot be opened. -/
def complaintOf : OpenFault → Complaint
  | .fault cause => .fault cause
  | .panic report => .panic report

theorem after_listTemplates (host : Host) (settings : Settings) (effects : List Effect) :
    Attempt.after (listTemplates (Disk.recording world) settings) effects =
      (.ok (world.around host settings).templates,
        effects ++ (settings.templatesPath.map .list).toList) := by
  rw [listTemplates, World.around]
  cases settings.templatesPath with
  | none =>
      simp only [Option.map_none, Option.toList_none, List.append_nil]
      rfl
  | some path => rfl

theorem after_openPress (settings : Settings) (effects : List Effect) :
    Attempt.after (openPress (Disk.recording world) host settings) effects =
      ((openWith settings (world.around host settings)).mapError complaintOf,
        effects ++ openEffects world host settings) := by
  let shelf := settings.outputPath.getD standardOutput
  let around := world.around host settings
  let disk := Disk.recording world
  have hasked (before : List Effect) :
      Attempt.after (disk.obstacle shelf) before =
        (.ok (world.obstacle shelf), before ++ [.ask shelf]) := rfl
  have hreported (before : List Effect) :
      Attempt.after (disk.report (openLog settings around)) before =
        (.ok (), before ++ [.report (openLog settings around)]) := rfl
  refine (after_bind_ok (after_listTemplates host settings effects) _).trans <|
    (after_bind_ok (hasked _) _).trans <| (after_bind_ok (hreported _) _).trans ?_
  rw [List.append_assoc, List.append_assoc]
  change _ = ((openWith settings ⟨host.toTools, around.templates, world.obstacle shelf,
    host.time⟩).mapError complaintOf, _)
  generalize openWith settings _ = opened
  cases opened with
  | ok opened => rfl
  | error fault => cases fault <;> rfl

/-- Keeping copies never fails. -/
theorem after_keep (world : World) (renderings : List Rendering) (effects : List Effect) :
    ∃ more, Attempt.after (keep (Disk.recording world) renderings) effects = (.ok (), more) := by
  induction renderings generalizing effects with
  | nil => exact ⟨effects, rfl⟩
  | cons rendering rest ih =>
      rw [keep]
      cases rendering.filepath with
      | none => exact ih effects
      | some path => exact ih (effects ++ [.write path rendering.body])

/-! ## Whole runs -/

variable {words : List String}

theorem runIn_of_output {invocation : Invocation} {output : Output} {effects : List Effect}
    (hwords : Wish.ofWords words = .perform invocation)
    (h : Attempt.after (perform (Disk.recording world) host invocation) [] =
      (.ok output, effects)) : runIn world host words = (.done output, effects) := by
  unfold Attempt.after at h
  rw [runIn, run, hwords]
  simp only []
  rw [StateT.run_bind, h]
  rfl

theorem runIn_of_complaint {invocation : Invocation} {complaint : Complaint}
    {effects : List Effect} (hwords : Wish.ofWords words = .perform invocation)
    (h : Attempt.after (perform (Disk.recording world) host invocation) [] =
      (.error complaint, effects)) : runIn world host words = (.failed complaint, effects) := by
  unfold Attempt.after at h
  rw [runIn, run, hwords]
  simp only []
  rw [StateT.run_bind, h]
  rfl

end CanvasPress.CommandLine

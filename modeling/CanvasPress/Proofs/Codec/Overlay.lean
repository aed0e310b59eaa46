/-
# Partial settings

A configuration names the fields that it changes and leaves out the others.  `Changes` says
which fields are given and as what; laid over settings, it replaces these fields and no others.
The launch settings inside are partial too, and their changes are laid over those inside.

A configuration may be written in many ways: its members stand in any order, among any others
that the reader does not know.  `IsWrittenAs` is about all of them.
-/

import CanvasPress.Proofs.Codec.RoundTrip
import CanvasPress.Proofs.Json.Order

namespace CanvasPress

open Json

/-! ## Launch settings -/

/-- Launch settings of which any may be given. -/
structure LaunchSettings.Changes where
  headless : Option Bool := none
  sandbox : Option Bool := none
  singleProcess : Option Bool := none
  launchTimeoutMs : Option Nat := none
  extraArgs : Option (List String) := none
  /-- A path may be given as none. -/
  chromePath : Option (Option String) := none

namespace LaunchSettings.Changes

/-- The launch settings in which what is given replaces what was there. -/
def atop (given : Changes) (base : LaunchSettings) : LaunchSettings where
  headless := given.headless.getD base.headless
  sandbox := given.sandbox.getD base.sandbox
  singleProcess := given.singleProcess.getD base.singleProcess
  launchTimeoutMs := given.launchTimeoutMs.getD base.launchTimeoutMs
  extraArgs := given.extraArgs.getD base.extraArgs
  chromePath := given.chromePath.getD base.chromePath

/-- The time that a launch may take has 64 bits. -/
def IsBounded (given : Changes) : Prop :=
  ∀ n ∈ given.launchTimeoutMs, n < 2 ^ 64

/-- The members for what is given, in the order of the fields. -/
def members (given : Changes) : List (String × Draft) :=
  [givenMember "headless" (given.headless.map fun b => .ofJson (.bool b)),
    givenMember "sandbox" (given.sandbox.map fun b => .ofJson (.bool b)),
    givenMember "singleProcess" (given.singleProcess.map fun b => .ofJson (.bool b)),
    givenMember "launchTimeoutMs" (given.launchTimeoutMs.map fun n => .ofJson (.natural n)),
    givenMember "extraArgs" (given.extraArgs.map fun args => .ofJson (.array (args.map .text))),
    givenMember "chromePath" (given.chromePath.map fun path => .ofJson (.optionalText path))]
    |>.reduceOption

/-- The names of the fields. -/
def names : List String :=
  ["headless", "sandbox", "singleProcess", "launchTimeoutMs", "extraArgs", "chromePath"]

/-- An object has these members: what is given, and any that no field knows and that can be
skipped, in any order. -/
def IsWrittenAs (given : Changes) (written : List (String × Draft)) : Prop :=
  ∃ unknown, (∀ m ∈ unknown, m.1 ∉ names ∧ m.2.skip = .ok ()) ∧
    written.Perm (given.members ++ unknown)

theorem pairwise_apart_fields : LaunchSettings.shape.fields.Pairwise Field.Apart := by
  simp only [LaunchSettings.shape, List.pairwise_cons, List.forall_mem_cons, List.not_mem_nil,
    false_imp_iff, implies_true, List.Pairwise.nil, and_true]
  and_intros <;> exact apart_field fun _ _ _ => rfl

theorem decode_written {given : Changes} (hbounded : given.IsBounded)
    {written : List (String × Draft)} (h : given.IsWrittenAs written) (place : Place) :
    LaunchSettings.decode place (.record written) = .ok (given.atop {}) := by
  obtain ⟨unknown, hunknown, hperm⟩ := h
  have hgiven : Accepts place.inner LaunchSettings.shape.fields given.members
      LaunchSettings.shape.blank (given.atop {}) :=
    .given (rel_map fun value _ => boolean_bool value _) rfl <|
    .given (rel_map fun value _ => boolean_bool value _) rfl <|
    .given (rel_map fun value _ => boolean_bool value _) rfl <|
    .given (rel_map fun value hvalue => long_natural (hbounded value hvalue) _) rfl <|
    .given (rel_map fun value _ => listOf_texts value _) rfl <|
    .given (rel_map fun value _ => optional_optionalText (fun _ => rfl) value) rfl <|
    .nil _
  exact Shape.decode_of_perm LaunchSettings.nodup_fields pairwise_apart_fields hgiven hunknown
    hperm rfl

end LaunchSettings.Changes

/-! ## Settings -/

/-- Settings of which any may be given. -/
structure Settings.Changes where
  /-- A path may be given as none, and so may the limits below. -/
  templatesPath : Option (Option String) := none
  outputPath : Option (Option String) := none
  defaultTheme : Option String := none
  defaultDpi : Option Nat := none
  enableCaching : Option Bool := none
  cacheExpiryMs : Option Nat := none
  maxConcurrentRenders : Option Nat := none
  rasterQuality : Option Nat := none
  maxQueueDepth : Option (Option Nat) := none
  renderTimeoutMs : Option (Option Nat) := none
  /-- Launch settings are given in part. -/
  engine : Option LaunchSettings.Changes := none

namespace Settings.Changes

/-- The settings in which what is given replaces what was there. -/
def atop (given : Changes) (base : Settings) : Settings where
  templatesPath := given.templatesPath.getD base.templatesPath
  outputPath := given.outputPath.getD base.outputPath
  defaultTheme := given.defaultTheme.getD base.defaultTheme
  defaultDpi := given.defaultDpi.getD base.defaultDpi
  enableCaching := given.enableCaching.getD base.enableCaching
  cacheExpiryMs := given.cacheExpiryMs.getD base.cacheExpiryMs
  maxConcurrentRenders := given.maxConcurrentRenders.getD base.maxConcurrentRenders
  rasterQuality := given.rasterQuality.getD base.rasterQuality
  maxQueueDepth := given.maxQueueDepth.getD base.maxQueueDepth
  renderTimeoutMs := given.renderTimeoutMs.getD base.renderTimeoutMs
  engine := (given.engine.map fun engine => engine.atop base.engine).getD base.engine

/-- Every number that is given fits its field. -/
structure IsBounded (given : Changes) : Prop where
  defaultDpi : ∀ n ∈ given.defaultDpi, n < 2 ^ 32
  cacheExpiryMs : ∀ n ∈ given.cacheExpiryMs, n < 2 ^ 64
  maxConcurrentRenders : ∀ n ∈ given.maxConcurrentRenders, n < 2 ^ 64
  rasterQuality : ∀ n ∈ given.rasterQuality, n < 2 ^ 8
  maxQueueDepth : ∀ limit ∈ given.maxQueueDepth, ∀ n ∈ limit, n < 2 ^ 64
  renderTimeoutMs : ∀ limit ∈ given.renderTimeoutMs, ∀ n ∈ limit, n < 2 ^ 64
  engine : ∀ engine ∈ given.engine, engine.IsBounded

/-- The members for what is given, in the order of the fields.  The launch settings inside are
an object of its own members. -/
def members (given : Changes) (engine : Option (List (String × Draft))) : List (String × Draft) :=
  [givenMember "templatesPath" (given.templatesPath.map fun path => .ofJson (.optionalText path)),
    givenMember "outputPath" (given.outputPath.map fun path => .ofJson (.optionalText path)),
    givenMember "defaultTheme" (given.defaultTheme.map fun theme => .ofJson (.text theme)),
    givenMember "defaultDpi" (given.defaultDpi.map fun n => .ofJson (.natural n)),
    givenMember "enableCaching" (given.enableCaching.map fun b => .ofJson (.bool b)),
    givenMember "cacheExpiryMs" (given.cacheExpiryMs.map fun n => .ofJson (.natural n)),
    givenMember "maxConcurrentRenders"
      (given.maxConcurrentRenders.map fun n => .ofJson (.natural n)),
    givenMember "rasterQuality" (given.rasterQuality.map fun n => .ofJson (.natural n)),
    givenMember "maxQueueDepth" (given.maxQueueDepth.map fun n => .ofJson (.optionalNatural n)),
    givenMember "renderTimeoutMs"
      (given.renderTimeoutMs.map fun n => .ofJson (.optionalNatural n)),
    givenMember "engine" (engine.map .record)]
    |>.reduceOption

/-- The names of the fields. -/
def names : List String :=
  ["templatesPath", "outputPath", "defaultTheme", "defaultDpi", "enableCaching", "cacheExpiryMs",
    "maxConcurrentRenders", "rasterQuality", "maxQueueDepth", "renderTimeoutMs", "engine"]

/-- An object has these members: what is given, and any that no field knows and that can be
skipped, in any order.  Launch settings inside are written in the same way. -/
def IsWrittenAs (given : Changes) (written : List (String × Draft)) : Prop :=
  ∃ engine unknown, Option.Rel LaunchSettings.Changes.IsWrittenAs given.engine engine ∧
    (∀ m ∈ unknown, m.1 ∉ names ∧ m.2.skip = .ok ()) ∧
      written.Perm (given.members engine ++ unknown)

theorem IsWrittenAs.perm {given : Changes} {written again : List (String × Draft)}
    (h : given.IsWrittenAs written) (hperm : written.Perm again) : given.IsWrittenAs again := by
  obtain ⟨engine, unknown, hengine, hunknown, hwritten⟩ := h
  exact ⟨engine, unknown, hengine, hunknown, hperm.symm.trans hwritten⟩

theorem pairwise_apart_fields : Settings.shape.fields.Pairwise Field.Apart := by
  simp only [Settings.shape, List.pairwise_cons, List.forall_mem_cons, List.not_mem_nil,
    false_imp_iff, implies_true, List.Pairwise.nil, and_true]
  and_intros <;> exact apart_field fun _ _ _ => rfl

/-- The launch settings inside are decoded with their changes laid over the standard ones. -/
theorem decode_engine {given : Option LaunchSettings.Changes}
    {written : Option (List (String × Draft))} (hbounded : ∀ engine ∈ given, engine.IsBounded)
    (h : Option.Rel LaunchSettings.Changes.IsWrittenAs given written) (place : Place) :
    Option.Rel (fun value draft => LaunchSettings.decode place draft = .ok value)
      (given.map fun engine => engine.atop {})
      (written.map Draft.record) := by
  cases h with
  | none => exact .none
  | some hwritten => exact .some (LaunchSettings.Changes.decode_written (hbounded _ rfl) hwritten _)

theorem decode_written {given : Changes} (hbounded : given.IsBounded)
    {written : List (String × Draft)} (h : given.IsWrittenAs written) (place : Place) :
    Settings.decode place (.record written) = .ok (given.atop {}) := by
  obtain ⟨engine, unknown, hengine, hunknown, hperm⟩ := h
  have hpath (value : Option String) :
      optional path place.inner (Draft.ofJson (optionalText value)) = .ok value :=
    optional_optionalText (fun _ => rfl) value
  have hnumber {value : Option Nat} (hvalue : ∀ n ∈ value, n < 2 ^ 64) (type : String) :
      optional (naturalUpTo (twoTo 64 - 1) type) place.inner
        (Draft.ofJson (optionalNatural value)) = .ok value :=
    optional_optionalNatural (fun n hn => Nat.le_pred_of_lt (hvalue n hn)) type place.inner
  have hgiven : Accepts place.inner Settings.shape.fields (given.members engine)
      Settings.shape.blank (given.atop {}) :=
    .given (rel_map fun value _ => hpath value) rfl <|
    .given (rel_map fun value _ => hpath value) rfl <|
    .given (rel_map fun value _ => string_text value _) rfl <|
    .given (rel_map fun n hn => word_natural (hbounded.defaultDpi n hn) _) rfl <|
    .given (rel_map fun value _ => boolean_bool value _) rfl <|
    .given (rel_map fun n hn => long_natural (hbounded.cacheExpiryMs n hn) _) rfl <|
    .given (rel_map fun n hn => count_natural (hbounded.maxConcurrentRenders n hn) _) rfl <|
    .given (rel_map fun n hn => octet_natural (hbounded.rasterQuality n hn) _) rfl <|
    .given (rel_map fun limit hlimit => hnumber (hbounded.maxQueueDepth limit hlimit) _) rfl <|
    .given (rel_map fun limit hlimit => hnumber (hbounded.renderTimeoutMs limit hlimit) _) rfl <|
    .given (decode_engine hbounded.engine hengine _) rfl <|
    .nil _
  exact Shape.decode_of_perm nodup_fields pairwise_apart_fields hgiven hunknown hperm rfl

end Settings.Changes

/-! ## The theorem -/

/-- A partial configuration is laid over the defaults.  Any fields may be given, in any order and
among any members that no field knows, and of the launch settings any may be given in the same
way: the text is decoded, as the default settings with what is given in place of the defaults.
Every text with the same members in another order is decoded as the same. -/
theorem decodeText_changes {given : Settings.Changes} (hbounded : given.IsBounded)
    {written : List (String × Draft)} (hwritten : given.IsWrittenAs written) {text : String}
    (htext : Spells text (.record written)) :
    decodeText Settings.decode text = .ok (given.atop {}) ∧
      ∀ again text', written.Perm again → Spells text' (.record again) →
        decodeText Settings.decode text' = decodeText Settings.decode text := by
  have hdecoded {written : List (String × Draft)} {text : String} (h : given.IsWrittenAs written)
      (htext : Spells text (.record written)) :
      decodeText Settings.decode text = .ok (given.atop {}) :=
    (decodeText_of_spells _ htext).trans (Settings.Changes.decode_written hbounded h _)
  refine ⟨hdecoded hwritten htext, ?_⟩
  intro again text' hperm htext'
  rw [hdecoded (hwritten.perm hperm) htext', hdecoded hwritten htext]

/-- Fields of both levels are given out of order, among others that would be fields of the other
level. -/
theorem decodeText_changes_of_scattered_text :
    let given : Settings.Changes := {
      defaultTheme := some "é", rasterQuality := some 80, maxQueueDepth := some none,
      engine := some { sandbox := some true, chromePath := some none } }
    let engine : List (String × Json) :=
      [("rasterQuality", .array [.integer 1]), ("chromePath", .null), ("sandbox", .bool true)]
    let written : List (String × Json) :=
      [("headless", .object [("", .null)]), ("engine", .object engine), ("maxQueueDepth", .null),
        ("rasterQuality", .integer 80), ("defaultTheme", .text "é")]
    let drafts : List (String × Draft) := written.map fun m => (m.1, Draft.ofJson m.2)
    let settings : Settings := {
      defaultTheme := "é", rasterQuality := 80, engine := { sandbox := true } }
    given.IsBounded ∧ given.IsWrittenAs drafts ∧
      Spells (Json.object written).compact (.record drafts) ∧
        decodeText Settings.decode (Json.object written).compact = .ok settings := by
  intro given engine written drafts settings
  have hbounded : given.IsBounded :=
    ⟨nofun, nofun, nofun, fun n hn => by cases hn; decide, fun _ hn => by cases hn; exact nofun,
      nofun, fun _ hn => by cases hn; exact nofun⟩
  have hengine : LaunchSettings.Changes.IsWrittenAs
      { sandbox := some true, chromePath := some none }
      (engine.map fun m => (m.1, Draft.ofJson m.2)) := by
    refine ⟨[("rasterQuality", Draft.ofJson (.array [.integer 1]))], ?_, ?_⟩
    · exact List.forall_mem_singleton.2 ⟨by decide, skip_ofJson _⟩
    · exact List.reverse_perm
        [("sandbox", Draft.bool true), ("chromePath", Draft.null), _]
  have hwritten : given.IsWrittenAs drafts := by
    refine ⟨_, [("headless", Draft.ofJson (.object [("", .null)]))], .some hengine, ?_, ?_⟩
    · exact List.forall_mem_singleton.2 ⟨by decide, skip_ofJson _⟩
    · exact List.reverse_perm
        [("defaultTheme", Draft.text "é"), ("rasterQuality", Draft.integer 80),
          ("maxQueueDepth", Draft.null), ("engine", Draft.ofJson (.object engine)), _]
  have hportable : (Json.object written).IsPortable := by
    simp [written, engine, IsPortable, MembersPortable, ArePortable, IsWord]
  have htext : Spells (Json.object written).compact (.record drafts) := by
    have hspells := spells_compact hportable
    rwa [Draft.ofJson, ofMembers_eq_named] at hspells
  exact ⟨hbounded, hwritten, htext, (decodeText_changes hbounded hwritten htext).1⟩

end CanvasPress

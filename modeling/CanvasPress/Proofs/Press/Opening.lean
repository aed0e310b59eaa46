/-
# What opening a press may come to

Settings are validated so that a press can be opened with them.  Apart from the settings,
opening reads the directory of templates and makes a governor, and either may prevent it: a
directory that cannot be listed to its end is a failure like any other, while a governor asked
for more slots than it can count takes the whole program down.  The validation of settings has
no upper bound for the slots, so the second happens to valid settings, too.  Here is said for
all valid settings and every state of the directory which of the three comes about.
-/

import CanvasPress.Press.Open

namespace CanvasPress

/-- Why a directory cannot be listed to its end, if it cannot. -/
def Listing.fault? : Listing → Option FileFault
  | .missing => none
  | .file => some .notDirectory
  | .found _ => none
  | .broken _ cause => some cause

/-- Only a directory that cannot be listed keeps its templates from being loaded; files in it
that cannot be read do not. -/
theorem Template.Store.load_eq_error_iff {listing : Listing} {cause : Fault} :
    load listing = .error cause ↔
      ∃ reason, listing.fault? = some reason ∧ cause = .file reason := by
  cases listing <;> simp [load, Listing.fault?, eq_comm]

/-- A governor can be made just of slots that it can count, and starts with all of them free. -/
theorem Governor.make_eq_ok_iff {slots : Nat} {limit : Option Nat} {governor : Governor} :
    make slots limit = .ok governor ↔ slots ≤ maxCapacity ∧ governor = ofCapacity slots limit := by
  rw [make]
  split <;> simp [eq_comm] <;> omega

theorem Governor.make_eq_error_iff {slots : Nat} {limit : Option Nat} {report : String} :
    make slots limit = .error report ↔ maxCapacity < slots ∧ report = capacityReport := by
  rw [make]
  split <;> simp [eq_comm] <;> omega

/-- Settings are valid just if they ask for a slot, for a quality between one and a hundred,
and for a density. -/
theorem Settings.validate_eq_ok_iff {settings : Settings} :
    settings.validate = .ok () ↔ 1 ≤ settings.maxConcurrentRenders ∧
      1 ≤ settings.rasterQuality ∧ settings.rasterQuality ≤ 100 ∧ 1 ≤ settings.defaultDpi := by
  rw [validate]
  repeat' split
  all_goals simp
  all_goals omega

namespace Press

/-- Why the templates that settings name cannot be listed, if they name any and they cannot. -/
def Surroundings.obstacle? (around : Surroundings) (settings : Settings) : Option FileFault :=
  settings.templatesPath.bind fun _ => around.templates.fault?

variable {settings : Settings} {around : Surroundings}

theorem storeFor_eq_error_iff {cause : Fault} :
    storeFor settings around.templates = .error cause ↔
      ∃ reason, around.obstacle? settings = some reason ∧ cause = .file reason := by
  rw [storeFor, Surroundings.obstacle?]
  cases settings.templatesPath with
  | none => simp
  | some path => exact Template.Store.load_eq_error_iff

/-- Templates are at hand just if nothing keeps them from being listed. -/
theorem exists_storeFor_iff :
    (∃ store, storeFor settings around.templates = .ok store) ↔
      around.obstacle? settings = none := by
  cases hstore : storeFor settings around.templates with
  | error cause =>
      obtain ⟨reason, hreason, -⟩ := storeFor_eq_error_iff.1 hstore
      simp [hreason]
  | ok store =>
      have hnone : around.obstacle? settings = none := by
        rw [Option.eq_none_iff_forall_ne_some]
        intro reason hreason
        have herror := storeFor_eq_error_iff.2 ⟨reason, hreason, rfl⟩
        rw [hstore] at herror
        cases herror
      simp [hnone]

/-- Opening a press with valid settings ends in one of three ways.  It fails with what the
system reports just if the settings name templates that cannot be listed; otherwise it takes
the program down just if the settings ask for more slots than can be counted, and succeeds for
all other settings, with a press that runs under these settings and has all its slots free. -/
theorem opening_of_valid_settings (hvalid : settings.validate = .ok ()) :
    (∀ cause, openWith settings around = .error (.fault cause) ↔
      ∃ reason, around.obstacle? settings = some reason ∧ cause = .file reason) ∧
    (∀ report, openWith settings around = .error (.panic report) ↔
      around.obstacle? settings = none ∧
        Governor.maxCapacity < settings.maxConcurrentRenders ∧
          report = Governor.capacityReport) ∧
    (∀ studio start, openWith settings around = .ok (studio, start) ↔
      ∃ store, storeFor settings around.templates = .ok store ∧
        settings.maxConcurrentRenders ≤ Governor.maxCapacity ∧
          studio = ⟨around.toTools, settings, store, around.shelfFault, around.epoch⟩ ∧
          start = .fresh settings
            (.ofCapacity settings.maxConcurrentRenders settings.maxQueueDepth)) ∧
    ((∃ opened, openWith settings around = .ok opened) ↔
      around.obstacle? settings = none ∧
        settings.maxConcurrentRenders ≤ Governor.maxCapacity) := by
  rw [openWith, hvalid]
  cases hstore : storeFor settings around.templates with
  | error cause =>
      -- A directory that cannot be listed is reported before any slot is counted.
      obtain ⟨reason, hreason, rfl⟩ := storeFor_eq_error_iff.1 hstore
      simp [hreason, eq_comm]
  | ok store =>
      have hnone : around.obstacle? settings = none := exists_storeFor_iff.1 ⟨store, hstore⟩
      cases hmake : Governor.make settings.maxConcurrentRenders settings.maxQueueDepth with
      | error report =>
          obtain ⟨hmany, rfl⟩ := Governor.make_eq_error_iff.1 hmake
          have hnot : ¬ settings.maxConcurrentRenders ≤ Governor.maxCapacity := by omega
          simp [hnone, hmany, hnot, eq_comm]
      | ok governor =>
          obtain ⟨hfew, rfl⟩ := Governor.make_eq_ok_iff.1 hmake
          have hnot : ¬ Governor.maxCapacity < settings.maxConcurrentRenders := by omega
          simp [hnone, hfew, hnot, eq_comm]

/-- One slot more than can be counted: valid settings, and nothing keeps the templates from
being listed, but the program goes down.  With one slot fewer the press opens. -/
theorem opening_of_valid_settings_at_capacity :
    let most : Settings := { maxConcurrentRenders := Governor.maxCapacity }
    let more : Settings := { maxConcurrentRenders := Governor.maxCapacity + 1 }
    let around : Surroundings := ⟨.obliging, .missing, none, ⟨0, 0⟩⟩
    most.validate = .ok () ∧ more.validate = .ok () ∧
      (∃ opened, openWith most around = .ok opened) ∧
      openWith more around = .error (.panic Governor.capacityReport) := by
  intro most more around
  have hmost : most.validate = .ok () := Settings.validate_eq_ok_iff.2 (by decide)
  have hmore : more.validate = .ok () := Settings.validate_eq_ok_iff.2 (by decide)
  obtain ⟨-, -, -, hopens⟩ := @opening_of_valid_settings most around hmost
  obtain ⟨-, hdies, -, -⟩ := @opening_of_valid_settings more around hmore
  exact ⟨hmost, hmore, hopens.2 ⟨rfl, Nat.le_refl _⟩,
    (hdies _).2 ⟨rfl, Nat.lt_succ_self _, rfl⟩⟩

/-- Valid settings whose slots a machine word can hold need not open a press, nor be refused
with what the system reports of the templates. -/
theorem not_all_valid_settings_open :
    ¬ ∀ (settings : Settings) (around : Surroundings), settings.validate = .ok () →
      settings.maxConcurrentRenders < twoTo 64 →
        (∃ opened, openWith settings around = .ok opened) ∨
          ∃ cause, openWith settings around = .error (.fault (.file cause)) := by
  intro hall
  let settings : Settings := { maxConcurrentRenders := Governor.maxCapacity + 1 }
  let around : Surroundings := ⟨.obliging, .missing, none, ⟨0, 0⟩⟩
  have hpanic : openWith settings around = .error (.panic Governor.capacityReport) := rfl
  rcases hall settings around (Settings.validate_eq_ok_iff.2 (by decide)) (by decide) with
    ⟨opened, hopen⟩ | ⟨cause, hfault⟩
  · rw [hpanic] at hopen
    cases hopen
  · rw [hpanic] at hfault
    cases hfault

end Press

end CanvasPress

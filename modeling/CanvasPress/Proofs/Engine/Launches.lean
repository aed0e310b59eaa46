/-
# How often the engine is launched

A launch is attempted once, and once more after each shutdown that found a
running engine.  The invariant keeps a budget: as long as nothing is known about
the engine and no launch is under way, one launch fewer has been made than
shutdowns allow.  The attempts that are counted since the last shutdown are read
off the status, except that a failed engine may never have been launched.

For the count, but not for the budget, a caller who shuts a running engine down must
stay until its browser is closed.  If he leaves, the engine is free again and nothing
has been reset, so the next launch is counted on top of the last one.
-/

import CanvasPress.Proofs.Engine.Failure

namespace CanvasPress.Engine

variable {settings : LaunchSettings} {browser : Browser} {now who : Nat} {e : Engine}

/-- A step serves a shutdown and finds the engine running. -/
def ClosesReady (e : Engine) (step : Step) : Prop :=
  (e.served? step).map (·.2) = some .shutDown ∧ e.status = .ready

instance (e : Engine) (step : Step) : Decidable (e.ClosesReady step) :=
  inferInstanceAs (Decidable (_ ∧ _))

/-- How many shutdowns of a run find the engine running. -/
def readyShutDowns (settings : LaunchSettings) (browser : Browser) : Engine → List Step → Nat
  | _, [] => 0
  | e, step :: rest =>
    (if e.ClosesReady step then 1 else 0) +
      readyShutDowns settings browser (e.apply settings browser 0 step) rest

/-- In a step somebody leaves while the browser is being closed because he shuts the
engine down. -/
def AbandonsShutDown (e : Engine) (step : Step) : Prop :=
  ∃ c, e.busy = some (.close c) ∧ c.cause = .shutDown ∧ step = .leave c.caller

/-- In a run everybody who shuts the engine down stays until that is done. -/
def ClosersStay (settings : LaunchSettings) (browser : Browser) : Engine → List Step → Prop
  | _, [] => True
  | e, step :: rest =>
    ¬ e.AbandonsShutDown step ∧
      ClosersStay settings browser (e.apply settings browser 0 step) rest

/-- A launch is under way. -/
def IsLaunching (e : Engine) : Prop :=
  ∃ l, e.busy = some (.launch l)

/-- The launches made, given the number of shutdowns that found the engine running. -/
structure Budgeted (shutDowns : Nat) (e : Engine) : Prop where
  total : e.launches ≤ shutDowns + 1
  /-- One launch may come as long as nothing is known. -/
  spare : e.status = .uninitialized → ¬ e.IsLaunching → e.launches ≤ shutDowns

/-- The attempts counted, by what is known about the engine. -/
structure Counted (e : Engine) : Prop where
  atMostOne : e.attempts ≤ 1
  launching : e.IsLaunching → e.attempts = 1
  running : e.status = .ready → e.attempts = 1
  unused : e.busy = none → e.status = .uninitialized → e.attempts = 0

theorem budgeted_fresh : Budgeted 0 fresh where
  total := Nat.zero_le 1
  spare _ _ := Nat.le_refl 0

theorem counted_fresh : Counted fresh where
  atMostOne := Nat.zero_le 1
  launching := fun ⟨_, hbusy⟩ => by cases hbusy
  running hready := by cases hready
  unused _ _ := rfl

/-- The budget reads nothing but status, task and launches. -/
theorem Budgeted.congr {e' : Engine} {shutDowns : Nat} (h : e.Budgeted shutDowns)
    (hstatus : e'.status = e.status) (hbusy : e'.busy = e.busy)
    (hlaunches : e'.launches = e.launches) : e'.Budgeted shutDowns where
  total := hlaunches ▸ h.total
  spare huninitialized hquiet := hlaunches ▸ h.spare (hstatus ▸ huninitialized)
    (by rwa [IsLaunching, ← hbusy])

/-- The count reads nothing but status, task and attempts. -/
theorem Counted.congr {e' : Engine} (h : e.Counted) (hstatus : e'.status = e.status)
    (hbusy : e'.busy = e.busy) (hattempts : e'.attempts = e.attempts) : e'.Counted where
  atMostOne := hattempts ▸ h.atMostOne
  launching hlaunching := hattempts ▸ h.launching (by rwa [IsLaunching, ← hbusy])
  running hready := hattempts ▸ h.running (hstatus ▸ hready)
  unused hidle huninitialized := hattempts ▸ h.unused (hbusy ▸ hidle) (hstatus ▸ huninitialized)

theorem not_isLaunching_of_not_busy (hbusy : e.busy = none) : ¬ e.IsLaunching := by
  rintro ⟨l, hlaunch⟩
  rw [hbusy] at hlaunch
  cases hlaunch

/-! ## Serving a request -/

/-- What serving a request does to launches and attempts: nothing, or one more of each
because nothing was known about the engine, or a reset of the attempts by a shutdown
that found no engine to close. -/
theorem serve_cases (now who : Nat) (hbusy : e.busy = none) (request : Request) :
    let f := e.serve now who request
    (f.launches = e.launches ∧ f.attempts = e.attempts ∧ f.busy = none ∧
        (f.status = e.status ∨ ∃ reason, f.status = .failed reason)) ∨
      (e.status = .uninitialized ∧ f.launches = e.launches + 1 ∧
        f.attempts = e.attempts + 1 ∧ f.IsLaunching ∧ f.status = e.status) ∨
      (e.status = .ready ∧ f.launches = e.launches ∧ f.attempts = e.attempts ∧
        ¬ f.IsLaunching ∧ f.busy ≠ none ∧
        ((request = .shutDown ∧ f.status = .uninitialized) ∨
          ∃ reason, f.status = .failed reason)) ∨
      (e.status ≠ .ready ∧ f.launches = e.launches ∧ f.attempts = 0 ∧ f.busy = none ∧
        f.status = e.status) := by
  cases request with
  | use purpose =>
      cases hstatus : e.status with
      | ready => exact .inl (by simp [serve, hstatus, hbusy])
      | failed reason => exact .inl (by simp [serve, hstatus, hbusy, reply])
      | uninitialized =>
          exact .inr (.inl (by simp [serve, hstatus, beginLaunch, IsLaunching]))
  | disable reason =>
      by_cases hready : e.status = .ready
      · exact .inr (.inr (.inl (by simp [serve, hready, beginClose, IsLaunching])))
      · exact .inl (by simp [serve, hready, hbusy, conclude, reply])
  | shutDown =>
      by_cases hready : e.status = .ready
      · exact .inr (.inr (.inl (by simp [serve, hready, beginClose, IsLaunching])))
      · exact .inr (.inr (.inr (by simp [serve, hready, hbusy, conclude, reply])))
  | inspect => exact .inl (by simp [serve, hbusy, reply])

/-- A shutdown that finds the engine running allows for one more launch. -/
theorem Budgeted.serve (now who : Nat) {shutDowns : Nat} (hbusy : e.busy = none)
    (h : e.Budgeted shutDowns) (request : Request) :
    (e.serve now who request).Budgeted
      (shutDowns + if request = .shutDown ∧ e.status = .ready then 1 else 0) := by
  have htotal := h.total
  have hspare := fun huninitialized => h.spare huninitialized (not_isLaunching_of_not_busy hbusy)
  rcases serve_cases now who hbusy request with
    ⟨hlaunches, -, -, hstatus⟩ | ⟨huninitialized, hlaunches, -, hlaunching, -⟩ |
      ⟨hready, hlaunches, -, -, -, hstatus⟩ | ⟨-, hlaunches, -, -, hstatus⟩
  · refine ⟨by omega, fun huninitialized _ => ?_⟩
    rcases hstatus with hstatus | ⟨reason, hstatus⟩
    · have := hspare (hstatus ▸ huninitialized)
      omega
    · rw [hstatus] at huninitialized
      cases huninitialized
  · have := hspare huninitialized
    exact ⟨by omega, fun _ hquiet => absurd hlaunching hquiet⟩
  · rcases hstatus with ⟨hrequest, -⟩ | ⟨reason, hstatus⟩
    · rw [if_pos ⟨hrequest, hready⟩]
      exact ⟨by omega, fun _ _ => by omega⟩
    · refine ⟨by omega, fun huninitialized _ => ?_⟩
      rw [hstatus] at huninitialized
      cases huninitialized
  · refine ⟨by omega, fun huninitialized _ => ?_⟩
    have := hspare (hstatus ▸ huninitialized)
    omega

theorem Counted.serve (hbusy : e.busy = none) (h : e.Counted) (request : Request) :
    (e.serve now who request).Counted := by
  have hatMostOne := h.atMostOne
  rcases serve_cases now who hbusy request with
    ⟨-, hattempts, hidle, hstatus⟩ | ⟨huninitialized, -, hattempts, hlaunching, hstatus⟩ |
      ⟨-, -, hattempts, hquiet, hheld, hstatus⟩ | ⟨hready, -, hattempts, hidle, hstatus⟩
  · refine ⟨by omega, fun hlaunching => absurd hlaunching (not_isLaunching_of_not_busy hidle),
      fun hready => ?_, fun _ huninitialized => ?_⟩
    · rcases hstatus with hstatus | ⟨reason, hstatus⟩
      · exact hattempts.trans (h.running (hstatus ▸ hready))
      · rw [hstatus] at hready
        cases hready
    · rcases hstatus with hstatus | ⟨reason, hstatus⟩
      · exact hattempts.trans (h.unused hbusy (hstatus ▸ huninitialized))
      · rw [hstatus] at huninitialized
        cases huninitialized
  · have hunused := h.unused hbusy huninitialized
    refine ⟨by omega, fun _ => by omega, fun _ => by omega, fun hidle => ?_⟩
    obtain ⟨l, hlaunch⟩ := hlaunching
    rw [hidle] at hlaunch
    cases hlaunch
  · refine ⟨by omega, fun hlaunching => absurd hlaunching hquiet, fun hready => ?_,
      fun hidle => absurd hidle hheld⟩
    rcases hstatus with ⟨-, hstatus⟩ | ⟨reason, hstatus⟩
    all_goals
      rw [hstatus] at hready
      cases hready
  · exact ⟨by omega, fun hlaunching => absurd hlaunching (not_isLaunching_of_not_busy hidle),
      fun hready' => absurd (hstatus ▸ hready') hready, fun _ _ => hattempts⟩

/-! ## The end of a task -/

/-- Nobody knows less after a launch than before. -/
theorem launchStatus_ne_uninitialized (settings : LaunchSettings) (browser : Browser)
    (number : Nat) : launchStatus settings browser number ≠ .uninitialized := by
  unfold launchStatus
  split
  · exact fun h => by cases h
  · split <;> exact fun h => by cases h

/-- What the end of a task does to launches and attempts: a launch leaves both and the
status known, the end of a closing browser leaves the status and may reset the attempts. -/
theorem settle_cases (settings : LaunchSettings) (browser : Browser) (now : Nat)
    (order : Orderly e) :
    let f := e.settle settings browser now
    f.launches = e.launches ∧ f.busy = none ∧
      ((f.attempts = e.attempts ∧ (f = e ∨
          (e.IsLaunching ∧ f.status ≠ .uninitialized) ∨ ∃ reason, f.status = .failed reason)) ∨
        (f.attempts = 0 ∧ ¬ e.IsLaunching ∧ e.status = .uninitialized ∧
          f.status = .uninitialized)) := by
  cases hbusy : e.busy with
  | none => simp [settle, hbusy]
  | some task =>
      cases task with
      | launch l =>
          obtain ⟨hstatus, hidle, -, hattempts, hlaunches⟩ := landFor_frame now l.caller
            { e with
              status := launchStatus settings browser l.number
              available := launchStatus settings browser l.number = Status.ready
              busy := none }
          simp only [settle, hbusy, endLaunch]
          exact ⟨hlaunches, hidle, .inl ⟨hattempts, .inr (.inl ⟨⟨l, hbusy⟩,
            hstatus ▸ launchStatus_ne_uninitialized settings browser l.number⟩)⟩⟩
      | close c =>
          have hquiet : ¬ e.IsLaunching := by
            rintro ⟨l, hlaunch⟩
            rw [hbusy] at hlaunch
            cases hlaunch
          cases hcause : c.cause with
          | disabled reason =>
              have hfailed := order.disabling c reason hbusy hcause
              simp [settle, hbusy, endClose, conclude, hcause, reply, hfailed]
          | shutDown =>
              have huninitialized := order.shuttingDown c hbusy hcause
              simp [settle, hbusy, endClose, conclude, hcause, reply, huninitialized, hquiet]

theorem Budgeted.settle {shutDowns : Nat} (order : Orderly e) (h : e.Budgeted shutDowns) :
    (e.settle settings browser now).Budgeted shutDowns := by
  have hcases := settle_cases settings browser now order
  obtain ⟨hlaunches, -, ⟨-, hsame | ⟨-, hknown⟩ | ⟨reason, hstatus⟩⟩ | ⟨-, hquiet, hbefore, -⟩⟩ :=
    hcases
  · rwa [hsame]
  · exact ⟨hlaunches ▸ h.total, fun huninitialized _ => absurd huninitialized hknown⟩
  · refine ⟨hlaunches ▸ h.total, fun huninitialized _ => ?_⟩
    rw [hstatus] at huninitialized
    cases huninitialized
  · exact ⟨hlaunches ▸ h.total, fun _ _ => hlaunches ▸ h.spare hbefore hquiet⟩

theorem Counted.settle (order : Orderly e) (h : e.Counted) :
    (e.settle settings browser now).Counted := by
  have hcases := settle_cases settings browser now order
  obtain ⟨-, hidle, ⟨hattempts, hsame | ⟨hlaunching, hknown⟩ | ⟨reason, hstatus⟩⟩ |
    ⟨hattempts, -, -, hstatus⟩⟩ := hcases
  · rwa [hsame]
  · exact ⟨hattempts ▸ h.atMostOne,
      fun hlaunching' => absurd hlaunching' (not_isLaunching_of_not_busy hidle),
      fun _ => hattempts ▸ h.launching hlaunching,
      fun _ huninitialized => absurd huninitialized hknown⟩
  · refine ⟨hattempts ▸ h.atMostOne,
      fun hlaunching => absurd hlaunching (not_isLaunching_of_not_busy hidle),
      fun hready => ?_, fun _ huninitialized => ?_⟩
    · rw [hstatus] at hready
      cases hready
    · rw [hstatus] at huninitialized
      cases huninitialized
  · refine ⟨by omega, fun hlaunching => absurd hlaunching (not_isLaunching_of_not_busy hidle),
      fun hready => ?_, fun _ _ => hattempts⟩
    rw [hstatus] at hready
    cases hready

/-! ## Leaving -/

/-- Whoever leaves stops nobody's launch. -/
theorem isLaunching_leave (who : Nat) (e : Engine) :
    (e.leave who).IsLaunching ↔ e.IsLaunching := by
  cases hbusy : e.busy with
  | none => simp [leave, hbusy, IsLaunching]
  | some task =>
      cases task with
      | launch l => simp [leave, hbusy, Task.withoutCaller, IsLaunching]
      | close c =>
          by_cases hcaller : c.caller = who
          · simp [leave, hbusy, Task.withoutCaller, hcaller, IsLaunching]
          · simp [leave, hbusy, Task.withoutCaller, hcaller, IsLaunching]

/-- Whoever leaves without abandoning a shutdown frees an engine of which nothing is known
only if it was free before. -/
theorem not_busy_of_leave (order : Orderly e) (hstays : ¬ e.AbandonsShutDown (.leave who))
    (hidle : (e.leave who).busy = none) (huninitialized : e.status = .uninitialized) :
    e.busy = none := by
  cases hbusy : e.busy with
  | none => rfl
  | some task =>
      cases task with
      | launch l => simp [leave, hbusy, Task.withoutCaller] at hidle
      | close c =>
          have hcaller : c.caller = who := by
            by_contra hcaller
            simp [leave, hbusy, Task.withoutCaller, hcaller] at hidle
          cases hcause : c.cause with
          | shutDown => exact absurd ⟨c, hbusy, hcause, congrArg Step.leave hcaller.symm⟩ hstays
          | disabled reason =>
              have hfailed := order.disabling c reason hbusy hcause
              rw [huninitialized] at hfailed
              cases hfailed

theorem Budgeted.leave {shutDowns : Nat} (h : e.Budgeted shutDowns) (who : Nat) :
    (e.leave who).Budgeted shutDowns where
  total := h.total
  spare huninitialized hquiet :=
    h.spare huninitialized fun hlaunching => hquiet ((isLaunching_leave who e).2 hlaunching)

theorem Counted.leave (order : Orderly e) (h : e.Counted)
    (hstays : ¬ e.AbandonsShutDown (.leave who)) : (e.leave who).Counted where
  atMostOne := h.atMostOne
  launching hlaunching := h.launching ((isLaunching_leave who e).1 hlaunching)
  running := h.running
  unused hidle huninitialized :=
    h.unused (not_busy_of_leave order hstays hidle huninitialized) huninitialized

/-! ## One step -/

/-- A step that serves nobody and neither ends a task nor lets anybody leave changes
nothing that is counted. -/
theorem apply_frame_of_not_served (settings : LaunchSettings) (browser : Browser) (now : Nat)
    {step : Step} (hserved : e.served? step = none)
    (hsettle : step ≠ .settle) (hleave : ∀ who, step ≠ .leave who) :
    let f := e.apply settings browser now step
    f.status = e.status ∧ f.busy = e.busy ∧ f.attempts = e.attempts ∧
      f.launches = e.launches := by
  cases step with
  | ask who request =>
      by_cases hidle : e.isIdle = true
      · simp [served?, hidle] at hserved
      · simp [Engine.apply, ask, hidle]
  | leave who => exact absurd rfl (hleave who)
  | settle => exact absurd rfl hsettle
  | serveNext =>
      obtain hbusy | ⟨task, hbusy⟩ := Option.eq_none_or_eq_some e.busy
      · have hqueue : e.queue = [] := by simpa [served?, hbusy] using hserved
        simp [Engine.apply, serveNext_of_empty hqueue]
      · simp [Engine.apply, serveNext_of_busy hbusy]
  | endPrint who =>
      obtain ⟨hstatus, hbusy, -, hattempts, hlaunches⟩ := endPrint_frame browser who e
      exact ⟨hstatus, hbusy, hattempts, hlaunches⟩

/-- Every step keeps to the budget. -/
theorem Budgeted.apply {shutDowns : Nat} (order : Orderly e) (h : e.Budgeted shutDowns)
    (step : Step) :
    (e.apply settings browser now step).Budgeted
      (shutDowns + if e.ClosesReady step then 1 else 0) := by
  cases hserved : e.served? step with
  | some served =>
      obtain ⟨who, request⟩ := served
      obtain ⟨hbusy, queue, happly⟩ := apply_of_served settings browser now hserved
      have hcloses : e.ClosesReady step ↔ request = .shutDown ∧ e.status = .ready := by
        simp [ClosesReady, hserved]
      have hserve := Budgeted.serve (e := { e with queue := queue }) now who
        hbusy (h.congr rfl rfl rfl) request
      rw [happly]
      simpa only [hcloses] using hserve
  | none =>
      have hcloses : ¬ e.ClosesReady step := by simp [ClosesReady, hserved]
      rw [if_neg hcloses, Nat.add_zero]
      cases step with
      | leave who => exact h.leave who
      | settle => exact h.settle order
      | _ =>
          obtain ⟨hstatus, hbusy, -, hlaunches⟩ := apply_frame_of_not_served settings
            browser now hserved (fun h => by cases h) (fun _ h => by cases h)
          exact h.congr hstatus hbusy hlaunches

/-- Every step keeps the count, as long as nobody abandons a shutdown. -/
theorem Counted.apply (order : Orderly e) (h : e.Counted) {step : Step}
    (hstays : ¬ e.AbandonsShutDown step) : (e.apply settings browser now step).Counted := by
  cases hserved : e.served? step with
  | some served =>
      obtain ⟨who, request⟩ := served
      obtain ⟨hbusy, queue, happly⟩ := apply_of_served settings browser now hserved
      rw [happly]
      exact Counted.serve (e := { e with queue := queue }) hbusy (h.congr rfl rfl rfl) request
  | none =>
      cases step with
      | leave who => exact h.leave order hstays
      | settle => exact h.settle order
      | _ =>
          obtain ⟨hstatus, hbusy, hattempts, -⟩ := apply_frame_of_not_served settings
            browser now hserved (fun h => by cases h) (fun _ h => by cases h)
          exact h.congr hstatus hbusy hattempts

/-! ## Runs -/

/-- A run keeps to the budget: every shutdown that finds the engine running allows for
one more launch. -/
theorem Budgeted.run {shutDowns : Nat} (order : Orderly e) (h : e.Budgeted shutDowns)
    (settings : LaunchSettings) (browser : Browser) (steps : List Step) :
    (e.run settings browser steps).Budgeted
      (shutDowns + readyShutDowns settings browser e steps) := by
  induction steps generalizing e shutDowns with
  | nil => exact h
  | cons step rest ih =>
      have hrest := ih (order.apply settings browser 0 step) (h.apply order step)
      rwa [Nat.add_assoc] at hrest

/-- A run in which closers stay keeps the count. -/
theorem Counted.run (order : Orderly e) (h : e.Counted) {steps : List Step}
    (hstays : ClosersStay settings browser e steps) :
    (e.run settings browser steps).Counted := by
  induction steps generalizing e with
  | nil => exact h
  | cons step rest ih =>
      exact ih (order.apply settings browser 0 step) (h.apply order hstays.1) hstays.2

/-- Launches and the final failure of an engine, after every run from the engine that
nobody has used, for every browser and all settings, with any number of callers who
ask, wait and leave in any order:

* the launcher is called at most once more often than shutdowns find the engine running;
* at most one attempt is counted, and when nothing keeps the engine busy the count is one
  for a running engine and zero for one of which nothing is known, provided that nobody
  left while the engine was shut down for him;
* a failed engine stays failed and its launcher is not called any more; the reason on
  record changes only when a request to disable is served; whoever's wish to use the
  engine is served gets this reason, and whoever waits is served. -/
theorem launches_bounded_and_failure_final (settings : LaunchSettings) (browser : Browser)
    (steps : List Step) :
    let e := fresh.run settings browser steps
    e.launches ≤ 1 + readyShutDowns settings browser fresh steps ∧
      (ClosersStay settings browser fresh steps →
        e.attempts ≤ 1 ∧
        (e.busy = none → (e.status = .ready → e.attempts = 1) ∧
          (e.status = .uninitialized → e.attempts = 0))) ∧
      ∀ reason, e.status = .failed reason → ∀ later,
        let f := e.run settings browser later
        ∃ recorded, f.status = .failed recorded ∧
          f.launches = e.launches ∧
          (∀ step, (f.apply settings browser 0 step).launches = e.launches ∧
            ((f.apply settings browser 0 step).status = .failed recorded ∨
              ∃ who other, f.served? step = some (who, .disable other) ∧
                (f.apply settings browser 0 step).status = .failed other) ∧
            ∀ who purpose, f.served? step = some (who, .use purpose) →
              (f.apply settings browser 0 step).replyTo who =
                some (.unavailable recorded)) ∧
          ∀ who purpose, (who, .use purpose) ∈ f.queue → ∃ turns other,
            let last := f.run settings browser (.settle :: List.replicate turns .serveNext)
            last.status = .failed other ∧ last.replyTo who = some (.unavailable other) := by
  intro e
  have order : Orderly e := orderly_fresh.run settings browser steps
  have budget := budgeted_fresh.run orderly_fresh settings browser steps
  refine ⟨?_, fun hstays => ?_, fun reason hfailed later => ?_⟩
  · have htotal := budget.total
    rwa [Nat.zero_add, Nat.add_comm] at htotal
  · have count : e.Counted := counted_fresh.run orderly_fresh hstays
    exact ⟨count.atMostOne, fun hidle => ⟨count.running, count.unused hidle⟩⟩
  · obtain ⟨⟨recorded, hrecorded⟩, hlaunches⟩ := run_of_failed order hfailed settings browser later
    have orderLater := order.run settings browser later
    refine ⟨recorded, hrecorded, hlaunches, fun step => ?_, fun who purpose hwaiting => ?_⟩
    · obtain ⟨hcalls, hstatus⟩ := apply_of_failed orderLater hrecorded settings browser 0 step
      exact ⟨hcalls.trans hlaunches, hstatus,
        fun who purpose hserved => replyTo_apply_of_failed hrecorded hserved⟩
    · exact replyTo_of_waiting orderLater hrecorded hwaiting settings browser

/-- In a run in which nobody leaves nobody abandons a shutdown. -/
theorem closersStay_of_nobody_leaves {steps : List Step} (h : ∀ who, .leave who ∉ steps) :
    ClosersStay settings browser e steps := by
  induction steps generalizing e with
  | nil => trivial
  | cons step rest ih =>
      refine ⟨?_, ih fun who hmem => h who (List.mem_cons_of_mem _ hmem)⟩
      rintro ⟨c, -, -, rfl⟩
      exact h c.caller List.mem_cons_self

/-- An engine is launched, shut down, launched again and disabled; whoever then wants to
print is told why he cannot. -/
theorem launches_bounded_and_failure_final_after_relaunch :
    let steps : List Step := [.ask 0 .obtain, .settle, .ask 1 .shutDown, .settle,
      .ask 2 .obtain, .settle, .ask 3 (.disable "worn out"), .settle]
    let e := fresh.run {} .obliging steps
    ClosersStay {} .obliging fresh steps ∧
      e.launches ≤ 1 + readyShutDowns {} .obliging fresh steps ∧ e.launches = 2 ∧
      e.attempts ≤ 1 ∧
      e.status = .failed "worn out" ∧
      e.served? (.ask 4 (.print "page" .a4Landscape)) =
        some (4, .use (.print "page" .a4Landscape)) ∧
      ∃ recorded, e.status = .failed recorded ∧
        (e.apply {} .obliging 0 (.ask 4 (.print "page" .a4Landscape))).replyTo 4 =
          some (.unavailable recorded) := by
  intro steps e
  have hstays : ClosersStay {} .obliging fresh steps :=
    closersStay_of_nobody_leaves (by simp [steps])
  obtain ⟨hbudget, hcounts, hfinal⟩ := launches_bounded_and_failure_final {} .obliging steps
  obtain ⟨recorded, hrecorded, -, hsteps, -⟩ := hfinal "worn out" rfl []
  exact ⟨hstays, hbudget, rfl, (hcounts hstays).1, rfl, rfl, recorded, hrecorded,
    (hsteps (.ask 4 (.print "page" .a4Landscape))).2.2 4 _ rfl⟩

/-- Why closers must stay: a shutdown that is abandoned leaves its count behind, and
the next launch is the second one counted. -/
example :
    (fresh.run {} .obliging [.ask 0 .obtain, .settle, .ask 1 .shutDown, .leave 1,
      .ask 2 .obtain]).attempts = 2 := rfl

end CanvasPress.Engine

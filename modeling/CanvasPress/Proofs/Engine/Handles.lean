/-
# Every browser is closed once

A browser that was launched is closed when the engine stops running, and at no other time.
So what has been closed, with the one that may be running, is what was launched.  Whether a
browser runs can also be read without waiting; what is read there is late only while a browser
is being closed.  A shutdown leaves nothing for a second one to do.

Whoever leaves while a browser is closed for him leaves what can be read behind as it is, so
it is to be trusted only where nobody leaves.
-/

import CanvasPress.Proofs.Engine.Outlook
import CanvasPress.Proofs.Engine.Sessions

namespace CanvasPress.Engine

variable {settings : LaunchSettings} {browser : Browser} {now who : Nat} {e f : Engine}
  {request : Request} {step : Step}

/-- How often the engine begins to run. -/
def timesReady (settings : LaunchSettings) (browser : Browser) : Engine → List Step → Nat
  | _, [] => 0
  | e, step :: rest =>
    let f := e.apply settings browser 0 step
    (if e.status ≠ .ready ∧ f.status = .ready then 1 else 0) + timesReady settings browser f rest

/-- A browser is being closed. -/
def IsClosing (e : Engine) : Prop :=
  ∃ c, e.busy = some (.close c)

/-! ## Closing -/

/-- A browser is closed between two engines, or the one that runs is left running. -/
inductive Closes (ends : Prop) (e f : Engine) : Prop where
  | kept (closes : f.closes = e.closes) (running : e.status = .ready → f.status = .ready)
  | closed (before : e.status = .ready) (after : f.status ≠ .ready)
      (closes : f.closes = e.closes + 1) (grounds : ends)

theorem closes_conclude (cause : Cause) : (e.conclude who cause).closes = e.closes := by
  cases cause <;> rfl

theorem closes_grant (purpose : Purpose) : (e.grant now who purpose).closes = e.closes := by
  cases purpose <;> rfl

/-- Only a request for the end of the engine closes a browser. -/
theorem closes_serve (now who : Nat) (request : Request) (e : Engine) :
    Closes (¬ request.IsMild) e (e.serve now who request) := by
  cases request with
  | use purpose =>
      cases hstatus : e.status with
      | ready =>
          simp only [serve, hstatus]
          exact .kept (closes_grant purpose) fun _ => by rw [status_grant, hstatus]
      | failed reason =>
          simp only [serve, hstatus]
          exact .kept rfl id
      | uninitialized =>
          simp only [serve, hstatus]
          exact .kept rfl id
  | disable reason =>
      simp only [serve]
      split_ifs with hready
      · exact .closed hready (fun h => by cases h) rfl id
      · exact .kept (closes_conclude _) fun h => absurd h hready
  | shutDown =>
      simp only [serve]
      split_ifs with hready
      · exact .closed hready (fun h => by cases h) rfl id
      · exact .kept (closes_conclude _) fun h => absurd h hready
  | inspect => exact .kept rfl id

/-- The end of a task closes nothing: a browser that is being closed has been counted. -/
theorem closes_settle (order : e.Orderly) {ends : Prop} (now : Nat) :
    Closes ends e (e.settle settings browser now) := by
  cases hbusy : e.busy with
  | none =>
      rw [settle_of_not_busy hbusy]
      exact .kept rfl id
  | some task =>
      cases task with
      | launch l =>
          have hunknown := order.launching l hbusy
          refine .kept ?_ fun hready => by rw [hunknown] at hready; cases hready
          simp only [settle, hbusy, endLaunch, landFor]
          split
          · exact closes_grant _
          · rfl
          · rfl
      | close c =>
          simp only [settle, hbusy, endClose]
          exact .kept (closes_conclude _) fun hready => by rw [status_conclude]; exact hready

theorem closes_endPrint (browser : Browser) (who : Nat) (e : Engine) :
    (e.endPrint browser who).closes = e.closes := by
  unfold endPrint
  split
  · rfl
  · dsimp only
    split <;> rfl

/-- A browser is closed just when a request is served that ends a running engine. -/
theorem closes_apply (order : e.Orderly) (settings : LaunchSettings) (browser : Browser)
    (now : Nat) (step : Step) :
    Closes (∃ who request, e.served? step = some (who, request) ∧ ¬ request.IsMild) e
      (e.apply settings browser now step) := by
  cases hserved : e.served? step with
  | some served =>
      obtain ⟨who, request⟩ := served
      obtain ⟨-, queue, happly⟩ := apply_of_served settings browser now hserved
      rw [happly]
      cases closes_serve now who request { e with queue := queue } with
      | kept closes running => exact .kept closes running
      | closed before after closes hends =>
          exact .closed before after closes ⟨who, request, rfl, hends⟩
  | none =>
      cases step with
      | ask who request =>
          have hidle : ¬ e.isIdle = true := fun hidle => by simp [served?, hidle] at hserved
          rw [Engine.apply, Engine.ask, if_neg hidle]
          exact .kept rfl id
      | leave who => exact .kept rfl id
      | settle => exact closes_settle order now
      | serveNext =>
          have hsame : e.serveNext now = e := by
            obtain hbusy | ⟨task, hbusy⟩ := Option.eq_none_or_eq_some e.busy
            · exact serveNext_of_empty (by simpa [served?, hbusy] using hserved)
            · exact serveNext_of_busy hbusy
          rw [Engine.apply, hsame]
          exact .kept rfl id
      | endPrint who =>
          exact .kept (closes_endPrint browser who e) fun hready =>
            (endPrint_frame browser who e).1.trans hready

namespace Closes

variable {ends : Prop}

theorem closes_eq (h : Closes ends e f) :
    f.closes = e.closes + if e.status = .ready ∧ f.status ≠ .ready then 1 else 0 := by
  cases h with
  | kept closes running =>
      rw [if_neg fun hstopped => hstopped.2 (running hstopped.1), closes, Nat.add_zero]
  | closed before after closes => rw [if_pos ⟨before, after⟩, closes]

theorem ends_of_ne (h : Closes ends e f) (hne : f.closes ≠ e.closes) : ends := by
  cases h with
  | kept closes => exact absurd closes hne
  | closed _ _ _ grounds => exact grounds

/-- Browsers closed, with the one that runs, grow by the one that begins to run. -/
theorem balance (h : Closes ends e f) :
    f.closes + (if f.status = .ready then 1 else 0) =
      e.closes + (if e.status = .ready then 1 else 0) +
        if e.status ≠ .ready ∧ f.status = .ready then 1 else 0 := by
  cases h with
  | kept closes running =>
      by_cases hbefore : e.status = .ready
      · simp [hbefore, running hbefore, closes]
      · simp [hbefore, closes]
  | closed before after closes => simp [before, after, closes]

end Closes

/-- Browsers closed, with the one that runs, are those of the beginning and those that began to
run. -/
theorem closes_run (order : e.Orderly) (settings : LaunchSettings) (browser : Browser)
    (steps : List Step) :
    let f := e.run settings browser steps
    f.closes + (if f.status = .ready then 1 else 0) =
      e.closes + (if e.status = .ready then 1 else 0) + timesReady settings browser e steps := by
  induction steps generalizing e with
  | nil => rfl
  | cons step rest ih =>
      have hstep := (closes_apply order settings browser 0 step).balance
      have hrest := ih (order.apply settings browser 0 step)
      rw [timesReady, ← Nat.add_assoc, ← hstep]
      exact hrest

/-! ## What can be read without waiting -/

/-- What can be read without waiting is whether a browser runs or is being closed. -/
def IsTracked (e : Engine) : Prop :=
  e.available = true ↔ e.status = .ready ∨ e.IsClosing

theorem isTracked_fresh : fresh.IsTracked := by
  simp [IsTracked, IsClosing, fresh]

theorem isTracked_iff_of_not_busy (hbusy : e.busy = none) :
    e.IsTracked ↔ (e.available = true ↔ e.status = .ready) := by
  simp [IsTracked, IsClosing, hbusy]

namespace IsTracked

theorem serve (h : e.IsTracked) (hbusy : e.busy = none) (now who : Nat) (request : Request) :
    (e.serve now who request).IsTracked := by
  have hknown := (isTracked_iff_of_not_busy hbusy).1 h
  cases request with
  | use purpose =>
      cases hstatus : e.status with
      | ready =>
          simp only [Engine.serve, hstatus]
          cases purpose <;> exact h
      | failed reason =>
          simp only [Engine.serve, hstatus]
          exact h
      | uninitialized =>
          simp only [Engine.serve, hstatus]
          simpa [IsTracked, IsClosing, beginLaunch, hstatus] using hknown
  | disable reason =>
      simp only [Engine.serve]
      split_ifs with hready
      · simpa [IsTracked, IsClosing, beginClose] using hknown.2 hready
      · simp [IsTracked, IsClosing, conclude, Engine.reply, hbusy]
  | shutDown =>
      simp only [Engine.serve]
      split_ifs with hready
      · simpa [IsTracked, IsClosing, beginClose] using hknown.2 hready
      · exact h
  | inspect => exact h

theorem settle (h : e.IsTracked) (order : e.Orderly) (now : Nat) :
    (e.settle settings browser now).IsTracked := by
  cases hbusy : e.busy with
  | none => rwa [settle_of_not_busy hbusy]
  | some task =>
      cases task with
      | launch l =>
          simp only [Engine.settle, hbusy, endLaunch]
          have hlanded : ({ e with
              status := launchStatus settings browser l.number
              available := decide (launchStatus settings browser l.number = .ready)
              busy := none } : Engine).IsTracked := by
            rw [isTracked_iff_of_not_busy rfl, decide_eq_true_eq]
          unfold landFor
          split
          next who purpose _ _ => cases purpose <;> exact hlanded
          next => exact hlanded
          next => exact hlanded
      | close c =>
          have hstopped : e.status ≠ .ready := by
            intro hready
            cases hcause : c.cause with
            | disabled reason =>
                rw [order.disabling c reason hbusy hcause] at hready
                cases hready
            | shutDown =>
                rw [order.shuttingDown c hbusy hcause] at hready
                cases hready
          simp only [Engine.settle, hbusy, endClose]
          cases hcause : c.cause <;> simp [IsTracked, IsClosing, conclude, Engine.reply, hstopped]

/-- Every step keeps what can be read right, as long as nobody leaves. -/
theorem apply (h : e.IsTracked) (order : e.Orderly) (now : Nat)
    (hstays : ∀ who, step ≠ .leave who) :
    (e.apply settings browser now step).IsTracked := by
  cases step with
  | ask who request =>
      simp only [Engine.apply, Engine.ask]
      split_ifs with hidle
      · exact h.serve (not_busy_of_isIdle hidle) now who request
      · exact h
  | leave who => exact absurd rfl (hstays who)
  | settle => exact h.settle order now
  | serveNext =>
      simp only [Engine.apply, Engine.serveNext]
      split
      next who request rest hbusy _ =>
        exact IsTracked.serve (e := { e with queue := rest }) h hbusy now who request
      next => exact h
  | endPrint who =>
      simp only [Engine.apply, Engine.endPrint]
      split
      · exact h
      · split <;> exact h

theorem run (h : e.IsTracked) (order : e.Orderly) {steps : List Step}
    (hstay : ∀ who, .leave who ∉ steps) : (e.run settings browser steps).IsTracked := by
  induction steps generalizing e with
  | nil => exact h
  | cons step rest ih =>
      have hstep : ∀ who, step ≠ .leave who :=
        fun who hleave => hstay who (hleave ▸ List.mem_cons_self)
      exact ih (h.apply order 0 hstep) (order.apply settings browser 0 step)
        fun who hmem => hstay who (List.mem_cons_of_mem _ hmem)

end IsTracked

/-! ## Shutting down -/

/-- The steps of a shutdown. -/
def shuttingDown (who : Nat) : List Step :=
  [.ask who .shutDown, .settle]

/-- What a shutdown leaves: nothing is counted, and no browser runs. -/
theorem run_shuttingDown (hidle : e.isIdle = true) (settings : LaunchSettings) (browser : Browser)
    (who : Nat) :
    e.run settings browser (shuttingDown who) =
      ({ e with
        status := if e.status = .ready then .uninitialized else e.status
        available := if e.status = .ready then false else e.available
        attempts := 0
        printed := 0
        closes := e.closes + if e.status = .ready then 1 else 0 } : Engine).reply who .done := by
  have hbusy := not_busy_of_isIdle hidle
  change (e.ask 0 who .shutDown).settle settings browser 0 = _
  rw [ask, if_pos hidle, serve]
  by_cases hready : e.status = .ready
  · simp [hready, beginClose, settle, endClose, conclude, reply, hbusy]
  · simp [hready, settle, conclude, reply, hbusy]

/-- A second shutdown does nothing but answer. -/
theorem run_shuttingDown_twice (hidle : e.isIdle = true) (settings : LaunchSettings)
    (browser : Browser) (first second : Nat) :
    (e.run settings browser (shuttingDown first)).run settings browser (shuttingDown second) =
      (e.run settings browser (shuttingDown first)).reply second .done := by
  rw [run_shuttingDown hidle settings browser first,
    run_shuttingDown (by exact hidle) settings browser second]
  by_cases hready : e.status = .ready
  · simp [hready, reply]
  · simp [hready, reply]

theorem leave_not_mem_operations {next : Nat} {requests : List Request} :
    .leave who ∉ operations next requests := by
  induction requests generalizing next with
  | nil => exact List.not_mem_nil
  | cons request rest ih => simp [operations, operation, ih]

/-- **Every browser is closed once, and a shutdown once is as good as twice.**

* Where nobody leaves, what can be read without waiting is whether a browser runs or is being
  closed.
* Browsers closed, with the one that runs, are as many as began to run; one is closed just
  when the engine stops running, and for nothing but a request that asks for it.
* A shutdown that is served at once keeps a failure, ends a running engine whatever its browser
  makes of being closed, and resets what is counted.  Another one only answers.
* A session whose calls have all returned leaves the engine at rest, as the steps of its calls
  do, and what can be read without waiting is whether a browser runs. -/
theorem browsers_are_closed_once (settings : LaunchSettings) (browser : Browser) :
    (∀ steps,
      let e := fresh.run settings browser steps
      ((∀ who, .leave who ∉ steps) → (e.isAvailable = true ↔ e.status = .ready ∨ e.IsClosing)) ∧
        e.closes + (if e.status = .ready then 1 else 0) = timesReady settings browser fresh steps ∧
        (∀ step,
          let f := e.apply settings browser 0 step
          f.closes = e.closes + (if e.status = .ready ∧ f.status ≠ .ready then 1 else 0) ∧
            (f.closes ≠ e.closes →
              ∃ who request, e.served? step = some (who, request) ∧ ¬ request.IsMild)) ∧
        (e.isIdle = true → ∀ first second,
          let once := e.run settings browser (shuttingDown first)
          once.run settings browser (shuttingDown second) = once.reply second .done ∧
            once.replyTo first = some .done ∧
            once.status = (if e.status = .ready then .uninitialized else e.status) ∧
            once.attempts = 0 ∧ once.printed = 0 ∧ once.launches = e.launches ∧
            once.closes = e.closes + if e.status = .ready then 1 else 0)) ∧
    ∀ requests,
      let s := (Session.start settings browser).perform requests
      s.engine.AtRest ∧ s.engine = fresh.run settings browser (operations 0 requests) ∧
        (s.engine.isAvailable = true ↔ s.engine.status = .ready) := by
  refine ⟨fun steps => ?_, fun requests => ?_⟩
  · intro e
    have order : e.Orderly := orderly_fresh.run settings browser steps
    refine ⟨fun hstay => isTracked_fresh.run orderly_fresh hstay, ?_, fun step => ?_,
      fun hidle first second => ?_⟩
    · have hnone : fresh.closes + (if fresh.status = .ready then 1 else 0) = 0 := rfl
      exact (closes_run orderly_fresh settings browser steps).trans (by rw [hnone, Nat.zero_add])
    · have hcloses := closes_apply order settings browser 0 step
      exact ⟨hcloses.closes_eq, hcloses.ends_of_ne⟩
    · refine ⟨run_shuttingDown_twice hidle settings browser first second, ?_⟩
      rw [run_shuttingDown hidle settings browser first]
      exact ⟨by simp [replyTo, reply], rfl, rfl, rfl, rfl, rfl⟩
  · intro s
    obtain ⟨hquiet, hengine⟩ := (Session.quiet_start settings browser).perform requests
    refine ⟨hquiet.rest, hengine, (isTracked_iff_of_not_busy hquiet.rest.idle).1 ?_⟩
    rw [hengine]
    exact isTracked_fresh.run orderly_fresh fun who => leave_not_mem_operations

/-- A browser that fails to close is launched, closed and launched again. -/
theorem browsers_are_closed_once_after_relaunch :
    let stubborn : Browser :=
      { Browser.obliging with close := fun _ => ⟨0, .failed (.other "stuck")⟩ }
    let steps : List Step :=
      [.ask 0 .obtain, .settle, .ask 1 .shutDown, .settle, .ask 2 .obtain, .settle]
    let e := fresh.run {} stubborn steps
    (∀ who, .leave who ∉ steps) ∧ e.isIdle = true ∧
      (e.isAvailable = true ↔ e.status = .ready ∨ e.IsClosing) ∧
      e.status = .ready ∧ e.closes + 1 = timesReady {} stubborn fresh steps ∧
      (e.run {} stubborn (shuttingDown 3 ++ shuttingDown 4)).status = .uninitialized := by
  intro stubborn steps e
  have hstay : ∀ who, .leave who ∉ steps := by simp [steps]
  have hidle : e.isIdle = true := by decide
  have hready : e.status = .ready := by decide
  obtain ⟨havailable, hclosed, -, htwice⟩ := (browsers_are_closed_once {} stubborn).1 steps
  obtain ⟨hsecond, -, hstatus, -⟩ := htwice hidle 3 4
  rw [if_pos hready] at hclosed hstatus
  refine ⟨hstay, hidle, havailable hstay, hready, hclosed, ?_⟩
  rw [run_append, hsecond]
  exact hstatus

end CanvasPress.Engine

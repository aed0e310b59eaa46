/-
# Failure of the engine is final

Between two steps the engine is in good order when a launch is under way only
while nothing is known about it, and a browser is being closed only after the
status has changed.  In this order nothing leads out of failure: no step changes
the status but a request to disable, which gives another reason, and no step
calls the launcher.  Whoever wants to use a failed engine is told the reason on
record when his turn comes, and his turn does come.
-/

import CanvasPress.Engine.Basic
import Mathlib.Tactic.Common

namespace CanvasPress.Engine

variable {settings : LaunchSettings} {browser : Browser} {now who : Nat} {e : Engine}

/-! ## What the parts of a step touch -/

section Frames

variable (now who : Nat) (purpose : Purpose) (cause : Cause) (e : Engine)

@[simp]
theorem status_grant : (e.grant now who purpose).status = e.status := by
  cases purpose <;> rfl

@[simp]
theorem busy_grant : (e.grant now who purpose).busy = e.busy := by
  cases purpose <;> rfl

@[simp]
theorem queue_grant : (e.grant now who purpose).queue = e.queue := by
  cases purpose <;> rfl

@[simp]
theorem attempts_grant : (e.grant now who purpose).attempts = e.attempts := by
  cases purpose <;> rfl

@[simp]
theorem launches_grant : (e.grant now who purpose).launches = e.launches := by
  cases purpose <;> rfl

@[simp]
theorem status_conclude : (e.conclude who cause).status = e.status := by
  cases cause <;> rfl

@[simp]
theorem busy_conclude : (e.conclude who cause).busy = e.busy := by
  cases cause <;> rfl

@[simp]
theorem queue_conclude : (e.conclude who cause).queue = e.queue := by
  cases cause <;> rfl

@[simp]
theorem launches_conclude : (e.conclude who cause).launches = e.launches := by
  cases cause <;> rfl

@[simp]
theorem printing_conclude : (e.conclude who cause).printing = e.printing := by
  cases cause <;> rfl

@[simp]
theorem replies_conclude : (e.conclude who cause).replies = (who, .done) :: e.replies := by
  cases cause <;> rfl

end Frames

/-- What the caller of a launch gets when it has ended changes nothing but what is
recorded about prints and answers. -/
theorem landFor_frame (now : Nat) (caller : Option (Nat × Purpose)) (e : Engine) :
    (e.landFor now caller).status = e.status ∧ (e.landFor now caller).busy = e.busy ∧
      (e.landFor now caller).queue = e.queue ∧
      (e.landFor now caller).attempts = e.attempts ∧
      (e.landFor now caller).launches = e.launches := by
  unfold landFor
  split
  · simp
  · exact ⟨rfl, rfl, rfl, rfl, rfl⟩
  · exact ⟨rfl, rfl, rfl, rfl, rfl⟩

/-- A print that ends leaves the engine's state alone. -/
theorem endPrint_frame (browser : Browser) (who : Nat) (e : Engine) :
    (e.endPrint browser who).status = e.status ∧ (e.endPrint browser who).busy = e.busy ∧
      (e.endPrint browser who).queue = e.queue ∧
      (e.endPrint browser who).attempts = e.attempts ∧
      (e.endPrint browser who).launches = e.launches := by
  unfold endPrint
  split
  · simp
  · dsimp only
    split <;> exact ⟨rfl, rfl, rfl, rfl, rfl⟩

/-! ## When a request is served -/

/-- The request that a step serves, with its caller. -/
def served? (e : Engine) : Step → Option (Nat × Request)
  | .ask who request => if e.isIdle then some (who, request) else none
  | .serveNext => if e.busy.isNone then e.queue.head? else none
  | _ => none

theorem not_busy_of_isIdle (hidle : e.isIdle = true) : e.busy = none := by
  rw [isIdle, Bool.and_eq_true, Option.isNone_iff_eq_none] at hidle
  exact hidle.1

/-- The turn of the first who waits. -/
theorem serveNext_cons (now : Nat) {request : Request} {rest : List (Nat × Request)}
    (hbusy : e.busy = none) (hqueue : e.queue = (who, request) :: rest) :
    e.serveNext now = { e with queue := rest }.serve now who request := by
  unfold serveNext
  split
  next who' request' rest' _ hqueue' =>
    rw [hqueue] at hqueue'
    cases hqueue'
    rfl
  next hnone => exact (hnone _ _ _ hbusy hqueue).elim

/-- Nobody has a turn while the engine is busy. -/
theorem serveNext_of_busy {task : Task} (hbusy : e.busy = some task) : e.serveNext now = e := by
  simp only [serveNext, hbusy]

/-- Nobody has a turn when nobody waits. -/
theorem serveNext_of_empty (hqueue : e.queue = []) : e.serveNext now = e := by
  unfold serveNext
  split
  next hqueue' => simp [hqueue] at hqueue'
  next => rfl

/-- What one step does, by the request that it serves: the engine after serving it,
for a queue from which it is gone, or a step that serves nobody. -/
theorem apply_of_served (settings : LaunchSettings) (browser : Browser) (now : Nat)
    {request : Request} {step : Step} (hserved : e.served? step = some (who, request)) :
    e.busy = none ∧ ∃ queue, e.apply settings browser now step =
      { e with queue := queue }.serve now who request := by
  cases step with
  | ask who' request' =>
      by_cases hidle : e.isIdle = true
      · simp only [served?, if_pos hidle] at hserved
        cases hserved
        refine ⟨not_busy_of_isIdle hidle, e.queue, ?_⟩
        simp only [Engine.apply, ask, if_pos hidle]
      · simp only [served?, if_neg hidle] at hserved
        cases hserved
  | serveNext =>
      obtain hbusy | ⟨task, hbusy⟩ := Option.eq_none_or_eq_some e.busy
      · rcases hqueue : e.queue with _ | ⟨first, rest⟩
        · simp [served?, hbusy, hqueue] at hserved
        · obtain rfl : first = (who, request) := by
            simpa [served?, hbusy, hqueue] using hserved
          exact ⟨hbusy, rest, serveNext_cons now hbusy hqueue⟩
      · simp [served?, hbusy] at hserved
  | leave who' => cases hserved
  | settle => cases hserved
  | endPrint who' => cases hserved

/-! ## Good order -/

/-- The status that goes with what keeps the engine busy. -/
structure Orderly (e : Engine) : Prop where
  launching : ∀ l, e.busy = some (.launch l) → e.status = .uninitialized
  disabling : ∀ c reason, e.busy = some (.close c) → c.cause = .disabled reason →
    e.status = .failed reason
  shuttingDown : ∀ c, e.busy = some (.close c) → c.cause = .shutDown →
    e.status = .uninitialized

theorem orderly_fresh : Orderly fresh where
  launching _ hbusy := by cases hbusy
  disabling _ _ hbusy := by cases hbusy
  shuttingDown _ hbusy := by cases hbusy

/-- An engine that is not busy is in good order. -/
theorem orderly_of_not_busy (hbusy : e.busy = none) : Orderly e where
  launching _ h := by rw [hbusy] at h; cases h
  disabling _ _ h := by rw [hbusy] at h; cases h
  shuttingDown _ h := by rw [hbusy] at h; cases h

/-- Good order is a matter of the status and the task alone. -/
theorem Orderly.congr {e' : Engine} (h : Orderly e) (hstatus : e'.status = e.status)
    (hbusy : e'.busy = e.busy) : Orderly e' where
  launching l hl := hstatus.trans (h.launching l (hbusy ▸ hl))
  disabling c reason hc hcause := hstatus.trans (h.disabling c reason (hbusy ▸ hc) hcause)
  shuttingDown c hc hcause := hstatus.trans (h.shuttingDown c (hbusy ▸ hc) hcause)

theorem orderly_serve (hbusy : e.busy = none) (request : Request) :
    Orderly (e.serve now who request) := by
  cases request with
  | use purpose =>
      cases hstatus : e.status with
      | ready =>
          simp only [serve, hstatus]
          exact orderly_of_not_busy (by simpa using hbusy)
      | failed reason =>
          simp only [serve, hstatus]
          exact orderly_of_not_busy hbusy
      | uninitialized =>
          simp only [serve, hstatus]
          exact ⟨fun _ _ => hstatus, fun _ _ h => by simp [beginLaunch] at h,
            fun _ h => by simp [beginLaunch] at h⟩
  | disable reason =>
      by_cases hready : e.status = .ready
      · simp only [serve, if_pos hready]
        refine ⟨fun _ h => by simp [beginClose] at h, fun c r h hcause => ?_,
          fun c h hcause => ?_⟩
        all_goals
          obtain rfl : _ = c := by simpa [beginClose] using h
          cases hcause
        rfl
      · simp only [serve, if_neg hready]
        exact orderly_of_not_busy (by simpa using hbusy)
  | shutDown =>
      by_cases hready : e.status = .ready
      · simp only [serve, if_pos hready]
        refine ⟨fun _ h => by simp [beginClose] at h, fun c r h hcause => ?_, fun _ _ _ => rfl⟩
        obtain rfl : _ = c := by simpa [beginClose] using h
        cases hcause
      · simp only [serve, if_neg hready]
        exact orderly_of_not_busy (by simpa using hbusy)
  | inspect => exact orderly_of_not_busy hbusy

theorem Orderly.leave (h : Orderly e) (who : Nat) : Orderly (e.leave who) := by
  cases hbusy : e.busy with
  | none => exact orderly_of_not_busy (by simp [Engine.leave, hbusy])
  | some task =>
      cases task with
      | launch l =>
          have hnew : (e.leave who).busy = some (.launch
              { l with caller := l.caller.filter fun c => c.1 != who }) := by
            simp [Engine.leave, hbusy, Task.withoutCaller]
          refine ⟨fun _ _ => h.launching l hbusy, fun _ _ h' => ?_, fun _ h' => ?_⟩
          all_goals rw [hnew] at h'; cases h'
      | close c =>
          by_cases hcaller : c.caller = who
          · exact orderly_of_not_busy (by simp [Engine.leave, hbusy, Task.withoutCaller, hcaller])
          · refine h.congr rfl ?_
            simp [Engine.leave, hbusy, Task.withoutCaller, hcaller]

/-- The task's end leaves the engine free. -/
theorem busy_settle (settings : LaunchSettings) (browser : Browser) (now : Nat) (e : Engine) :
    (e.settle settings browser now).busy = none := by
  cases hbusy : e.busy with
  | none => simp [settle, hbusy]
  | some task =>
      cases task with
      | launch l =>
          simp only [settle, hbusy, endLaunch]
          exact (landFor_frame now l.caller _).2.1
      | close c => simp [settle, hbusy, endClose]

/-- Every step keeps good order. -/
theorem Orderly.apply (h : Orderly e) (settings : LaunchSettings) (browser : Browser)
    (now : Nat) (step : Step) : Orderly (e.apply settings browser now step) := by
  cases step with
  | ask who request =>
      simp only [Engine.apply, ask]
      split
      next hidle =>
        exact orderly_serve (not_busy_of_isIdle hidle) request
      next => exact h.congr rfl rfl
  | leave who => exact h.leave who
  | settle => exact orderly_of_not_busy (busy_settle settings browser now e)
  | serveNext =>
      simp only [Engine.apply, serveNext]
      split
      next who request rest hbusy hqueue =>
        exact orderly_serve (e := { e with queue := rest }) hbusy request
      next => exact h
  | endPrint who =>
      obtain ⟨hstatus, hbusy, -⟩ := endPrint_frame browser who e
      exact h.congr hstatus hbusy

theorem Orderly.run (h : Orderly e) (settings : LaunchSettings) (browser : Browser)
    (steps : List Step) : Orderly (e.run settings browser steps) := by
  induction steps generalizing e with
  | nil => exact h
  | cons step rest ih => exact ih (h.apply settings browser 0 step)

/-! ## Nothing leads out of failure -/

section Failed

variable {reason : String}

/-- What serving a request does to a failed engine: no call to the launcher, nothing
to wait for, and another reason only if the request gives one. -/
theorem serve_of_failed (now who : Nat) (hfailed : e.status = .failed reason)
    (request : Request) :
    (e.serve now who request).launches = e.launches ∧
      (e.serve now who request).busy = e.busy ∧
      (e.serve now who request).queue = e.queue ∧
      ((e.serve now who request).status = .failed reason ∨
        ∃ other, request = .disable other ∧
          (e.serve now who request).status = .failed other) := by
  have hready : e.status ≠ .ready := by
    rw [hfailed]
    exact fun h => by cases h
  cases request with
  | use purpose =>
      have hserve : e.serve now who (.use purpose) = e.reply who (.unavailable reason) := by
        simp only [serve, hfailed]
      rw [hserve]
      exact ⟨rfl, rfl, rfl, .inl hfailed⟩
  | disable other =>
      rw [serve, if_neg hready]
      exact ⟨by simp, by simp, by simp, .inr ⟨other, rfl, by simp⟩⟩
  | shutDown =>
      rw [serve, if_neg hready]
      exact ⟨by simp, by simp, by simp, .inl (by simpa using hfailed)⟩
  | inspect => exact ⟨rfl, rfl, rfl, .inl hfailed⟩

/-- Whoever wants to use a failed engine is told the reason on record. -/
theorem replyTo_serve_of_failed (hfailed : e.status = .failed reason) (purpose : Purpose) :
    (e.serve now who (.use purpose)).replyTo who = some (.unavailable reason) := by
  simp [serve, hfailed, reply, replyTo]

/-- The task's end does not touch a failure. -/
theorem settle_of_failed (settings : LaunchSettings) (browser : Browser) (now : Nat)
    (h : Orderly e) (hfailed : e.status = .failed reason) :
    (e.settle settings browser now).status = .failed reason ∧
      (e.settle settings browser now).launches = e.launches ∧
      (e.settle settings browser now).queue = e.queue := by
  cases hbusy : e.busy with
  | none => simpa [settle, hbusy] using hfailed
  | some task =>
      cases task with
      | launch l =>
          have huninitialized := h.launching l hbusy
          rw [hfailed] at huninitialized
          cases huninitialized
      | close c => simpa [settle, hbusy, endClose] using hfailed

/-- A step that serves nobody leaves a failed engine as it is. -/
theorem apply_of_failed_of_not_served (h : Orderly e) (hfailed : e.status = .failed reason)
    {step : Step} (hserved : e.served? step = none) :
    (e.apply settings browser now step).launches = e.launches ∧
      (e.apply settings browser now step).status = .failed reason := by
  cases step with
  | ask who request =>
      by_cases hidle : e.isIdle = true
      · simp [served?, hidle] at hserved
      · rw [Engine.apply, ask, if_neg hidle]
        exact ⟨rfl, hfailed⟩
  | leave who => exact ⟨rfl, hfailed⟩
  | settle =>
      obtain ⟨hstatus, hlaunches, -⟩ := settle_of_failed settings browser now h hfailed
      exact ⟨hlaunches, hstatus⟩
  | serveNext =>
      obtain hbusy | ⟨task, hbusy⟩ := Option.eq_none_or_eq_some e.busy
      · have hqueue : e.queue = [] := by simpa [served?, hbusy] using hserved
        rw [Engine.apply, serveNext_of_empty hqueue]
        exact ⟨rfl, hfailed⟩
      · rw [Engine.apply, serveNext_of_busy hbusy]
        exact ⟨rfl, hfailed⟩
  | endPrint who =>
      obtain ⟨hstatus, -, -, -, hlaunches⟩ := endPrint_frame browser who e
      exact ⟨hlaunches, hstatus.trans hfailed⟩

/-- One step of a failed engine: it stays failed, for the same reason unless a request
to disable is served, and the launcher is not called. -/
theorem apply_of_failed (h : Orderly e) (hfailed : e.status = .failed reason)
    (settings : LaunchSettings) (browser : Browser) (now : Nat) (step : Step) :
    (e.apply settings browser now step).launches = e.launches ∧
      ((e.apply settings browser now step).status = .failed reason ∨
        ∃ who other, e.served? step = some (who, .disable other) ∧
          (e.apply settings browser now step).status = .failed other) := by
  cases hserved : e.served? step with
  | none =>
      obtain ⟨hlaunches, hstatus⟩ := apply_of_failed_of_not_served h hfailed hserved
      exact ⟨hlaunches, .inl hstatus⟩
  | some served =>
      obtain ⟨who, request⟩ := served
      obtain ⟨-, queue, happly⟩ := apply_of_served settings browser now hserved
      rw [happly]
      obtain ⟨hlaunches, -, -, hstays | ⟨other, rfl, hother⟩⟩ :=
        serve_of_failed (e := { e with queue := queue }) now who hfailed request
      · exact ⟨hlaunches, .inl hstays⟩
      · exact ⟨hlaunches, .inr ⟨who, other, rfl, hother⟩⟩

/-- A caller whose wish to use a failed engine is served is told the reason on record. -/
theorem replyTo_apply_of_failed (hfailed : e.status = .failed reason) {step : Step}
    {purpose : Purpose} (hserved : e.served? step = some (who, .use purpose)) :
    (e.apply settings browser now step).replyTo who = some (.unavailable reason) := by
  obtain ⟨-, queue, happly⟩ := apply_of_served settings browser now hserved
  rw [happly]
  exact replyTo_serve_of_failed (e := { e with queue := queue }) hfailed purpose

/-- Once failed, always failed, and the launcher is left alone. -/
theorem run_of_failed (h : Orderly e) (hfailed : e.status = .failed reason)
    (settings : LaunchSettings) (browser : Browser) (steps : List Step) :
    (∃ other, (e.run settings browser steps).status = .failed other) ∧
      (e.run settings browser steps).launches = e.launches := by
  induction steps generalizing e reason with
  | nil => exact ⟨⟨reason, hfailed⟩, rfl⟩
  | cons step rest ih =>
      obtain ⟨hlaunches, hstatus⟩ := apply_of_failed h hfailed settings browser 0 step
      have hnext := h.apply settings browser 0 step
      rcases hstatus with hstays | ⟨_, other, -, hother⟩
      · obtain ⟨hfinal, hcount⟩ := ih hnext hstays
        exact ⟨hfinal, hcount.trans hlaunches⟩
      · obtain ⟨hfinal, hcount⟩ := ih hnext hother
        exact ⟨hfinal, hcount.trans hlaunches⟩

/-- While nothing keeps a failed engine busy, turn follows turn: whoever waits is
served after those in front of him. -/
theorem replyTo_turns_of_failed (hbusy : e.busy = none) (hfailed : e.status = .failed reason)
    {front back : List (Nat × Request)} {purpose : Purpose}
    (hqueue : e.queue = front ++ (who, .use purpose) :: back)
    (settings : LaunchSettings) (browser : Browser) :
    ∃ other, (e.run settings browser
        (List.replicate (front.length + 1) .serveNext)).status = .failed other ∧
      (e.run settings browser
        (List.replicate (front.length + 1) .serveNext)).replyTo who =
          some (.unavailable other) := by
  induction front generalizing e reason with
  | nil =>
      have hnext := serveNext_cons 0 hbusy hqueue
      obtain ⟨-, -, -, hstatus⟩ := serve_of_failed
        (e := { e with queue := back }) 0 who hfailed (Request.use purpose)
      refine ⟨reason, ?_, ?_⟩
      · change (e.serveNext 0).status = _
        rw [hnext]
        exact hstatus.resolve_right fun ⟨_, hother, _⟩ => by cases hother
      · change (e.serveNext 0).replyTo who = _
        rw [hnext]
        exact replyTo_serve_of_failed (e := { e with queue := back }) hfailed purpose
  | cons first rest ih =>
      obtain ⟨other, request⟩ := first
      have hnext : e.serveNext 0 =
          { e with queue := rest ++ (who, Request.use purpose) :: back }.serve 0 other request :=
        serveNext_cons 0 hbusy hqueue
      obtain ⟨-, hbusy', hqueue', hstatus⟩ := serve_of_failed
        (e := { e with queue := rest ++ (who, Request.use purpose) :: back }) 0 other hfailed
        request
      rw [← hnext] at hbusy' hqueue' hstatus
      change ∃ last, ((e.serveNext 0).run settings browser _).status = .failed last ∧
        ((e.serveNext 0).run settings browser _).replyTo who = some (.unavailable last)
      rcases hstatus with hstays | ⟨given, -, hgiven⟩
      · exact ih (hbusy'.trans hbusy) hstays hqueue'
      · exact ih (hbusy'.trans hbusy) hgiven hqueue'

/-- Whoever waits for a failed engine gets an answer once what keeps it busy has ended
and those in front of him have had their turns: the reason on record. -/
theorem replyTo_of_waiting (h : Orderly e) (hfailed : e.status = .failed reason)
    {purpose : Purpose} (hwaiting : (who, .use purpose) ∈ e.queue)
    (settings : LaunchSettings) (browser : Browser) :
    ∃ turns other,
      let last := e.run settings browser (.settle :: List.replicate turns .serveNext)
      last.status = .failed other ∧ last.replyTo who = some (.unavailable other) := by
  obtain ⟨front, back, hqueue⟩ := List.append_of_mem hwaiting
  obtain ⟨hstatus, -, hkept⟩ :=
    settle_of_failed settings browser 0 h hfailed
  obtain ⟨other, hlast⟩ := replyTo_turns_of_failed (busy_settle settings browser 0 e) hstatus
    (hkept.trans hqueue) settings browser
  exact ⟨front.length + 1, other, hlast⟩

end Failed

end CanvasPress.Engine

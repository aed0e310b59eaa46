/-
# Engines of which nothing comes

An engine may have failed, or the launch that is under way, or comes next, may be bound to
fail.  It makes no difference: whatever is asked of such an engine, and by whomever, it stays
hopeless, and its browser is handed no page.  This is more than can be said of a settled
outlook, since here somebody may ask for the end of the engine, which only fails it sooner.
-/

import CanvasPress.Proofs.Engine.Callers
import CanvasPress.Proofs.Engine.Outlook

namespace CanvasPress.Engine

variable {settings : LaunchSettings} {browser : Browser} {now who : Nat} {e f : Engine}
  {request : Request}

/-- The engine has failed, or the launch fails that is under way or comes next. -/
def IsHopeless (settings : LaunchSettings) (browser : Browser) (e : Engine) : Prop :=
  ∃ reason, e.outlook settings browser = .failed reason

/-- A step leaves the engine hopeless and hands no page to the browser. -/
structure StaysHopeless (settings : LaunchSettings) (browser : Browser) (before after : Engine) :
    Prop where
  hopeless : after.IsHopeless settings browser
  printing : after.printing ⊆ before.printing
  prints : after.prints = before.prints

/-- While no launch is under way, the outlook is what is known, or what the next launch
leads to. -/
theorem outlook_of_not_launching (hbusy : ¬ e.IsLaunching) : e.outlook settings browser =
    match e.status with
    | .uninitialized => launchStatus settings browser e.launches
    | known => known := by
  cases htask : e.busy with
  | none => cases hstatus : e.status <;> simp [outlook, htask, hstatus]
  | some task =>
      cases task with
      | launch l => exact absurd ⟨l, htask⟩ hbusy
      | close c => cases hstatus : e.status <;> simp [outlook, htask, hstatus]

/-- Of every engine something comes, or nothing. -/
theorem ready_or_isHopeless (settings : LaunchSettings) (browser : Browser) (e : Engine) :
    e.outlook settings browser = .ready ∨ e.IsHopeless settings browser := by
  have hknown : e.outlook settings browser ≠ .uninitialized := by
    by_cases hbusy : e.IsLaunching
    · obtain ⟨l, hlaunch⟩ := hbusy
      rw [outlook, hlaunch]
      exact launchStatus_ne_uninitialized settings browser l.number
    · rw [outlook_of_not_launching hbusy]
      cases e.status with
      | uninitialized => exact launchStatus_ne_uninitialized settings browser e.launches
      | ready => exact fun heq => by cases heq
      | failed reason => exact fun heq => by cases heq
  cases hcoming : e.outlook settings browser with
  | uninitialized => exact absurd hcoming hknown
  | ready => exact .inl rfl
  | failed reason => exact .inr ⟨reason, hcoming⟩

/-- A failed engine is hopeless once no launch is under way. -/
theorem isHopeless_of_failed {reason : String} (hbusy : ¬ e.IsLaunching)
    (hfailed : e.status = .failed reason) : e.IsHopeless settings browser :=
  ⟨reason, by rw [outlook_of_not_launching hbusy, hfailed]⟩

/-- While no launch is under way, an engine is hopeless just if it has failed, or has not been
launched and its next launch does not succeed. -/
theorem isHopeless_iff (hbusy : ¬ e.IsLaunching) : e.IsHopeless settings browser ↔
    e.IsFailed ∨ e.status = .uninitialized ∧
      launchStatus settings browser e.launches ≠ .ready := by
  rw [IsHopeless, outlook_of_not_launching hbusy, IsFailed]
  cases e.status with
  | uninitialized =>
      have hknown := launchStatus_ne_uninitialized settings browser e.launches
      cases hcoming : launchStatus settings browser e.launches with
      | uninitialized => exact absurd hcoming hknown
      | ready => simp
      | failed reason => simp
  | ready => simp
  | failed reason => simp

namespace IsHopeless

/-- What comes of an engine is a matter of its status, its task and its launches. -/
theorem congr (h : e.IsHopeless settings browser) (hstatus : f.status = e.status)
    (hbusy : f.busy = e.busy) (hlaunches : f.launches = e.launches) :
    f.IsHopeless settings browser := by
  obtain ⟨reason, hfails⟩ := h
  exact ⟨reason, by rwa [outlook, hstatus, hbusy, hlaunches]⟩

theorem ne_ready (h : e.IsHopeless settings browser) (order : Orderly e) : e.status ≠ .ready := by
  obtain ⟨reason, hfails⟩ := h
  intro hready
  have hbusy : ¬ e.IsLaunching := by
    rintro ⟨l, hlaunch⟩
    rw [order.launching l hlaunch] at hready
    cases hready
  rw [outlook_of_not_launching hbusy, hready] at hfails
  cases hfails

theorem reply (h : e.IsHopeless settings browser) (who : Nat) (answer : Reply) :
    StaysHopeless settings browser e (e.reply who answer) :=
  ⟨h.congr rfl rfl rfl, List.Subset.refl _, rfl⟩

theorem serve (h : e.IsHopeless settings browser) (order : Orderly e) (hbusy : e.busy = none)
    (now who : Nat) (request : Request) :
    StaysHopeless settings browser e (e.serve now who request) := by
  have hready := h.ne_ready order
  cases request with
  | use purpose =>
      cases hstatus : e.status with
      | ready => exact absurd hstatus hready
      | failed reason =>
          simp only [Engine.serve, hstatus]
          exact h.reply who _
      | uninitialized =>
          -- The launch that begins is the one of which the outlook speaks.
          simp only [Engine.serve, hstatus]
          obtain ⟨reason, hfails⟩ := h
          rw [outlook, hbusy, hstatus] at hfails
          exact ⟨⟨reason, hfails⟩, List.Subset.refl _, rfl⟩
  | disable reason =>
      simp only [Engine.serve, if_neg hready]
      exact ⟨isHopeless_of_failed (not_isLaunching_of_not_busy hbusy) rfl, List.Subset.refl _, rfl⟩
  | shutDown =>
      simp only [Engine.serve, if_neg hready]
      exact ⟨h.congr rfl rfl rfl, List.Subset.refl _, rfl⟩
  | inspect => exact h.reply who _

theorem ask (h : e.IsHopeless settings browser) (order : Orderly e) (now who : Nat)
    (request : Request) : StaysHopeless settings browser e (e.ask now who request) := by
  unfold Engine.ask
  split_ifs with hidle
  · exact h.serve order (not_busy_of_isIdle hidle) now who request
  · exact ⟨h.congr rfl rfl rfl, List.Subset.refl _, rfl⟩

theorem serveNext (h : e.IsHopeless settings browser) (now : Nat) :
    StaysHopeless settings browser e (e.serveNext now) := by
  unfold Engine.serveNext
  split
  next who request rest hbusy hqueue =>
    have hrest : ({ e with queue := rest } : Engine).IsHopeless settings browser :=
      h.congr rfl rfl rfl
    have hserved := hrest.serve (orderly_of_not_busy hbusy) hbusy now who request
    exact ⟨hserved.hopeless, hserved.printing, hserved.prints⟩
  next => exact ⟨h, List.Subset.refl _, rfl⟩

/-- Whoever leaves stops no launch. -/
theorem leave (h : e.IsHopeless settings browser) (who : Nat) :
    StaysHopeless settings browser e (e.leave who) := by
  obtain ⟨reason, hfails⟩ := h
  have hsame : (e.leave who).outlook settings browser = e.outlook settings browser := by
    by_cases hbusy : e.IsLaunching
    · obtain ⟨l, hlaunch⟩ := hbusy
      simp [outlook, Engine.leave, hlaunch, Task.withoutCaller]
    · have hleft : ¬ (e.leave who).IsLaunching := by rwa [isLaunching_leave]
      rw [outlook_of_not_launching hbusy, outlook_of_not_launching hleft]
      rfl
  exact ⟨⟨reason, hsame.trans hfails⟩, fun _ hp => (List.mem_filter.1 hp).1, rfl⟩

/-- The launch that was under way has failed, or a browser has been closed. -/
theorem settle (h : e.IsHopeless settings browser) (now : Nat) :
    StaysHopeless settings browser e (e.settle settings browser now) := by
  obtain ⟨reason, hfails⟩ := h
  cases hbusy : e.busy with
  | none =>
      simp only [Engine.settle, hbusy]
      exact ⟨⟨reason, hfails⟩, List.Subset.refl _, rfl⟩
  | some task =>
      cases task with
      | launch l =>
          have hlaunch : launchStatus settings browser l.number = .failed reason := by
            rwa [outlook, hbusy] at hfails
          simp only [Engine.settle, hbusy, endLaunch, hlaunch]
          cases l.caller with
          | none =>
              exact ⟨isHopeless_of_failed (not_isLaunching_of_not_busy rfl) rfl,
                List.Subset.refl _, rfl⟩
          | some caller =>
              exact ⟨isHopeless_of_failed (not_isLaunching_of_not_busy rfl) rfl,
                List.Subset.refl _, rfl⟩
      | close c =>
          have hclosed : ({ e with available := false, busy := none } : Engine).IsHopeless
              settings browser := by
            have hclosing : ¬ e.IsLaunching := by
              rintro ⟨l, hlaunch⟩
              rw [hbusy] at hlaunch
              cases hlaunch
            rw [outlook_of_not_launching hclosing] at hfails
            refine ⟨reason, ?_⟩
            rwa [outlook_of_not_launching (not_isLaunching_of_not_busy rfl)]
          simp only [Engine.settle, hbusy, endClose]
          cases c.cause with
          | disabled cause => exact ⟨hclosed.congr rfl rfl rfl, List.Subset.refl _, rfl⟩
          | shutDown => exact ⟨hclosed.congr rfl rfl rfl, List.Subset.refl _, rfl⟩

theorem endPrint (h : e.IsHopeless settings browser) (who : Nat) :
    StaysHopeless settings browser e (e.endPrint browser who) := by
  unfold Engine.endPrint
  split
  next => exact ⟨h, List.Subset.refl _, rfl⟩
  next p hfind =>
    dsimp only
    split
    · exact ⟨h.congr rfl rfl rfl, List.erase_subset, rfl⟩
    · exact ⟨h.congr rfl rfl rfl, List.erase_subset, rfl⟩

/-- Nothing helps a hopeless engine. -/
theorem apply (h : e.IsHopeless settings browser) (order : Orderly e) (now : Nat) (step : Step) :
    StaysHopeless settings browser e (e.apply settings browser now step) := by
  cases step with
  | ask who request => exact h.ask order now who request
  | leave who => exact h.leave who
  | settle => exact h.settle now
  | serveNext => exact h.serveNext now
  | endPrint who => exact h.endPrint who

end IsHopeless

end CanvasPress.Engine

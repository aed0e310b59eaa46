/-
# What comes of the engine

As long as nobody asks for the end of the engine, what comes of it is settled beforehand:
it is what is known about it, or what the launch leads to that is under way or comes next.
No step changes that outlook.  Whoever is told that there is no engine is told what was
settled, and prints begin only if the outlook is that the engine runs.
-/

import CanvasPress.Proofs.Engine.Launches

namespace CanvasPress.Engine

variable {settings : LaunchSettings} {browser : Browser} {now who : Nat} {e : Engine}
  {coming : Status} {request : Request} {step : Step}

/-- A request that does not ask for the end of the engine. -/
def Request.IsMild : Request → Prop
  | .use _ => True
  | .inspect => True
  | .disable _ => False
  | .shutDown => False

theorem isMild_print (html : String) (page : PageSize) : (Request.print html page).IsMild :=
  trivial

/-- A step in which nobody asks for the end of the engine. -/
def Step.IsMild : Step → Prop
  | .ask _ request => request.IsMild
  | _ => True

/-- Nobody is about to put an end to the engine. -/
structure IsCalm (e : Engine) : Prop where
  waiting : ∀ entry ∈ e.queue, entry.2.IsMild
  stays : ∀ c, e.busy ≠ some (.close c)

/-- What will be known about the engine after the launch that is under way, if there is one,
or the next one, if nothing is known yet. -/
def outlook (settings : LaunchSettings) (browser : Browser) (e : Engine) : Status :=
  match e.busy, e.status with
  | some (.launch l), _ => launchStatus settings browser l.number
  | _, .uninitialized => launchStatus settings browser e.launches
  | _, known => known

/-- Nobody is about to put an end to the engine, and it is settled what comes of it. -/
structure Settled (settings : LaunchSettings) (browser : Browser) (coming : Status)
    (e : Engine) : Prop where
  waiting : ∀ entry ∈ e.queue, entry.2.IsMild
  known : e.status = .uninitialized ∨ e.status = coming
  launching : ∀ task, e.busy = some task →
    ∃ l, task = .launch l ∧ launchStatus settings browser l.number = coming
  unknown : e.busy = none → e.status = .uninitialized →
    launchStatus settings browser e.launches = coming

theorem settled_of_isCalm (h : e.IsCalm) (horderly : e.Orderly) (settings : LaunchSettings)
    (browser : Browser) : e.Settled settings browser (e.outlook settings browser) where
  waiting := h.waiting
  known := by
    cases hbusy : e.busy with
    | none => cases hstatus : e.status <;> simp [Engine.outlook, hbusy, hstatus]
    | some task =>
        cases task with
        | launch l => exact .inl (horderly.launching l hbusy)
        | close c => exact absurd hbusy (h.stays c)
  launching task hbusy := by
    cases task with
    | launch l => exact ⟨l, rfl, by simp [Engine.outlook, hbusy]⟩
    | close c => exact absurd hbusy (h.stays c)
  unknown hbusy hstatus := by simp [Engine.outlook, hbusy, hstatus]

/-- A step keeps the outlook, and prints begin only if it is that the engine runs. -/
structure Abides (settings : LaunchSettings) (browser : Browser) (coming : Status)
    (before after : Engine) : Prop where
  settled : after.Settled settings browser coming
  printing : ∀ p ∈ after.printing, p ∈ before.printing ∨ coming = .ready

namespace Settled

theorem reply (h : e.Settled settings browser coming) (who : Nat) (answer : Reply) :
    (e.reply who answer).Settled settings browser coming :=
  ⟨h.waiting, h.known, h.launching, h.unknown⟩

theorem abides (h : e.Settled settings browser coming) :
    Abides settings browser coming e e :=
  ⟨h, fun _ hp => .inl hp⟩

/-- The engine is handed to a caller only if it runs. -/
theorem grant (h : e.Settled settings browser coming) (hready : e.status = .ready)
    (now who : Nat) (purpose : Purpose) :
    Abides settings browser coming e (e.grant now who purpose) := by
  cases purpose with
  | readiness => exact ⟨h.reply who .ready, fun _ hp => .inl hp⟩
  | print html page =>
      have hruns : coming = .ready := by
        rcases h.known with hunknown | hknown
        · rw [hready] at hunknown
          cases hunknown
        · exact hknown.symm.trans hready
      exact ⟨⟨h.waiting, h.known, h.launching, h.unknown⟩, fun _ _ => .inr hruns⟩

theorem serve (h : e.Settled settings browser coming) (hbusy : e.busy = none)
    (hmild : request.IsMild) (now who : Nat) :
    Abides settings browser coming e (e.serve now who request) := by
  cases request with
  | use purpose =>
      cases hstatus : e.status with
      | ready =>
          simp only [Engine.serve, hstatus]
          exact h.grant hstatus now who purpose
      | failed reason =>
          simp only [Engine.serve, hstatus]
          exact ⟨h.reply who _, fun _ hp => .inl hp⟩
      | uninitialized =>
          simp only [Engine.serve, hstatus]
          refine ⟨⟨h.waiting, .inl hstatus, fun task htask => ?_, fun hidle => by cases hidle⟩,
            fun _ hp => .inl hp⟩
          cases htask
          exact ⟨_, rfl, h.unknown hbusy hstatus⟩
  | inspect => exact ⟨h.reply who _, fun _ hp => .inl hp⟩
  | disable reason => exact hmild.elim
  | shutDown => exact hmild.elim

theorem ask (h : e.Settled settings browser coming) (hmild : request.IsMild) (now who : Nat) :
    Abides settings browser coming e (e.ask now who request) := by
  unfold Engine.ask
  split_ifs with hidle
  · exact h.serve (not_busy_of_isIdle hidle) hmild now who
  · refine ⟨⟨fun entry hentry => ?_, h.known, h.launching, h.unknown⟩, fun _ hp => .inl hp⟩
    rcases List.mem_append.1 hentry with hentry | hentry
    · exact h.waiting entry hentry
    · rw [List.mem_singleton.1 hentry]
      exact hmild

theorem serveNext (h : e.Settled settings browser coming) (now : Nat) :
    Abides settings browser coming e (e.serveNext now) := by
  unfold Engine.serveNext
  split
  next who request rest hbusy hqueue =>
    have hrest : ({ e with queue := rest } : Engine).Settled settings browser coming :=
      ⟨fun entry hentry => h.waiting entry (hqueue ▸ List.mem_cons_of_mem _ hentry), h.known,
        h.launching, h.unknown⟩
    have hmild : request.IsMild := h.waiting (who, request) (hqueue ▸ List.mem_cons_self)
    have hserved := hrest.serve hbusy hmild now who
    exact ⟨hserved.settled, hserved.printing⟩
  next => exact h.abides

/-- A launch that has ended leads to what was settled. -/
theorem settle (h : e.Settled settings browser coming) (now : Nat) :
    Abides settings browser coming e (e.settle settings browser now) := by
  cases hbusy : e.busy with
  | none =>
      simp only [Engine.settle, hbusy]
      exact h.abides
  | some task =>
      obtain ⟨l, rfl, hleads⟩ := h.launching task hbusy
      simp only [Engine.settle, hbusy, endLaunch, hleads]
      have hnumber := launchStatus_ne_uninitialized settings browser l.number
      have hlanded : ({ e with
          status := coming
          available := coming = Status.ready
          busy := none } : Engine).Settled settings browser coming :=
        ⟨h.waiting, .inr rfl, fun _ hnext => absurd hnext.symm (Option.some_ne_none _),
          fun _ hunknown => absurd (hleads.trans hunknown) hnumber⟩
      unfold landFor
      split
      next who purpose _ hready =>
        have hgranted := hlanded.grant hready now who purpose
        exact ⟨hgranted.settled, hgranted.printing⟩
      next => exact ⟨hlanded.reply _ _, fun _ hp => .inl hp⟩
      next => exact ⟨hlanded, fun _ hp => .inl hp⟩

theorem endPrint (h : e.Settled settings browser coming) (who : Nat) :
    Abides settings browser coming e (e.endPrint browser who) := by
  unfold Engine.endPrint
  split
  next => exact h.abides
  next p _ =>
    dsimp only
    split <;> exact ⟨⟨h.waiting, h.known, h.launching, h.unknown⟩,
      fun _ hp => .inl (List.mem_of_mem_erase hp)⟩

theorem leave (h : e.Settled settings browser coming) (who : Nat) :
    Abides settings browser coming e (e.leave who) := by
  refine ⟨⟨fun entry hentry => h.waiting entry (List.mem_filter.1 hentry).1, h.known,
    fun task htask => ?_, fun hidle hunknown => ?_⟩, fun _ hp => .inl (List.mem_filter.1 hp).1⟩
  · obtain ⟨old, hold, hleft⟩ := Option.bind_eq_some_iff.1 htask
    obtain ⟨l, rfl, hleads⟩ := h.launching old hold
    cases hleft
    exact ⟨_, rfl, hleads⟩
  · -- Nobody stops a launch by leaving.
    cases hbusy : e.busy with
    | none => exact h.unknown hbusy hunknown
    | some task =>
        obtain ⟨l, rfl, -⟩ := h.launching task hbusy
        simp [Engine.leave, hbusy, Task.withoutCaller] at hidle

/-- No mild step changes what comes of the engine. -/
theorem apply (h : e.Settled settings browser coming) (hmild : step.IsMild) (now : Nat) :
    Abides settings browser coming e (e.apply settings browser now step) := by
  cases step with
  | ask who request => exact h.ask hmild now who
  | leave who => exact h.leave who
  | settle => exact h.settle now
  | serveNext => exact h.serveNext now
  | endPrint who => exact h.endPrint who

/-- A failed engine has failed in the way that was settled. -/
theorem coming_of_failed (h : e.Settled settings browser coming) {reason : String}
    (hfailed : e.status = .failed reason) : coming = .failed reason := by
  rcases h.known with hunknown | hknown
  · rw [hfailed] at hunknown
    cases hunknown
  · exact hknown.symm.trans hfailed

end Settled

end CanvasPress.Engine

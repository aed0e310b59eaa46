/-
# Whom the engine concerns

A step concerns nobody new but the one who asks, so whoever has never asked is a
stranger to the engine.  Once the engine has failed it prints for nobody but those for
whom a print is under way: everybody else is told that it is unavailable.
-/

import CanvasPress.Proofs.Engine.Answers

namespace CanvasPress.Engine

variable {settings : LaunchSettings} {browser : Browser} {now who other : Nat} {e e' : Engine}

/-! ## Callers -/

/-- The caller for whom a task is done, unless he has left. -/
def Task.caller? : Task → Option Nat
  | .launch l => l.caller.map (·.1)
  | .close c => some c.caller

/-- The engine concerns those who wait for it, those for whom it prints, launches or
closes, and those whom it has answered. -/
inductive Concerns (e : Engine) (who : Nat) : Prop where
  | waiting {request : Request} (h : (who, request) ∈ e.queue)
  | printing {p : Printing} (h : p ∈ e.printing) (hcaller : p.caller = who)
  | busy {task : Task} (h : e.busy = some task) (hcaller : task.caller? = some who)
  | answered {answer : Reply} (h : (who, answer) ∈ e.replies)

theorem not_concerns_fresh : ¬ fresh.Concerns who := by
  rintro (h | ⟨h, -⟩ | ⟨h, -⟩ | h) <;> cases h

/-- Nobody new is concerned if nothing is added. -/
theorem Concerns.of_subset (h : e'.Concerns who) (hqueue : e'.queue ⊆ e.queue)
    (hprinting : e'.printing ⊆ e.printing)
    (hbusy : ∀ task, e'.busy = some task → e.busy = some task)
    (hreplies : e'.replies ⊆ e.replies) : e.Concerns who := by
  cases h with
  | waiting h => exact .waiting (hqueue h)
  | printing h hcaller => exact .printing (hprinting h) hcaller
  | busy h hcaller => exact .busy (hbusy _ h) hcaller
  | answered h => exact .answered (hreplies h)

theorem Concerns.of_reply {answer : Reply} (h : (e.reply who answer).Concerns other) :
    other = who ∨ e.Concerns other := by
  cases h with
  | waiting h => exact .inr (.waiting h)
  | printing h hcaller => exact .inr (.printing h hcaller)
  | busy h hcaller => exact .inr (.busy h hcaller)
  | answered h =>
      rcases List.mem_cons.1 h with heq | h
      · exact .inl (congrArg Prod.fst heq)
      · exact .inr (.answered h)

theorem Concerns.of_grant {purpose : Purpose} (h : (e.grant now who purpose).Concerns other) :
    other = who ∨ e.Concerns other := by
  cases purpose with
  | readiness => exact h.of_reply
  | print html page =>
      cases h with
      | waiting h => exact .inr (.waiting h)
      | printing h hcaller =>
          rcases List.mem_append.1 h with h | h
          · exact .inr (.printing h hcaller)
          · rw [List.mem_singleton.1 h] at hcaller
            exact .inl hcaller.symm
      | busy h hcaller => exact .inr (.busy h hcaller)
      | answered h => exact .inr (.answered h)

/-- A new task concerns him for whom it is done. -/
theorem Concerns.of_task {task : Task} (htask : task.caller? = some who) (h : e'.Concerns other)
    (hqueue : e'.queue = e.queue) (hprinting : e'.printing = e.printing)
    (hbusy : e'.busy = some task) (hreplies : e'.replies = e.replies) :
    other = who ∨ e.Concerns other := by
  cases h with
  | waiting h => exact .inr (.waiting (hqueue ▸ h))
  | printing h hcaller => exact .inr (.printing (hprinting ▸ h) hcaller)
  | busy h hcaller =>
      cases hbusy.symm.trans h
      exact .inl (Option.some.inj (hcaller.symm.trans htask))
  | answered h => exact .inr (.answered (hreplies ▸ h))

theorem Concerns.of_conclude {cause : Cause} (h : (e.conclude who cause).Concerns other) :
    other = who ∨ e.Concerns other := by
  have hreplied : (e.reply who .done).Concerns other :=
    h.of_subset (by simp [reply]) (by simp [reply]) (by simp [reply]) (by simp [reply])
  exact hreplied.of_reply

theorem Concerns.of_serve {request : Request} (h : (e.serve now who request).Concerns other) :
    other = who ∨ e.Concerns other := by
  cases request with
  | use purpose =>
      cases hstatus : e.status with
      | ready =>
          simp only [serve, hstatus] at h
          exact h.of_grant
      | failed reason =>
          simp only [serve, hstatus] at h
          exact h.of_reply
      | uninitialized =>
          simp only [serve, hstatus] at h
          exact h.of_task rfl rfl rfl rfl rfl
  | disable reason =>
      simp only [serve] at h
      split_ifs at h
      · exact h.of_task rfl rfl rfl rfl rfl
      · rcases h.of_conclude with heq | h
        · exact .inl heq
        · exact .inr (h.of_subset (fun _ h => h) (fun _ h => h) (fun _ h => h) fun _ h => h)
  | shutDown =>
      simp only [serve] at h
      split_ifs at h
      · exact h.of_task rfl rfl rfl rfl rfl
      · exact h.of_conclude
  | inspect => exact h.of_reply

/-- A task that somebody else has left is still done for its caller. -/
theorem Task.caller?_of_withoutCaller {task left : Task}
    (hleft : task.withoutCaller who = some left) (hcaller : left.caller? = some other) :
    task.caller? = some other := by
  cases task with
  | launch l =>
      cases hleft
      obtain ⟨caller, hkept, rfl⟩ := Option.map_eq_some_iff.1 hcaller
      exact Option.map_eq_some_iff.2 ⟨caller, (Option.filter_eq_some_iff.1 hkept).1, rfl⟩
  | close c =>
      simp only [withoutCaller] at hleft
      split_ifs at hleft
      cases hleft
      exact hcaller

theorem Concerns.of_leave (h : (e.leave who).Concerns other) : e.Concerns other := by
  cases h with
  | waiting h => exact .waiting (List.mem_filter.1 h).1
  | printing h hcaller => exact .printing (List.mem_filter.1 h).1 hcaller
  | busy h hcaller =>
      obtain ⟨task, htask, hleft⟩ := Option.bind_eq_some_iff.1 h
      exact .busy htask (Task.caller?_of_withoutCaller hleft hcaller)
  | answered h => exact .answered h

theorem Concerns.of_settle (h : (e.settle settings browser now).Concerns other) :
    e.Concerns other := by
  cases hbusy : e.busy with
  | none => simpa only [settle, hbusy] using h
  | some task =>
      have hmine (who : Nat) (hcaller : task.caller? = some who) : e.Concerns who :=
        .busy hbusy hcaller
      cases task with
      | launch l =>
          simp only [settle, hbusy, endLaunch] at h
          generalize launchStatus settings browser l.number = status at h
          have hlanded : (∃ purpose, l.caller = some (other, purpose)) ∨
              ({ e with
                status := status
                available := decide (status = .ready)
                busy := none } : Engine).Concerns other := by
            unfold landFor at h
            split at h
            next caller purpose hcaller _ =>
              rcases h.of_grant with rfl | h
              · exact .inl ⟨purpose, hcaller⟩
              · exact .inr h
            next caller purpose _ hcaller _ =>
              rcases h.of_reply with rfl | h
              · exact .inl ⟨purpose, hcaller⟩
              · exact .inr h
            next => exact .inr h
          rcases hlanded with ⟨purpose, hcaller⟩ | h
          · exact hmine _ (by simp [Task.caller?, hcaller])
          · exact h.of_subset (fun _ h => h) (fun _ h => h) (fun _ h => by cases h) fun _ h => h
      | close c =>
          simp only [settle, hbusy, endClose] at h
          rcases h.of_conclude with rfl | h
          · exact hmine _ rfl
          · exact h.of_subset (fun _ h => h) (fun _ h => h) (fun _ h => by cases h) fun _ h => h

theorem Concerns.of_endPrint (h : (e.endPrint browser who).Concerns other) :
    e.Concerns other := by
  cases hfind : e.printing.find? fun p => p.caller == who with
  | none => simpa only [endPrint, hfind] using h
  | some p =>
      have hmine : e.Concerns who :=
        .printing (List.mem_of_find?_eq_some hfind) (by simpa using List.find?_some hfind)
      have hended (answer : Reply) (printed : Nat)
          (h : ({ e with printing := e.printing.erase p, printed := printed }.reply who
            answer).Concerns other) : e.Concerns other := by
        rcases h.of_reply with rfl | h
        · exact hmine
        · exact h.of_subset (fun _ h => h) List.erase_subset (fun _ h => h) fun _ h => h
      simp only [endPrint, hfind] at h
      split at h
      · exact hended _ _ h
      · exact hended _ _ h

/-- A step concerns nobody new but the one who asks. -/
theorem Concerns.of_apply {step : Step}
    (h : (e.apply settings browser now step).Concerns other) :
    (∃ request, step = .ask other request) ∨ e.Concerns other := by
  cases step with
  | ask who request =>
      simp only [Engine.apply, ask] at h
      split_ifs at h
      · rcases h.of_serve with rfl | h
        · exact .inl ⟨request, rfl⟩
        · exact .inr h
      · cases h with
        | waiting h =>
            rcases List.mem_append.1 h with h | h
            · exact .inr (.waiting h)
            · cases List.mem_singleton.1 h
              exact .inl ⟨request, rfl⟩
        | printing h hcaller => exact .inr (.printing h hcaller)
        | busy h hcaller => exact .inr (.busy h hcaller)
        | answered h => exact .inr (.answered h)
  | leave who => exact .inr h.of_leave
  | settle => exact .inr h.of_settle
  | serveNext =>
      simp only [Engine.apply, serveNext] at h
      split at h
      next who request rest hbusy hqueue =>
        rcases h.of_serve with rfl | h
        · exact .inr (.waiting (hqueue ▸ List.mem_cons_self))
        · refine .inr (h.of_subset (fun r hr => ?_) (fun _ h => h) (fun _ h => h) fun _ h => h)
          rw [hqueue]
          exact List.mem_cons_of_mem _ hr
      next => exact .inr h
  | endPrint who => exact .inr h.of_endPrint

/-- No answer is taken back. -/
theorem replies_subset_apply (settings : LaunchSettings) (browser : Browser) (now : Nat)
    (e : Engine) (step : Step) : e.replies ⊆ (e.apply settings browser now step).replies := by
  rcases answersOnce_apply settings browser now e step with hsame | ⟨other, answer, hnew, -⟩
  · rw [hsame]
    exact List.Subset.refl _
  · rw [hnew]
    exact List.subset_cons_self _ _

/-! ## Prints of a failed engine -/

/-- The engine has failed. -/
def IsFailed (e : Engine) : Prop :=
  ∃ reason, e.status = .failed reason

/-- Failure is final, and the launcher is left alone from then on. -/
theorem IsFailed.apply (h : e.IsFailed) (horderly : Orderly e) (settings : LaunchSettings)
    (browser : Browser) (now : Nat) (step : Step) :
    (e.apply settings browser now step).IsFailed ∧
      (e.apply settings browser now step).launches = e.launches := by
  obtain ⟨reason, hfailed⟩ := h
  obtain ⟨hlaunches, hstays | ⟨-, other, -, hother⟩⟩ :=
    apply_of_failed horderly hfailed settings browser now step
  · exact ⟨⟨reason, hstays⟩, hlaunches⟩
  · exact ⟨⟨other, hother⟩, hlaunches⟩

/-- The engine has never printed for a caller: no print is under way for him, and he was
never told how one ended. -/
structure NeverPrinted (e : Engine) (who : Nat) : Prop where
  idle : ∀ p ∈ e.printing, p.caller ≠ who
  noPage : ∀ pdf, (who, .printed pdf) ∉ e.replies
  noFault : ∀ fault, (who, .misprinted fault) ∉ e.replies

theorem neverPrinted_of_not_concerns (h : ¬ e.Concerns who) : e.NeverPrinted who where
  idle _ hp hcaller := h (.printing hp hcaller)
  noPage _ hreply := h (.answered hreply)
  noFault _ hreply := h (.answered hreply)

/-- A step that begins no print changes nothing about for whom the engine has printed. -/
theorem NeverPrinted.apply_of_subset (h : e.NeverPrinted who) {settings : LaunchSettings}
    {browser : Browser} {now : Nat} {step : Step}
    (hprinting : (e.apply settings browser now step).printing ⊆ e.printing) :
    (e.apply settings browser now step).NeverPrinted who := by
  have hidle : ∀ p ∈ (e.apply settings browser now step).printing, p.caller ≠ who :=
    fun p hp => h.idle p (hprinting hp)
  rcases answersOnce_apply settings browser now e step with hsame | ⟨other, answer, hnew, hgrounds⟩
  · exact ⟨hidle, hsame ▸ h.noPage, hsame ▸ h.noFault⟩
  · refine ⟨hidle, fun pdf hreply => ?_, fun fault hreply => ?_⟩
    all_goals
      rw [hnew] at hreply
      rcases List.mem_cons.1 hreply with heq | hreply
    · cases heq
      cases hgrounds with
      | printed hp hcaller => exact h.idle _ hp hcaller
    · exact h.noPage pdf hreply
    · cases heq
      cases hgrounds with
      | misprinted hp hcaller => exact h.idle _ hp hcaller
    · exact h.noFault fault hreply

/-- A failed engine begins to print for nobody. -/
theorem NeverPrinted.apply (h : e.NeverPrinted who) (horderly : Orderly e)
    (hfailed : e.IsFailed) (settings : LaunchSettings) (browser : Browser) (now : Nat)
    (step : Step) : (e.apply settings browser now step).NeverPrinted who := by
  obtain ⟨reason, hfailed⟩ := hfailed
  exact h.apply_of_subset fun p hp => printing_apply_of_failed horderly hfailed step p hp

end CanvasPress.Engine

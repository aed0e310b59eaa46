/-
# The engine's answers

A step answers one caller at most, and every answer has its grounds: whoever is
told that the engine is unavailable is told so by an engine that has failed, and
the result of a print goes to the caller of a print that was under way.  A failed
engine begins no print.
-/

import CanvasPress.Proofs.Engine.Failure

namespace CanvasPress.Engine

variable {settings : LaunchSettings} {browser : Browser} {now who : Nat} {e : Engine}

/-- On what grounds a caller is answered, given the prints that were under way and the
engine after the step. -/
inductive Grounds (browser : Browser) (printing : List Printing) (after : Engine) (who : Nat) :
    Reply → Prop where
  | ready (h : after.status = .ready) : Grounds browser printing after who .ready
  | unavailable {reason : String} (h : after.status = .failed reason) :
      Grounds browser printing after who (.unavailable reason)
  | printed {p : Printing} {pdf : ByteArray} (hp : p ∈ printing) (hcaller : p.caller = who)
      (hresult : p.result browser = .ok pdf) : Grounds browser printing after who (.printed pdf)
  | misprinted {p : Printing} {fault : Fault} (hp : p ∈ printing) (hcaller : p.caller = who)
      (hresult : p.result browser = .error fault) :
      Grounds browser printing after who (.misprinted fault)
  | done : Grounds browser printing after who .done
  | status : Grounds browser printing after who
      (.status after.status after.attempts after.printed)

/-- A step from one engine to another answers nobody, or one caller on good grounds. -/
def AnswersOnce (browser : Browser) (before after : Engine) : Prop :=
  after.replies = before.replies ∨
    ∃ who answer, after.replies = (who, answer) :: before.replies ∧
      Grounds browser before.printing after who answer

theorem answersOnce_grant (now who : Nat) (hready : e.status = .ready) (purpose : Purpose) :
    AnswersOnce browser e (e.grant now who purpose) := by
  cases purpose with
  | readiness => exact .inr ⟨who, .ready, rfl, .ready hready⟩
  | print html page => exact .inl rfl

theorem answersOnce_conclude (cause : Cause) : AnswersOnce browser e (e.conclude who cause) :=
  .inr ⟨who, .done, replies_conclude who cause e, .done⟩

theorem answersOnce_serve (request : Request) :
    AnswersOnce browser e (e.serve now who request) := by
  cases request with
  | use purpose =>
      cases hstatus : e.status with
      | ready =>
          simp only [serve, hstatus]
          exact answersOnce_grant now who hstatus purpose
      | failed reason =>
          simp only [serve, hstatus]
          exact .inr ⟨who, .unavailable reason, rfl, .unavailable hstatus⟩
      | uninitialized =>
          simp only [serve, hstatus]
          exact .inl rfl
  | disable reason =>
      simp only [serve]
      split_ifs with hready
      · exact .inl rfl
      · exact .inr ⟨who, .done, replies_conclude who (.disabled reason) _, .done⟩
  | shutDown =>
      simp only [serve]
      split_ifs with hready
      · exact .inl rfl
      · exact answersOnce_conclude .shutDown
  | inspect => exact .inr ⟨who, _, rfl, .status⟩

theorem answersOnce_settle : AnswersOnce browser e (e.settle settings browser now) := by
  cases hbusy : e.busy with
  | none =>
      simp only [settle, hbusy]
      exact .inl rfl
  | some task =>
      cases task with
      | launch l =>
          simp only [settle, hbusy, endLaunch]
          generalize launchStatus settings browser l.number = status
          cases hcaller : l.caller with
          | none => exact .inl rfl
          | some caller =>
              cases status with
              | uninitialized => exact .inl rfl
              | failed reason => exact .inr ⟨caller.1, .unavailable reason, rfl, .unavailable rfl⟩
              | ready =>
                  exact answersOnce_grant (e := { e with
                    status := .ready
                    available := true
                    busy := none }) now caller.1 rfl caller.2
      | close c =>
          simp only [settle, hbusy, endClose]
          exact .inr ⟨c.caller, .done, replies_conclude c.caller c.cause _, .done⟩

theorem answersOnce_endPrint : AnswersOnce browser e (e.endPrint browser who) := by
  cases hfind : e.printing.find? fun p => p.caller == who with
  | none =>
      simp only [endPrint, hfind]
      exact .inl rfl
  | some p =>
      have hmem := List.mem_of_find?_eq_some hfind
      have hcaller : p.caller = who := by simpa using List.find?_some hfind
      simp only [endPrint, hfind]
      cases hresult : p.result browser with
      | ok pdf => exact .inr ⟨who, .printed pdf, rfl, .printed hmem hcaller hresult⟩
      | error fault => exact .inr ⟨who, .misprinted fault, rfl, .misprinted hmem hcaller hresult⟩

/-- Every step answers one caller at most, and on good grounds. -/
theorem answersOnce_apply (settings : LaunchSettings) (browser : Browser) (now : Nat)
    (e : Engine) (step : Step) : AnswersOnce browser e (e.apply settings browser now step) := by
  cases step with
  | ask who request =>
      simp only [Engine.apply, ask]
      split_ifs with hidle
      · exact answersOnce_serve request
      · exact .inl rfl
  | leave who => exact .inl rfl
  | settle => exact answersOnce_settle
  | serveNext =>
      simp only [Engine.apply, serveNext]
      split
      next who request rest hbusy hqueue =>
        exact answersOnce_serve (e := { e with queue := rest }) request
      next => exact .inl rfl
  | endPrint who => exact answersOnce_endPrint

/-- A failed engine begins no print: whatever is printed afterwards was under way
before. -/
theorem printing_apply_of_failed (h : Orderly e) {reason : String}
    (hfailed : e.status = .failed reason) (step : Step) :
    ∀ p ∈ (e.apply settings browser now step).printing, p ∈ e.printing := by
  have hserve : ∀ who request queue,
      ({ e with queue := queue }.serve now who request).printing = e.printing := by
    intro who request queue
    have hready : e.status ≠ .ready := by simp [hfailed]
    cases request with
    | use purpose => simp [serve, hfailed, reply]
    | disable other => simp [serve, hready, conclude, reply]
    | shutDown => simp [serve, hready, conclude, reply]
    | inspect => rfl
  cases hserved : e.served? step with
  | some served =>
      obtain ⟨who, request⟩ := served
      obtain ⟨-, queue, happly⟩ := apply_of_served settings browser now hserved
      rw [happly, hserve]
      exact fun p hp => hp
  | none =>
      cases step with
      | ask who request =>
          by_cases hidle : e.isIdle = true
          · simp [served?, hidle] at hserved
          · simp [Engine.apply, ask, hidle]
      | leave who => exact fun p hp => (List.mem_filter.1 hp).1
      | settle =>
          cases hbusy : e.busy with
          | none => simp [Engine.apply, settle, hbusy]
          | some task =>
              cases task with
              | launch l =>
                  have huninitialized := h.launching l hbusy
                  rw [hfailed] at huninitialized
                  cases huninitialized
              | close c => simp [Engine.apply, settle, hbusy, endClose]
      | serveNext =>
          obtain hbusy | ⟨task, hbusy⟩ := Option.eq_none_or_eq_some e.busy
          · have hqueue : e.queue = [] := by simpa [served?, hbusy] using hserved
            simp [Engine.apply, serveNext_of_empty hqueue]
          · simp [Engine.apply, serveNext_of_busy hbusy]
      | endPrint who =>
          intro p hp
          simp only [Engine.apply, endPrint] at hp
          split at hp
          next => exact hp
          next ended _ =>
            split at hp <;> exact List.mem_of_mem_erase hp

end CanvasPress.Engine

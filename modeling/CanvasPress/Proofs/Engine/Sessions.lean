/-
# Operations one after the other

An operation begins with a request and has come to its end when nothing that it started is
under way any more.  Used from one place, an engine takes one operation after the other, so
it is at rest in between.  The clock of the session then does not show in the engine: a
session leaves it as the plain steps of its operations do.
-/

import CanvasPress.Engine.Session
import CanvasPress.Proofs.Engine.Callers
import CanvasPress.Proofs.Engine.Launches

namespace CanvasPress.Engine

variable {settings : LaunchSettings} {browser : Browser} {now who : Nat} {e f : Engine}
  {request : Request} {answer : Reply}

/-! ## Rest -/

/-- Nothing is under way and nobody waits. -/
structure AtRest (e : Engine) : Prop where
  idle : e.busy = none
  served : e.queue = []
  printed : e.printing = []

theorem atRest_fresh : fresh.AtRest :=
  ⟨rfl, rfl, rfl⟩

namespace AtRest

theorem reply (h : e.AtRest) (who : Nat) (answer : Reply) : (e.reply who answer).AtRest :=
  ⟨h.idle, h.served, h.printed⟩

theorem isIdle (h : e.AtRest) : e.isIdle = true := by
  simp [Engine.isIdle, h.idle, h.served]

theorem ask_eq_serve (h : e.AtRest) (now who : Nat) (request : Request) :
    e.ask now who request = e.serve now who request :=
  if_pos h.isIdle

theorem conclude (h : e.AtRest) (who : Nat) (cause : Cause) : (e.conclude who cause).AtRest :=
  ⟨by simp [h.idle], by simp [h.served], by simp [h.printed]⟩

end AtRest

theorem settle_of_not_busy (hbusy : e.busy = none) : e.settle settings browser now = e := by
  simp only [settle, hbusy]

theorem endPrint_of_no_print (hprinting : e.printing = []) : e.endPrint browser who = e := by
  simp [endPrint, hprinting]

/-! ## How far an operation has come -/

/-- How far the operation of a caller has come, from an engine at rest to this one. -/
inductive Stage (e : Engine) (who : Nat) (f : Engine) : Prop where
  | answered (rest : f.AtRest) (answer : Reply) (replies : f.replies = (who, answer) :: e.replies)
  | printing (idle : f.busy = none) (served : f.queue = []) (p : Printing)
      (caller : p.caller = who) (printing : f.printing = [p]) (replies : f.replies = e.replies)
  | busy (task : Task) (caller : task.caller? = some who) (busy : f.busy = some task)
      (served : f.queue = []) (printing : f.printing = []) (replies : f.replies = e.replies)

theorem stage_grant (h : f.AtRest) (hreplies : f.replies = e.replies) (now who : Nat)
    (purpose : Purpose) : Stage e who (f.grant now who purpose) := by
  cases purpose with
  | readiness => exact .answered (h.reply who .ready) .ready (by rw [grant, reply, hreplies])
  | print html page =>
      exact .printing h.idle h.served ⟨now, f.prints, who, html, page⟩ rfl
        (by simp [grant, h.printed]) hreplies

/-- A request to an engine at rest is answered at once, or a print or a task begins. -/
theorem stage_ask (h : e.AtRest) (now who : Nat) (request : Request) :
    Stage e who (e.ask now who request) := by
  rw [h.ask_eq_serve]
  cases request with
  | use purpose =>
      cases hstatus : e.status with
      | ready =>
          simp only [serve, hstatus]
          exact stage_grant h rfl now who purpose
      | failed reason =>
          simp only [serve, hstatus]
          exact .answered (h.reply who _) _ rfl
      | uninitialized =>
          simp only [serve, hstatus]
          exact .busy _ rfl rfl h.served h.printed rfl
  | disable reason =>
      simp only [serve]
      split_ifs
      · exact .busy _ rfl rfl h.served h.printed rfl
      · have hrest : ({ e with status := .failed reason } : Engine).AtRest :=
          ⟨h.idle, h.served, h.printed⟩
        exact .answered (hrest.conclude who _) .done (replies_conclude _ _ _)
  | shutDown =>
      simp only [serve]
      split_ifs
      · exact .busy _ rfl rfl h.served h.printed rfl
      · exact .answered (h.conclude who _) .done (replies_conclude _ _ _)
  | inspect => exact .answered (h.reply who _) _ rfl

/-- When a task has ended its caller is answered, or his print begins. -/
theorem stage_settle {task : Task} (hcaller : task.caller? = some who) (hbusy : f.busy = some task)
    (hserved : f.queue = []) (hprinting : f.printing = []) (hreplies : f.replies = e.replies)
    (settings : LaunchSettings) (browser : Browser) (now : Nat) :
    Stage e who (f.settle settings browser now) := by
  cases task with
  | launch l =>
      simp only [settle, hbusy, endLaunch]
      have hknown := launchStatus_ne_uninitialized settings browser l.number
      generalize launchStatus settings browser l.number = status at hknown ⊢
      obtain ⟨⟨caller, purpose⟩, hlaunch, rfl⟩ := Option.map_eq_some_iff.1 hcaller
      have hrest : ({ f with
          status := status
          available := decide (status = .ready)
          busy := none } : Engine).AtRest := ⟨rfl, hserved, hprinting⟩
      rw [hlaunch]
      cases status with
      | uninitialized => exact absurd rfl hknown
      | ready => exact stage_grant hrest hreplies now caller purpose
      | failed reason =>
          exact .answered (hrest.reply caller _) (.unavailable reason)
            (congrArg (List.cons (caller, _)) hreplies)
  | close c =>
      obtain rfl : c.caller = who := Option.some.inj hcaller
      simp only [settle, hbusy, endClose]
      have hrest : ({ f with available := false, busy := none } : Engine).AtRest :=
        ⟨rfl, hserved, hprinting⟩
      exact .answered (hrest.conclude _ _) .done
        ((replies_conclude _ _ _).trans (congrArg (List.cons (c.caller, _)) hreplies))

theorem stage_endPrint {p : Printing} (hidle : f.busy = none) (hserved : f.queue = [])
    (hcaller : p.caller = who) (hprinting : f.printing = [p]) (hreplies : f.replies = e.replies)
    (browser : Browser) :
    (f.endPrint browser who).AtRest ∧
      ∃ answer, (f.endPrint browser who).replies = (who, answer) :: e.replies := by
  have hfind : (f.printing.find? fun p => p.caller == who) = some p := by
    simp [hprinting, hcaller]
  simp only [endPrint, hfind]
  have hnone : f.printing.erase p = [] := by simp [hprinting]
  split
  · exact ⟨⟨hidle, hserved, hnone⟩, _, congrArg (List.cons (who, _)) hreplies⟩
  · exact ⟨⟨hidle, hserved, hnone⟩, _, congrArg (List.cons (who, _)) hreplies⟩

/-! ## Operations -/

/-- The steps of an operation from its request to its end. -/
def operation (who : Nat) (request : Request) : List Step :=
  [.ask who request, .settle, .endPrint who]

/-- The steps of operations in order, with numbers that count from the first one. -/
def operations : Nat → List Request → List Step
  | _, [] => []
  | next, request :: rest => operation next request ++ operations (next + 1) rest

theorem run_append (settings : LaunchSettings) (browser : Browser) (e : Engine)
    (first second : List Step) :
    e.run settings browser (first ++ second) =
      (e.run settings browser first).run settings browser second :=
  List.foldl_append

/-- The engine when an operation has come to its end, whenever its steps were taken. -/
def finish (settings : LaunchSettings) (browser : Browser) (asked settled who : Nat)
    (request : Request) (e : Engine) : Engine :=
  ((e.ask asked who request).settle settings browser settled).endPrint browser who

/-- A print that has ended does not show when it began. -/
theorem endPrint_grant (hprinting : e.printing = []) (now who : Nat) (purpose : Purpose) :
    (e.grant now who purpose).endPrint browser who =
      (e.grant 0 who purpose).endPrint browser who := by
  cases purpose with
  | readiness => rfl
  | print html page => simp [grant, endPrint, hprinting, Printing.result]

theorem finish_eq_run (h : e.AtRest) (settings : LaunchSettings) (browser : Browser)
    (asked settled who : Nat) (request : Request) :
    e.finish settings browser asked settled who request =
      e.run settings browser (operation who request) := by
  change _ = e.finish settings browser 0 0 who request
  simp only [finish, h.ask_eq_serve]
  cases request with
  | use purpose =>
      cases hstatus : e.status with
      | ready =>
          simp only [serve, hstatus]
          rw [settle_of_not_busy (by simpa using h.idle),
            settle_of_not_busy (by simpa using h.idle)]
          exact endPrint_grant h.printed asked who purpose
      | failed reason => simp only [serve, hstatus, reply, settle, h.idle]
      | uninitialized =>
          simp only [serve, hstatus, beginLaunch, settle, endLaunch]
          generalize launchStatus settings browser e.launches = status
          cases status with
          | ready =>
              refine endPrint_grant ?_ settled who purpose
              exact h.printed
          | failed reason => rfl
          | uninitialized => rfl
  | disable reason =>
      simp only [serve]
      split_ifs
      · rfl
      · rw [settle_of_not_busy (by simpa using h.idle), settle_of_not_busy (by simpa using h.idle)]
  | shutDown =>
      simp only [serve]
      split_ifs
      · rfl
      · rw [settle_of_not_busy (by simpa using h.idle), settle_of_not_busy (by simpa using h.idle)]
  | inspect => simp only [serve, reply, settle, h.idle]

/-! ## Calls -/

theorem replyTo_of_replies {replies : List (Nat × Reply)}
    (h : f.replies = (who, answer) :: replies) : f.replyTo who = some answer := by
  simp [replyTo, h]

theorem replyTo_congr (h : f.replies = e.replies) : f.replyTo who = e.replyTo who := by
  rw [replyTo, replyTo, h]

namespace Session

variable {s : Session} {ends : Nat}

theorem awaitReply_of_some (hreply : s.engine.replyTo who = some answer) :
    s.awaitReply who ends = (answer, s) := by
  cases ends with
  | zero => simp [awaitReply, hreply]
  | succ ends => simp [awaitReply, hreply]

theorem awaitReply_of_none (hreply : s.engine.replyTo who = none) :
    s.awaitReply who (ends + 1) = s.await.awaitReply who ends := by
  simp [awaitReply, hreply]

/-- An answer, after the end of a print if one is under way. -/
theorem awaitReply_of_stage (hstage : Stage e who s.engine) (hbusy : s.engine.busy = none)
    (hnew : e.replyTo who = none) (ends : Nat) :
    ∃ answer now, s.awaitReply who (ends + 1) =
        (answer, { s with now := now, engine := s.engine.endPrint s.browser who }) ∧
      (s.engine.endPrint s.browser who).AtRest ∧
      (s.engine.endPrint s.browser who).replies = (who, answer) :: e.replies := by
  cases hstage with
  | answered rest answer replies =>
      rw [endPrint_of_no_print rest.printed]
      exact ⟨answer, s.now, awaitReply_of_some (replyTo_of_replies replies), rest, replies⟩
  | printing idle served p caller printing replies =>
      obtain ⟨rest, answer, hanswer⟩ := stage_endPrint idle served caller printing replies s.browser
      have hawait : s.await = { s with
          now := max s.now (p.ends s.browser)
          engine := s.engine.endPrint s.browser who } := by
        simp [await, idle, printing, caller]
      rw [awaitReply_of_none ((replyTo_congr replies).trans hnew), hawait]
      exact ⟨answer, _, awaitReply_of_some (replyTo_of_replies hanswer), rest, hanswer⟩
  | busy task caller busy => exact absurd (hbusy.symm.trans busy) (Option.some_ne_none _).symm

/-- What keeps the engine busy comes to its end, and nobody else has waited for that. -/
theorem await_of_busy {task : Task} (hbusy : s.engine.busy = some task)
    (hserved : s.engine.queue = []) :
    ∃ now log, s.await = { s with
      now := now
      engine := s.engine.settle s.settings s.browser now
      log := log } := by
  simp only [await, hbusy, hserved, List.length_nil, serveAll]
  exact ⟨_, _, rfl⟩

/-- A call takes the engine through an operation and returns its answer. -/
theorem call_eq (h : s.engine.AtRest) (hnew : s.engine.replyTo s.next = none) (request : Request) :
    let done := s.engine.run s.settings s.browser (operation s.next request)
    done.AtRest ∧ ∃ answer now log,
      s.call request =
        (answer, { s with now := now, engine := done, next := s.next + 1, log := log }) ∧
      done.replies = (s.next, answer) :: s.engine.replies := by
  intro done
  have hfinish (settled : Nat) :
      ((s.engine.ask s.now s.next request).settle s.settings s.browser settled).endPrint s.browser
        s.next = done :=
    finish_eq_run h s.settings s.browser s.now settled s.next request
  have hstage := stage_ask h s.now s.next request
  cases hbusy : (s.engine.ask s.now s.next request).busy with
  | none =>
      obtain ⟨answer, now, hcall, hrest, hanswer⟩ :=
        awaitReply_of_stage (s := s.send request) hstage hbusy hnew 2
      have hdone : (s.send request).engine.endPrint (s.send request).browser s.next = done := by
        have hsettled := hfinish 0
        rwa [settle_of_not_busy hbusy] at hsettled
      rw [hdone] at hcall hrest hanswer
      exact ⟨hrest, answer, now, _, hcall, hanswer⟩
  | some task =>
      cases hstage with
      | answered rest => exact absurd (hbusy.symm.trans rest.idle) (Option.some_ne_none _)
      | printing idle => exact absurd (hbusy.symm.trans idle) (Option.some_ne_none _)
      | busy own caller ownBusy served printing replies =>
          obtain ⟨settled, log, hawait⟩ := await_of_busy (s := s.send request) hbusy served
          have hstage := stage_settle caller ownBusy served printing replies s.settings s.browser
            settled
          obtain ⟨answer, now, hcall, hrest, hanswer⟩ :=
            awaitReply_of_stage (s := (s.send request).await) (hawait ▸ hstage)
              (hawait ▸ busy_settle s.settings s.browser settled _) hnew 1
          have hdone :
              (s.send request).await.engine.endPrint (s.send request).await.browser s.next =
                done := by
            rw [hawait]
            exact hfinish settled
          rw [hdone, ← awaitReply_of_none ((replyTo_congr replies).trans hnew)] at hcall
          rw [hdone] at hrest hanswer
          refine ⟨hrest, answer, now, log, ?_, hanswer⟩
          rw [call, hcall, hawait]
          rfl

/-- Operations one after the other, without their answers. -/
def perform (s : Session) (requests : List Request) : Session :=
  requests.foldl (fun s request => (s.call request).2) s

/-- The engine is at rest, and the numbers of requests to come are new to it. -/
structure Quiet (s : Session) : Prop where
  rest : s.engine.AtRest
  numbered : ∀ r ∈ s.engine.replies, r.1 < s.next

theorem quiet_start (settings : LaunchSettings) (browser : Browser) :
    (start settings browser).Quiet where
  rest := atRest_fresh
  numbered _ hr := by cases hr

theorem Quiet.replyTo (h : s.Quiet) : s.engine.replyTo s.next = none := by
  rw [Engine.replyTo, Option.map_eq_none_iff, List.find?_eq_none]
  intro r hr hnext
  have hless := h.numbered r hr
  rw [beq_iff_eq.1 hnext] at hless
  exact Nat.lt_irrefl _ hless

theorem Quiet.call (h : s.Quiet) (request : Request) : (s.call request).2.Quiet := by
  obtain ⟨hrest, answer, now, log, hcall, hanswer⟩ := call_eq h.rest h.replyTo request
  rw [hcall]
  refine ⟨hrest, fun r hr => ?_⟩
  rcases List.mem_cons.1 (hanswer ▸ hr) with rfl | hr
  · exact Nat.lt_succ_self _
  · exact Nat.lt_succ_of_lt (h.numbered r hr)

/-- A session takes the engine through its operations, and leaves it at rest. -/
theorem Quiet.perform (h : s.Quiet) (requests : List Request) :
    (s.perform requests).Quiet ∧ (s.perform requests).engine =
      s.engine.run s.settings s.browser (operations s.next requests) := by
  induction requests generalizing s with
  | nil => exact ⟨h, rfl⟩
  | cons request rest ih =>
      obtain ⟨-, answer, now, log, hcall, -⟩ := call_eq h.rest h.replyTo request
      obtain ⟨hquiet, hengine⟩ := ih (h.call request)
      refine ⟨hquiet, hengine.trans ?_⟩
      rw [operations, run_append, hcall]

end Session

end CanvasPress.Engine

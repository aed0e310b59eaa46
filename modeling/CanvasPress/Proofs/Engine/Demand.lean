/-
# What the engine still has to do

A caller who wants a page printed wants it until he is told how that ended: his page waits
in the queue, for the launch, or is being printed, and no step loses it.  And the engine
never has more to do than it was asked for: every turn, every end of a task and every end
of a print brings it closer to having nothing left.
-/

import CanvasPress.Proofs.Engine.Callers
import CanvasPress.Proofs.Engine.Launches
import Mathlib.Data.List.Perm.Basic

namespace CanvasPress.Engine

variable {settings : LaunchSettings} {browser : Browser} {now who caller : Nat} {e : Engine}

/-! ## Pages -/

/-- A page to be printed. -/
abbrev Sheet := String × PageSize

def Purpose.sheets : Purpose → List Sheet
  | .readiness => []
  | .print html page => [(html, page)]

def Request.sheets : Request → List Sheet
  | .use purpose => purpose.sheets
  | _ => []

/-- Pages that somebody wants, if it is he. -/
def sheetsOf (who caller : Nat) (sheets : List Sheet) : List Sheet :=
  if caller = who then sheets else []

/-- What a task is to print for somebody when it has ended. -/
def Task.sheetsFor (who : Nat) : Task → List Sheet
  | .launch l => (l.caller.map fun c => sheetsOf who c.1 c.2.sheets).getD []
  | .close _ => []

/-- The pages that somebody has asked for and that are not printed yet. -/
def wants (e : Engine) (who : Nat) : List Sheet :=
  (e.busy.map (Task.sheetsFor who)).getD [] ++
    (e.queue.flatMap fun r => sheetsOf who r.1 r.2.sheets) ++
      e.printing.flatMap fun p => sheetsOf who p.caller [(p.html, p.page)]

/-- An answer that ends the wait for a page. -/
def Reply.IsFinal : Reply → Prop
  | .unavailable _ => True
  | .printed _ => True
  | .misprinted _ => True
  | _ => False

/-- After a step somebody wants certain pages, or he has had a final answer. -/
def Meets (before after : Engine) (who : Nat) (sheets : List Sheet) : Prop :=
  (after.wants who).Perm sheets ∨
    ∃ answer : Reply, answer.IsFinal ∧ after.replies = (who, answer) :: before.replies

@[simp]
theorem sheetsOf_nil : sheetsOf who caller [] = [] := by
  unfold sheetsOf
  split_ifs <;> rfl

theorem sheetsOf_of_ne (hne : caller ≠ who) (sheets : List Sheet) :
    sheetsOf who caller sheets = [] :=
  if_neg hne

/-- Whoever is no concern of the engine wants nothing. -/
theorem wants_of_not_concerns (h : ¬ e.Concerns who) : e.wants who = [] := by
  have htask : (e.busy.map (Task.sheetsFor who)).getD [] = [] := by
    cases hbusy : e.busy with
    | none => rfl
    | some task =>
        cases task with
        | close c => rfl
        | launch l =>
            cases hcaller : l.caller with
            | none => simp [Task.sheetsFor, hcaller]
            | some c =>
                have hne : c.1 ≠ who := fun hsame =>
                  h (.busy hbusy (by simp [Task.caller?, hcaller, hsame]))
                simp [Task.sheetsFor, hcaller, sheetsOf_of_ne hne]
  have hqueue : (e.queue.flatMap fun r => sheetsOf who r.1 r.2.sheets) = [] :=
    List.flatMap_eq_nil_iff.2 fun r hr =>
      sheetsOf_of_ne (fun hsame : r.1 = who => h (.waiting (hsame ▸ hr : (who, r.2) ∈ e.queue))) _
  have hprinting : (e.printing.flatMap fun p => sheetsOf who p.caller [(p.html, p.page)]) = [] :=
    List.flatMap_eq_nil_iff.2 fun p hp => sheetsOf_of_ne (fun hsame => h (.printing hp hsame)) _
  rw [wants, htask, hqueue, hprinting]
  rfl

/-- A page that is being printed for somebody is one that he wants. -/
theorem mem_wants_of_mem_printing {p : Printing} (hp : p ∈ e.printing) :
    (p.html, p.page) ∈ e.wants p.caller := by
  refine List.mem_append_right _ (List.mem_flatMap.2 ⟨p, hp, ?_⟩)
  rw [sheetsOf, if_pos rfl]
  exact List.mem_singleton_self _

/-- An engine that has nothing to do has nothing left to print. -/
theorem wants_of_still (hbusy : e.busy = none) (hqueue : e.queue = [])
    (hprinting : e.printing = []) : e.wants who = [] := by
  simp [wants, hbusy, hqueue, hprinting]

theorem wants_reply (answer : Reply) : (e.reply caller answer).wants who = e.wants who := rfl

theorem wants_conclude (cause : Cause) : (e.conclude caller cause).wants who = e.wants who := by
  cases cause <;> rfl

theorem wants_grant (purpose : Purpose) :
    (e.grant now caller purpose).wants who = e.wants who ++ sheetsOf who caller purpose.sheets := by
  cases purpose with
  | readiness => simp [grant, wants_reply, Purpose.sheets]
  | print html page => simp [grant, wants, Purpose.sheets]

theorem wants_serve (hbusy : e.busy = none) (now caller : Nat) (request : Request) (who : Nat) :
    Meets e (e.serve now caller request) who
      (sheetsOf who caller request.sheets ++ e.wants who) := by
  cases request with
  | use purpose =>
      cases hstatus : e.status with
      | ready =>
          simp only [serve, hstatus]
          rw [Meets, wants_grant]
          exact .inl List.perm_append_comm
      | failed reason =>
          simp only [serve, hstatus]
          by_cases hsame : caller = who
          · exact .inr ⟨.unavailable reason, trivial, by rw [hsame]; rfl⟩
          · rw [sheetsOf_of_ne hsame]
            exact .inl (.refl _)
      | uninitialized =>
          simp only [serve, hstatus]
          refine .inl (List.Perm.of_eq ?_)
          simp [wants, beginLaunch, hbusy, Task.sheetsFor, Request.sheets]
  | disable reason =>
      simp only [serve]
      refine .inl (List.Perm.of_eq ?_)
      split_ifs
      · simp [wants, beginClose, hbusy, Task.sheetsFor, Request.sheets]
      · rw [wants_conclude]
        simp [wants, Request.sheets]
  | shutDown =>
      simp only [serve]
      refine .inl (List.Perm.of_eq ?_)
      split_ifs
      · simp [wants, beginClose, hbusy, Task.sheetsFor, Request.sheets]
      · simp [wants_conclude, Request.sheets]
  | inspect => exact .inl (List.Perm.of_eq (by simp [serve, wants_reply, Request.sheets]))

/-- Whoever asks for a page wants it from then on. -/
theorem wants_ask (now caller : Nat) (request : Request) (who : Nat) :
    Meets e (e.ask now caller request) who
      (sheetsOf who caller request.sheets ++ e.wants who) := by
  unfold ask
  split_ifs with hidle
  · exact wants_serve (not_busy_of_isIdle hidle) now caller request who
  · refine .inl (List.perm_iff_count.2 fun sheet => ?_)
    simp only [wants, List.flatMap_append, List.flatMap_cons, List.flatMap_nil, List.append_nil,
      List.count_append]
    omega

theorem wants_serveNext (now : Nat) (who : Nat) : Meets e (e.serveNext now) who (e.wants who) := by
  unfold serveNext
  split
  next caller request rest hbusy hqueue =>
    have hserved := wants_serve (e := { e with queue := rest }) hbusy now caller request who
    have hsheets : e.wants who =
        sheetsOf who caller request.sheets ++ ({ e with queue := rest } : Engine).wants who := by
      simp [wants, hbusy, hqueue]
    rw [hsheets]
    exact hserved
  next => exact .inl (.refl _)

theorem wants_settle (settings : LaunchSettings) (browser : Browser) (now who : Nat) :
    Meets e (e.settle settings browser now) who (e.wants who) := by
  cases hbusy : e.busy with
  | none =>
      simp only [settle, hbusy]
      exact .inl (.refl _)
  | some task =>
      have hsheets : e.wants who =
          task.sheetsFor who ++ ({ e with busy := none } : Engine).wants who := by
        simp [wants, hbusy]
      rw [hsheets]
      cases task with
      | close c =>
          simp only [settle, hbusy, endClose]
          rw [Meets, wants_conclude]
          exact .inl (.refl _)
      | launch l =>
          simp only [settle, hbusy, endLaunch]
          have hstatus := launchStatus_ne_uninitialized settings browser l.number
          generalize launchStatus settings browser l.number = status at hstatus ⊢
          cases hcaller : l.caller with
          | none =>
              refine .inl (List.Perm.of_eq ?_)
              simp [landFor, Task.sheetsFor, hcaller, wants]
          | some c =>
              obtain ⟨caller, purpose⟩ := c
              have hmine : (Task.launch l).sheetsFor who = sheetsOf who caller purpose.sheets := by
                simp [Task.sheetsFor, hcaller]
              rw [hmine]
              cases status with
              | uninitialized => exact absurd rfl hstatus
              | ready =>
                  simp only [landFor]
                  rw [Meets, wants_grant]
                  exact .inl List.perm_append_comm
              | failed reason =>
                  simp only [landFor]
                  by_cases hsame : caller = who
                  · exact .inr ⟨.unavailable reason, trivial, by rw [hsame]; rfl⟩
                  · rw [sheetsOf_of_ne hsame]
                    exact .inl (.refl _)

theorem wants_endPrint (browser : Browser) (caller who : Nat) :
    Meets e (e.endPrint browser caller) who (e.wants who) := by
  unfold endPrint
  split
  next => exact .inl (.refl _)
  next p hfind =>
    have hcaller : p.caller = caller := by simpa using List.find?_some hfind
    have hended (answer : Reply) (printed : Nat) (hfinal : answer.IsFinal) :
        Meets e (({ e with printing := e.printing.erase p, printed := printed } : Engine).reply
          caller answer) who (e.wants who) := by
      by_cases hsame : caller = who
      · exact .inr ⟨answer, hfinal, by rw [hsame]; rfl⟩
      · -- The print that has ended was not for him.
        have hperm := (List.perm_cons_erase (List.mem_of_find?_eq_some hfind)).flatMap_right
          fun p => sheetsOf who p.caller [(p.html, p.page)]
        rw [List.flatMap_cons, sheetsOf_of_ne (hcaller ▸ hsame), List.nil_append] at hperm
        exact .inl (hperm.symm.append_left _)
    dsimp only
    split
    · exact hended _ _ trivial
    · exact hended _ _ trivial

/-- What contributes nothing may be dropped. -/
theorem flatMap_filter_of_nil {α β : Type} {f : α → List β} {keep : α → Bool} {l : List α}
    (hnil : ∀ x ∈ l, keep x = false → f x = []) : (l.filter keep).flatMap f = l.flatMap f := by
  induction l with
  | nil => rfl
  | cons x rest ih =>
      have hrest := ih fun y hy => hnil y (List.mem_cons_of_mem _ hy)
      rw [List.filter_cons, List.flatMap_cons]
      split_ifs with hkept
      · rw [List.flatMap_cons, hrest]
      · rw [hrest, hnil x List.mem_cons_self (by simpa using hkept), List.nil_append]

theorem sheetsFor_of_withoutCaller (hne : caller ≠ who) (task : Task) :
    ((task.withoutCaller caller).map (Task.sheetsFor who)).getD [] = task.sheetsFor who := by
  cases task with
  | close c =>
      simp only [Task.withoutCaller]
      split_ifs <;> rfl
  | launch l =>
      cases hcaller : l.caller with
      | none => simp [Task.withoutCaller, Task.sheetsFor, hcaller]
      | some c =>
          by_cases hsame : c.1 = caller
          · simp [Task.withoutCaller, Task.sheetsFor, hcaller, Option.filter, hsame,
              sheetsOf_of_ne hne]
          · simp [Task.withoutCaller, Task.sheetsFor, hcaller, Option.filter, hsame]

/-- Somebody else leaves. -/
theorem wants_leave (hne : caller ≠ who) : (e.leave caller).wants who = e.wants who := by
  have hqueue : (e.queue.filter fun r => r.1 != caller).flatMap
      (fun r => sheetsOf who r.1 r.2.sheets) =
        e.queue.flatMap fun r => sheetsOf who r.1 r.2.sheets :=
    flatMap_filter_of_nil fun r _ hdropped =>
      sheetsOf_of_ne (fun hsame => hne ((bne_eq_false_iff_eq.1 hdropped).symm.trans hsame)) _
  have hprinting : (e.printing.filter fun p => p.caller != caller).flatMap
      (fun p => sheetsOf who p.caller [(p.html, p.page)]) =
        e.printing.flatMap fun p => sheetsOf who p.caller [(p.html, p.page)] :=
    flatMap_filter_of_nil fun p _ hdropped =>
      sheetsOf_of_ne (fun hsame => hne ((bne_eq_false_iff_eq.1 hdropped).symm.trans hsame)) _
  have hbusy : ((e.busy.bind (Task.withoutCaller caller)).map (Task.sheetsFor who)).getD [] =
      (e.busy.map (Task.sheetsFor who)).getD [] := by
    cases e.busy with
    | none => rfl
    | some task => exact sheetsFor_of_withoutCaller hne task
  simp only [wants, leave, hqueue, hprinting, hbusy]

/-- No step but his own request and his leaving changes what somebody wants, until he has a
final answer. -/
theorem wants_apply (settings : LaunchSettings) (browser : Browser) (now : Nat) {step : Step}
    (hask : ∀ request, step ≠ .ask who request) (hleave : step ≠ .leave who) :
    Meets e (e.apply settings browser now step) who (e.wants who) := by
  cases step with
  | ask caller request =>
      have hasked := wants_ask (e := e) now caller request who
      have hne : caller ≠ who := fun hsame => hask request (by rw [hsame])
      rwa [sheetsOf_of_ne hne, List.nil_append] at hasked
  | leave caller =>
      have hne : caller ≠ who := fun hsame => hleave (by rw [hsame])
      exact .inl (.of_eq (wants_leave hne))
  | settle => exact wants_settle settings browser now who
  | serveNext => exact wants_serveNext now who
  | endPrint caller => exact wants_endPrint browser caller who

/-! ## Load -/

/-- A measure of what the engine has to do: a request may lead to a task, and a task to a
print. -/
def load (e : Engine) : Nat :=
  3 * e.queue.length + e.printing.length + 2 * e.busy.toList.length

@[simp]
theorem load_reply (answer : Reply) : (e.reply who answer).load = e.load := rfl

@[simp]
theorem load_conclude (cause : Cause) : (e.conclude who cause).load = e.load := by
  cases cause <;> rfl

theorem load_grant_le (purpose : Purpose) : (e.grant now who purpose).load ≤ e.load + 1 := by
  cases purpose with
  | readiness => exact Nat.le_succ _
  | print html page =>
      simp only [load, grant, List.length_append, List.length_singleton]
      omega

theorem load_serve_le (hbusy : e.busy = none) (request : Request) :
    (e.serve now who request).load ≤ e.load + 2 := by
  have htask {started : Engine} (hqueue : started.queue = e.queue)
      (hprinting : started.printing = e.printing) : started.load ≤ e.load + 2 := by
    have htasks : started.busy.toList.length ≤ 1 := by cases started.busy <;> simp
    simp only [load, hqueue, hprinting, hbusy]
    omega
  cases request with
  | use purpose =>
      cases hstatus : e.status with
      | ready =>
          simp only [serve, hstatus]
          exact Nat.le_succ_of_le (load_grant_le purpose)
      | failed reason =>
          simp only [serve, hstatus]
          exact Nat.le_add_right _ 2
      | uninitialized =>
          simp only [serve, hstatus]
          exact htask rfl rfl
  | disable reason =>
      simp only [serve]
      split_ifs
      · exact htask rfl rfl
      · rw [load_conclude]
        exact htask rfl rfl
  | shutDown =>
      simp only [serve]
      split_ifs
      · exact htask rfl rfl
      · rw [load_conclude]
        exact Nat.le_add_right _ 2
  | inspect => exact Nat.le_add_right _ 2

theorem load_ask_le (request : Request) : (e.ask now who request).load ≤ e.load + 3 := by
  unfold ask
  split_ifs with hidle
  · exact Nat.le_succ_of_le (load_serve_le (not_busy_of_isIdle hidle) request)
  · simp only [load, List.length_append, List.length_singleton]
    omega

theorem load_serveNext_lt (hbusy : e.busy = none) (hqueue : e.queue ≠ []) :
    (e.serveNext now).load < e.load := by
  obtain ⟨⟨caller, request⟩, rest, hcons⟩ := List.exists_cons_of_ne_nil hqueue
  have hrest : ({ e with queue := rest } : Engine).load + 3 = e.load := by
    simp only [load, hcons, List.length_cons]
    omega
  have hserved : (({ e with queue := rest } : Engine).serve now caller request).load ≤
      ({ e with queue := rest } : Engine).load + 2 :=
    @load_serve_le now caller { e with queue := rest } hbusy request
  rw [serveNext_cons now hbusy hcons]
  omega

theorem load_settle_lt {task : Task} (hbusy : e.busy = some task) :
    (e.settle settings browser now).load < e.load := by
  have hfree : ({ e with busy := none } : Engine).load + 2 = e.load := by
    simp [load, hbusy]
  cases task with
  | close c =>
      simp only [settle, hbusy, endClose, load_conclude]
      change ({ e with busy := none } : Engine).load < e.load
      omega
  | launch l =>
      simp only [settle, hbusy, endLaunch]
      generalize launchStatus settings browser l.number = status
      have hlanded : ({ e with
          status := status
          available := decide (status = .ready)
          busy := none } : Engine).load + 2 = e.load := hfree
      unfold landFor
      split
      next caller purpose _ _ =>
        have hgranted : (grant now caller purpose { e with
            status := status, available := decide (status = .ready), busy := none }).load ≤ _ :=
          load_grant_le purpose
        omega
      next =>
        rw [load_reply]
        omega
      next => omega

theorem load_endPrint_lt {p : Printing} (hp : p ∈ e.printing) (hcaller : p.caller = who) :
    (e.endPrint browser who).load < e.load := by
  unfold endPrint
  split
  next hnone => exact absurd hcaller (by simpa using List.find?_eq_none.1 hnone p hp)
  next ended hfind =>
    have hmem := List.mem_of_find?_eq_some hfind
    have hless : ({ e with printing := e.printing.erase ended } : Engine).load < e.load := by
      have hlength := List.length_erase_of_mem hmem
      have hpos := List.length_pos_of_mem hmem
      simp only [load, hlength]
      omega
    dsimp only
    split
    · exact hless
    · exact hless

theorem load_leave_le : (e.leave who).load ≤ e.load := by
  have hqueue := List.length_filter_le (fun r : Nat × Request => r.1 != who) e.queue
  have hprinting := List.length_filter_le (fun p : Printing => p.caller != who) e.printing
  have hbusy : (e.leave who).busy.toList.length ≤ e.busy.toList.length := by
    cases hbusy : e.busy with
    | none => simp [leave, hbusy]
    | some task =>
        simp only [leave, hbusy, Option.bind_some]
        cases task.withoutCaller who with
        | none => exact Nat.zero_le _
        | some left => exact Nat.le_refl _
  simp only [load, leave] at hbusy ⊢
  omega


end CanvasPress.Engine

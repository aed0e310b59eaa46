/-
# What the engine owes to whom

A request waits for its turn, then a task or a print may be under way for it, and then it is
answered.  So the dealings that somebody has with the engine, those under way and those
answered, are as many as he has asked for, until he leaves.  And what he may be told follows
from what he wants: terms that are fair cannot be broken by any step.
-/

import CanvasPress.Proofs.Engine.Callers
import CanvasPress.Proofs.Engine.Launches
import Mathlib.Data.List.Perm.Basic

namespace CanvasPress.Engine

variable {settings : LaunchSettings} {browser : Browser} {now who caller : Nat} {e : Engine}
  {step : Step}

/-! ## Dealings -/

/-- How much is waiting or under way for somebody. -/
def engagements (e : Engine) (who : Nat) : Nat :=
  e.queue.countP (fun r => r.1 == who) + (e.busy.bind Task.caller?).toList.count who +
    e.printing.countP fun p => p.caller == who

/-- How many answers somebody has had. -/
def answers (e : Engine) (who : Nat) : Nat :=
  e.replies.countP fun r => r.1 == who

/-- The dealings of somebody with the engine. -/
def dealings (e : Engine) (who : Nat) : Nat :=
  e.engagements who + e.answers who

/-- One, if it is he. -/
def share (who caller : Nat) : Nat :=
  if caller = who then 1 else 0

theorem share_self : share who who = 1 :=
  if_pos rfl

theorem share_of_ne (hne : caller ≠ who) : share who caller = 0 :=
  if_neg hne

/-- Whoever is no concern of the engine has no dealings with it. -/
theorem dealings_of_not_concerns (h : ¬ e.Concerns who) : e.dealings who = 0 := by
  have hqueue : e.queue.countP (fun r => r.1 == who) = 0 :=
    List.countP_eq_zero.2 fun r hr hsame => h (.waiting (beq_iff_eq.1 hsame ▸ hr : (who, r.2) ∈ _))
  have hprinting : e.printing.countP (fun p => p.caller == who) = 0 :=
    List.countP_eq_zero.2 fun p hp hsame => h (.printing hp (beq_iff_eq.1 hsame))
  have hreplies : e.replies.countP (fun r => r.1 == who) = 0 :=
    List.countP_eq_zero.2 fun r hr hsame => h (.answered (beq_iff_eq.1 hsame ▸ hr : (who, r.2) ∈ _))
  have hbusy : (e.busy.bind Task.caller?).toList.count who = 0 := by
    refine List.count_eq_zero.2 fun hmem => ?_
    obtain ⟨task, htask, hcaller⟩ := Option.bind_eq_some_iff.1 (Option.mem_toList.1 hmem)
    exact h (.busy htask hcaller)
  rw [dealings, engagements, answers, hqueue, hbusy, hprinting, hreplies]

theorem dealings_reply (answer : Reply) :
    (e.reply caller answer).dealings who = e.dealings who + share who caller := by
  simp only [dealings, engagements, answers, reply, List.countP_cons, beq_iff_eq, share]
  omega

theorem dealings_conclude (cause : Cause) :
    (e.conclude caller cause).dealings who = e.dealings who + share who caller := by
  cases cause <;> exact dealings_reply _

theorem dealings_grant (purpose : Purpose) :
    (e.grant now caller purpose).dealings who = e.dealings who + share who caller := by
  cases purpose with
  | readiness => exact dealings_reply _
  | print html page =>
      simp only [dealings, engagements, answers, grant, List.countP_append, List.countP_singleton,
        beq_iff_eq, share]
      omega

/-- A task that begins is a dealing of its caller. -/
theorem dealings_of_task {f : Engine} {task : Task} (hbusy : e.busy = none)
    (hcaller : task.caller? = some caller) (htask : f.busy = some task) (hqueue : f.queue = e.queue)
    (hprinting : f.printing = e.printing) (hreplies : f.replies = e.replies) :
    f.dealings who = e.dealings who + share who caller := by
  simp only [dealings, engagements, answers, hqueue, hprinting, hreplies, htask, hbusy,
    Option.bind_some, Option.bind_none, hcaller, Option.toList_some, Option.toList_none,
    List.count_singleton, List.count_nil, beq_iff_eq, share]
  omega

theorem dealings_serve (hbusy : e.busy = none) (request : Request) :
    (e.serve now caller request).dealings who = e.dealings who + share who caller := by
  cases request with
  | use purpose =>
      cases hstatus : e.status with
      | ready =>
          simp only [serve, hstatus]
          exact dealings_grant purpose
      | failed reason =>
          simp only [serve, hstatus]
          exact dealings_reply _
      | uninitialized =>
          simp only [serve, hstatus]
          exact dealings_of_task hbusy rfl rfl rfl rfl rfl
  | disable reason =>
      simp only [serve]
      split_ifs
      · exact dealings_of_task hbusy rfl rfl rfl rfl rfl
      · exact dealings_conclude _
  | shutDown =>
      simp only [serve]
      split_ifs
      · exact dealings_of_task hbusy rfl rfl rfl rfl rfl
      · exact dealings_conclude _
  | inspect => exact dealings_reply _

/-- Every request is one more dealing. -/
theorem dealings_ask (now caller : Nat) (request : Request) (who : Nat) :
    (e.ask now caller request).dealings who = e.dealings who + share who caller := by
  unfold ask
  split_ifs with hidle
  · exact dealings_serve (not_busy_of_isIdle hidle) request
  · simp only [dealings, engagements, answers, List.countP_append, List.countP_singleton,
      beq_iff_eq, share]
    omega

theorem dealings_serveNext (now who : Nat) : (e.serveNext now).dealings who = e.dealings who := by
  unfold serveNext
  split
  next caller request rest hbusy hqueue =>
    have hserved :
        (({ e with queue := rest } : Engine).serve now caller request).dealings who = _ :=
      @dealings_serve now who caller { e with queue := rest } hbusy request
    rw [hserved]
    simp only [dealings, engagements, answers, hqueue, List.countP_cons, beq_iff_eq, share]
    omega
  next => rfl

theorem dealings_settle (settings : LaunchSettings) (browser : Browser) (now who : Nat) :
    (e.settle settings browser now).dealings who = e.dealings who := by
  cases hbusy : e.busy with
  | none => simp only [settle, hbusy]
  | some task =>
      have hfree : e.dealings who =
          ({ e with busy := none } : Engine).dealings who + task.caller?.toList.count who := by
        simp only [dealings, engagements, answers, hbusy, Option.bind_some, Option.bind_none,
          Option.toList_none, List.count_nil]
        omega
      rw [hfree]
      cases task with
      | close c =>
          simp only [settle, hbusy, endClose, Task.caller?]
          rw [dealings_conclude, Option.toList_some, List.count_singleton]
          simp only [share, beq_iff_eq]
          rfl
      | launch l =>
          simp only [settle, hbusy, endLaunch, Task.caller?]
          have hknown := launchStatus_ne_uninitialized settings browser l.number
          generalize launchStatus settings browser l.number = status at hknown ⊢
          cases hcaller : l.caller with
          | none => rfl
          | some c =>
              obtain ⟨caller, purpose⟩ := c
              simp only [Option.map_some, Option.toList_some, List.count_singleton, beq_iff_eq]
              cases status with
              | uninitialized => exact absurd rfl hknown
              | ready =>
                  simp only [landFor]
                  rw [dealings_grant]
                  rfl
              | failed reason =>
                  simp only [landFor]
                  rw [dealings_reply]
                  rfl

theorem dealings_endPrint (browser : Browser) (caller who : Nat) :
    (e.endPrint browser caller).dealings who = e.dealings who := by
  unfold endPrint
  split
  next => rfl
  next p hfind =>
    have hcaller : p.caller = caller := by simpa using List.find?_some hfind
    have hperm := (List.perm_cons_erase (List.mem_of_find?_eq_some hfind)).countP_eq
      fun p => p.caller == who
    rw [List.countP_cons, hcaller] at hperm
    have hended (answer : Reply) (printed : Nat) :
        (({ e with printing := e.printing.erase p, printed := printed } : Engine).reply caller
          answer).dealings who = e.dealings who := by
      rw [dealings_reply]
      simp only [dealings, engagements, answers, hperm, beq_iff_eq, share]
      omega
    dsimp only
    split
    · exact hended _ _
    · exact hended _ _

/-- What is under way for somebody else is not dropped by him who leaves. -/
theorem caller?_withoutCaller (hne : caller ≠ who) (task : Task) :
    ((task.withoutCaller caller).bind Task.caller?).toList.count who =
      task.caller?.toList.count who := by
  cases task with
  | close c =>
      simp only [Task.withoutCaller]
      split_ifs with hsame
      · simp [Task.caller?, hsame, hne]
      · rfl
  | launch l =>
      cases hcaller : l.caller with
      | none => simp [Task.withoutCaller, Task.caller?, hcaller]
      | some c =>
          by_cases hsame : c.1 = caller
          · simp [Task.withoutCaller, Task.caller?, hcaller, Option.filter, hsame, hne]
          · simp [Task.withoutCaller, Task.caller?, hcaller, Option.filter, hsame]

theorem dealings_leave (hne : caller ≠ who) : (e.leave caller).dealings who = e.dealings who := by
  have hkept {caller' : Nat} (hmine : caller' = who) : (caller' != caller) = true :=
    bne_iff_ne.2 fun hsame => hne (hsame.symm.trans hmine)
  have hqueue : (e.queue.filter fun r => r.1 != caller).countP (fun r => r.1 == who) =
      e.queue.countP fun r => r.1 == who := by
    rw [List.countP_filter]
    exact List.countP_congr fun r _ => by simpa using fun hmine => bne_iff_ne.1 (hkept hmine)
  have hprinting :
      (e.printing.filter fun p => p.caller != caller).countP (fun p => p.caller == who) =
        e.printing.countP fun p => p.caller == who := by
    rw [List.countP_filter]
    exact List.countP_congr fun p _ => by simpa using fun hmine => bne_iff_ne.1 (hkept hmine)
  have hbusy : ((e.busy.bind (Task.withoutCaller caller)).bind Task.caller?).toList.count who =
      (e.busy.bind Task.caller?).toList.count who := by
    cases e.busy with
    | none => rfl
    | some task => exact caller?_withoutCaller hne task
  simp only [dealings, engagements, answers, leave, hqueue, hprinting, hbusy]

/-- Only somebody's own requests and his leaving change how many dealings he has. -/
theorem dealings_apply (settings : LaunchSettings) (browser : Browser) (now : Nat)
    (hask : ∀ request, step ≠ .ask who request) (hleave : step ≠ .leave who) :
    (e.apply settings browser now step).dealings who = e.dealings who := by
  cases step with
  | ask caller request =>
      have hne : caller ≠ who := fun hsame => hask request (by rw [hsame])
      exact (dealings_ask now caller request who).trans (by rw [share_of_ne hne, Nat.add_zero])
  | leave caller => exact dealings_leave fun hsame => hleave (by rw [hsame])
  | settle => exact dealings_settle settings browser now who
  | serveNext => exact dealings_serveNext now who
  | endPrint caller => exact dealings_endPrint browser caller who

theorem dealings_run {steps : List Step} (hask : ∀ request, .ask who request ∉ steps)
    (hleave : .leave who ∉ steps) :
    (e.run settings browser steps).dealings who = e.dealings who := by
  induction steps generalizing e with
  | nil => rfl
  | cons step rest ih =>
      have hrest := @ih (e.apply settings browser 0 step)
        (fun request hmem => hask request (List.mem_cons_of_mem _ hmem))
        fun hmem => hleave (List.mem_cons_of_mem _ hmem)
      refine hrest.trans (dealings_apply settings browser 0 (fun request heq => ?_) fun heq => ?_)
      · exact hask request (heq ▸ List.mem_cons_self)
      · exact hleave (heq ▸ List.mem_cons_self)

theorem dealings_leave_le (caller who : Nat) : (e.leave caller).dealings who ≤ e.dealings who := by
  have hqueue : (e.queue.filter fun r => r.1 != caller).countP (fun r => r.1 == who) ≤
      e.queue.countP fun r => r.1 == who := List.filter_sublist.countP_le
  have hprinting :
      (e.printing.filter fun p => p.caller != caller).countP (fun p => p.caller == who) ≤
        e.printing.countP fun p => p.caller == who := List.filter_sublist.countP_le
  have hbusy : ((e.busy.bind (Task.withoutCaller caller)).bind Task.caller?).toList.count who ≤
      (e.busy.bind Task.caller?).toList.count who := by
    refine List.Sublist.count_le who ?_
    cases hleft : (e.busy.bind (Task.withoutCaller caller)).bind Task.caller? with
    | none => exact List.nil_sublist _
    | some other =>
        obtain ⟨left, hbusy, hcaller⟩ := Option.bind_eq_some_iff.1 hleft
        obtain ⟨task, htask, hleaves⟩ := Option.bind_eq_some_iff.1 hbusy
        rw [htask, Option.bind_some, Task.caller?_of_withoutCaller hleaves hcaller]
  simp only [dealings, engagements, answers, leave]
  omega

/-- Whose only dealing is a print has nothing else under way, and no answer. -/
theorem only_print_of_dealings_le_one {p : Printing} (h : e.dealings who ≤ 1)
    (hp : p ∈ e.printing) (hcaller : p.caller = who) :
    (∀ request, (who, request) ∉ e.queue) ∧
      (∀ task, e.busy = some task → task.caller? ≠ some who) ∧
      (∀ other ∈ e.printing, other.caller = who → other = p) ∧
      ∀ answer, (who, answer) ∉ e.replies := by
  have hprinting : 0 < e.printing.countP fun p => p.caller == who :=
    List.countP_pos_iff.2 ⟨p, hp, beq_iff_eq.2 hcaller⟩
  simp only [dealings, engagements, answers] at h
  refine ⟨fun request hmem => ?_, fun task hbusy htask => ?_, fun other hother hmine => ?_,
    fun answer hmem => ?_⟩
  · have hqueue : 0 < e.queue.countP fun r => r.1 == who :=
      List.countP_pos_iff.2 ⟨_, hmem, beq_iff_eq.2 rfl⟩
    omega
  · have hcount : (e.busy.bind Task.caller?).toList.count who = 1 := by simp [hbusy, htask]
    omega
  · by_contra hne
    have hperm := (List.perm_cons_erase hp).countP_eq fun p => p.caller == who
    rw [List.countP_cons, if_pos (beq_iff_eq.2 hcaller)] at hperm
    have hrest : 0 < (e.printing.erase p).countP fun p => p.caller == who :=
      List.countP_pos_iff.2 ⟨other, (List.mem_erase_of_ne hne).2 hother, beq_iff_eq.2 hmine⟩
    omega
  · have hreplies : 0 < e.replies.countP fun r => r.1 == who :=
      List.countP_pos_iff.2 ⟨_, hmem, beq_iff_eq.2 rfl⟩
    omega

/-! ## Terms -/

/-- What somebody's dealings with the engine may be: what he may still want, what may be
printed for him, and what he may be told. -/
structure Terms where
  wish : Purpose → Prop
  sheet : Printing → Prop
  answer : Reply → Prop

/-- The terms leave room for all that can follow from them, given what may be known of the
engine. -/
structure Terms.AreFair (terms : Terms) (browser : Browser) (who : Nat) (known : Status → Prop) :
    Prop where
  ready : known .ready → terms.wish .readiness → terms.answer .ready
  begun : ∀ html page, known .ready → terms.wish (.print html page) →
    ∀ now number, terms.sheet ⟨now, number, who, html, page⟩
  unavailable : ∀ reason purpose, known (.failed reason) → terms.wish purpose →
    terms.answer (.unavailable reason)
  printed : ∀ p pdf, terms.sheet p → p.result browser = .ok pdf → terms.answer (.printed pdf)
  misprinted : ∀ p fault, terms.sheet p → p.result browser = .error fault →
    terms.answer (.misprinted fault)

/-- Somebody's dealings with the engine are on these terms. -/
structure Keeps (terms : Terms) (who : Nat) (e : Engine) : Prop where
  waiting : ∀ request, (who, request) ∈ e.queue →
    ∃ purpose, request = .use purpose ∧ terms.wish purpose
  launching : ∀ l purpose, e.busy = some (.launch l) → l.caller = some (who, purpose) →
    terms.wish purpose
  closing : ∀ c, e.busy = some (.close c) → c.caller ≠ who
  printing : ∀ p ∈ e.printing, p.caller = who → terms.sheet p
  answered : ∀ answer, (who, answer) ∈ e.replies → terms.answer answer

variable {terms : Terms} {known : Status → Prop}

theorem keeps_of_not_concerns (h : ¬ e.Concerns who) (terms : Terms) : e.Keeps terms who where
  waiting _ hmem := absurd (.waiting hmem) h
  launching l purpose hbusy hcaller :=
    absurd (.busy hbusy (by simp [Task.caller?, hcaller])) h
  closing c hbusy hcaller := h (.busy hbusy (congrArg some hcaller))
  printing p hp hcaller := absurd (.printing hp hcaller) h
  answered _ hmem := absurd (.answered hmem) h

namespace Keeps

theorem reply (h : e.Keeps terms who) {answer : Reply}
    (hmine : caller = who → terms.answer answer) :
    (e.reply caller answer).Keeps terms who where
  waiting := h.waiting
  launching := h.launching
  closing := h.closing
  printing := h.printing
  answered other hmem := by
    rcases List.mem_cons.1 hmem with heq | hmem
    · obtain ⟨hcaller, rfl⟩ := Prod.mk.inj heq
      exact hmine hcaller.symm
    · exact h.answered other hmem

theorem conclude (h : e.Keeps terms who) (hother : caller ≠ who) (cause : Cause) :
    (e.conclude caller cause).Keeps terms who := by
  have hreplied : (e.reply caller .done).Keeps terms who := h.reply fun hmine => absurd hmine hother
  exact ⟨by simpa using h.waiting, by simpa using h.launching, by simpa using h.closing,
    by simpa using h.printing, by rw [replies_conclude]; exact hreplied.answered⟩

theorem grant (fair : terms.AreFair browser who known) (h : e.Keeps terms who)
    (hready : known .ready) {purpose : Purpose} (hmine : caller = who → terms.wish purpose)
    (now : Nat) : (e.grant now caller purpose).Keeps terms who := by
  cases purpose with
  | readiness => exact h.reply fun hsame => fair.ready hready (hmine hsame)
  | print html page =>
      refine ⟨h.waiting, h.launching, h.closing, fun p hp hcaller => ?_, h.answered⟩
      rcases List.mem_append.1 hp with hp | hp
      · exact h.printing p hp hcaller
      · rw [List.mem_singleton.1 hp] at hcaller ⊢
        obtain rfl : caller = who := hcaller
        exact fair.begun html page hready (hmine rfl) now e.prints

/-- A task that begins for somebody else, or in accordance with the terms. -/
theorem task (h : e.Keeps terms who) {f : Engine} {task : Task} (htask : f.busy = some task)
    (hlaunch : ∀ l purpose, task = .launch l → l.caller = some (who, purpose) → terms.wish purpose)
    (hclose : ∀ c, task = .close c → c.caller ≠ who) (hqueue : f.queue = e.queue)
    (hprinting : f.printing = e.printing) (hreplies : f.replies = e.replies) :
    f.Keeps terms who where
  waiting := hqueue ▸ h.waiting
  launching l purpose hbusy := hlaunch l purpose (Option.some.inj (htask.symm.trans hbusy))
  closing c hbusy := hclose c (Option.some.inj (htask.symm.trans hbusy))
  printing := hprinting ▸ h.printing
  answered := hreplies ▸ h.answered

theorem serve (fair : terms.AreFair browser who known) (h : e.Keeps terms who)
    (hknown : e.status = .uninitialized ∨ known e.status) {request : Request}
    (hmine : caller = who → ∃ purpose, request = .use purpose ∧ terms.wish purpose) (now : Nat) :
    (e.serve now caller request).Keeps terms who := by
  have hother (hends : ∀ purpose, request ≠ .use purpose) : caller ≠ who := by
    intro hsame
    obtain ⟨purpose, hrequest, -⟩ := hmine hsame
    exact hends purpose hrequest
  cases request with
  | use purpose =>
      have hwish : caller = who → terms.wish purpose := by
        intro hsame
        obtain ⟨other, hrequest, hwish⟩ := hmine hsame
        cases hrequest
        exact hwish
      cases hstatus : e.status with
      | ready =>
          rw [hstatus] at hknown
          simp only [Engine.serve, hstatus]
          exact h.grant fair (hknown.resolve_left fun hunknown => by cases hunknown) hwish now
      | failed reason =>
          rw [hstatus] at hknown
          have hfailed := hknown.resolve_left fun hunknown => by cases hunknown
          simp only [Engine.serve, hstatus]
          exact h.reply fun hsame => fair.unavailable reason purpose hfailed (hwish hsame)
      | uninitialized =>
          simp only [Engine.serve, hstatus]
          refine h.task rfl (fun l other hlaunch hcaller => ?_) (fun c hclose => by cases hclose)
            rfl rfl rfl
          cases hlaunch
          cases hcaller
          exact hwish rfl
  | disable reason =>
      have hother := hother fun _ heq => by cases heq
      simp only [Engine.serve]
      split_ifs
      · refine h.task rfl (fun l _ hlaunch => by cases hlaunch) (fun c hclose => ?_) rfl rfl rfl
        cases hclose
        exact hother
      · have hfailed : ({ e with status := .failed reason } : Engine).Keeps terms who :=
          ⟨h.waiting, h.launching, h.closing, h.printing, h.answered⟩
        exact hfailed.conclude hother _
  | shutDown =>
      have hother := hother fun _ heq => by cases heq
      simp only [Engine.serve]
      split_ifs
      · refine h.task rfl (fun l _ hlaunch => by cases hlaunch) (fun c hclose => ?_) rfl rfl rfl
        cases hclose
        exact hother
      · exact h.conclude hother _
  | inspect => exact h.reply fun hsame => absurd hsame (hother fun _ heq => by cases heq)

/-- A request of somebody else, or one in accordance with the terms. -/
theorem ask (fair : terms.AreFair browser who known) (h : e.Keeps terms who)
    (hknown : e.status = .uninitialized ∨ known e.status) {request : Request}
    (hmine : caller = who → ∃ purpose, request = .use purpose ∧ terms.wish purpose) (now : Nat) :
    (e.ask now caller request).Keeps terms who := by
  unfold Engine.ask
  split_ifs
  · exact h.serve fair hknown hmine now
  · refine ⟨fun other hmem => ?_, h.launching, h.closing, h.printing, h.answered⟩
    rcases List.mem_append.1 hmem with hmem | hmem
    · exact h.waiting other hmem
    · obtain ⟨hsame, rfl⟩ := Prod.mk.inj (List.mem_singleton.1 hmem)
      exact hmine hsame.symm

theorem serveNext (fair : terms.AreFair browser who known) (h : e.Keeps terms who)
    (hknown : e.status = .uninitialized ∨ known e.status) (now : Nat) :
    (e.serveNext now).Keeps terms who := by
  unfold Engine.serveNext
  split
  next caller request rest hbusy hqueue =>
    have hrest : ({ e with queue := rest } : Engine).Keeps terms who :=
      ⟨fun other hmem => h.waiting other (hqueue ▸ List.mem_cons_of_mem _ hmem), h.launching,
        h.closing, h.printing, h.answered⟩
    refine hrest.serve fair hknown (fun hsame => h.waiting request ?_) now
    rw [hqueue, ← hsame]
    exact List.mem_cons_self
  next => exact h

theorem settle (fair : terms.AreFair browser who known) (h : e.Keeps terms who)
    (hlands : ∀ l, e.busy = some (.launch l) → known (launchStatus settings browser l.number))
    (now : Nat) : (e.settle settings browser now).Keeps terms who := by
  cases hbusy : e.busy with
  | none =>
      simp only [Engine.settle, hbusy]
      exact h
  | some task =>
      have hfree {f : Engine} (hidle : f.busy = none) (hqueue : f.queue = e.queue)
          (hprinting : f.printing = e.printing) (hreplies : f.replies = e.replies) :
          f.Keeps terms who :=
        ⟨hqueue ▸ h.waiting, fun _ _ hlaunch => absurd (hidle.symm.trans hlaunch) (by simp),
          fun _ hclose => absurd (hidle.symm.trans hclose) (by simp), hprinting ▸ h.printing,
          hreplies ▸ h.answered⟩
      cases task with
      | close c =>
          have hkept : ({ e with available := false, busy := none } : Engine).Keeps terms who :=
            hfree rfl rfl rfl rfl
          simp only [Engine.settle, hbusy, endClose]
          exact hkept.conclude (h.closing c hbusy) _
      | launch l =>
          have hlanded := hlands l hbusy
          simp only [Engine.settle, hbusy, endLaunch]
          generalize launchStatus settings browser l.number = status at hlanded ⊢
          have hkept : ({ e with
              status := status, available := decide (status = .ready), busy := none } :
                Engine).Keeps terms who := hfree rfl rfl rfl rfl
          unfold landFor
          split
          next caller purpose hcaller hready =>
            obtain rfl : status = .ready := hready
            refine hkept.grant fair hlanded (fun hsame => ?_) now
            exact h.launching l purpose hbusy (hsame ▸ hcaller)
          next caller purpose reason hcaller hfailed =>
            obtain rfl : status = .failed reason := hfailed
            refine hkept.reply fun hsame => ?_
            exact fair.unavailable reason purpose hlanded
              (h.launching l purpose hbusy (hsame ▸ hcaller))
          next => exact hkept

theorem endPrint (fair : terms.AreFair browser who known) (h : e.Keeps terms who) (caller : Nat) :
    (e.endPrint browser caller).Keeps terms who := by
  unfold Engine.endPrint
  split
  next => exact h
  next p hfind =>
    have hmem := List.mem_of_find?_eq_some hfind
    have hcaller : p.caller = caller := by simpa using List.find?_some hfind
    have hended (printed : Nat) :
        ({ e with printing := e.printing.erase p, printed := printed } : Engine).Keeps terms who :=
      ⟨h.waiting, h.launching, h.closing, fun q hq => h.printing q (List.mem_of_mem_erase hq),
        h.answered⟩
    dsimp only
    split
    next pdf hresult =>
      exact (hended _).reply fun hsame =>
        fair.printed p pdf (h.printing p hmem (hcaller.trans hsame)) hresult
    next fault hresult =>
      exact (hended _).reply fun hsame =>
        fair.misprinted p fault (h.printing p hmem (hcaller.trans hsame)) hresult

theorem leave (h : e.Keeps terms who) (caller : Nat) : (e.leave caller).Keeps terms who where
  waiting request hmem := h.waiting request (List.mem_filter.1 hmem).1
  launching l purpose hbusy hcaller := by
    obtain ⟨task, htask, hleft⟩ := Option.bind_eq_some_iff.1 hbusy
    cases task with
    | close c =>
        simp only [Task.withoutCaller] at hleft
        split_ifs at hleft
        cases hleft
    | launch old =>
        cases hleft
        exact h.launching old purpose htask (Option.filter_eq_some_iff.1 hcaller).1
  closing c hbusy := by
    obtain ⟨task, htask, hleft⟩ := Option.bind_eq_some_iff.1 hbusy
    cases task with
    | launch old => cases hleft
    | close old =>
        simp only [Task.withoutCaller] at hleft
        split_ifs at hleft
        cases hleft
        exact h.closing _ htask
  printing p hp := h.printing p (List.mem_filter.1 hp).1
  answered := h.answered

/-- No step but a request of his own takes somebody off fair terms. -/
theorem apply (fair : terms.AreFair browser who known) (h : e.Keeps terms who)
    (hknown : e.status = .uninitialized ∨ known e.status)
    (hlands : ∀ l, e.busy = some (.launch l) → known (launchStatus settings browser l.number))
    (now : Nat) (hask : ∀ request, step ≠ .ask who request) :
    (e.apply settings browser now step).Keeps terms who := by
  cases step with
  | ask caller request =>
      exact h.ask fair hknown (fun hsame => absurd (by rw [hsame]) (hask request)) now
  | leave caller => exact h.leave caller
  | settle => exact h.settle fair hlands now
  | serveNext => exact h.serveNext fair hknown now
  | endPrint caller => exact h.endPrint fair caller

end Keeps

end CanvasPress.Engine

/-
# The first use of the engine

Whoever is the first to want an engine of which nothing is known has it launched; whoever
comes while the launch is under way waits for it.  So there is one attempt, and what it leads
to is recorded and told to everybody, be it that the first one has left meanwhile: nobody
takes a launch with him.  As long as nobody asks for the end of the engine, this is how things
stay.
-/

import CanvasPress.Proofs.Engine.Demand
import CanvasPress.Proofs.Engine.Engagement
import CanvasPress.Proofs.Engine.Outlook
import CanvasPress.Proofs.Engine.Sessions

namespace CanvasPress.Engine

variable {settings : LaunchSettings} {browser : Browser} {now who caller before : Nat}
  {e f : Engine} {coming : Status} {purpose : Purpose} {request : Request} {step : Step}

/-! ## One attempt -/

/-- What a launch has led to is on record. -/
structure Records (coming : Status) (e : Engine) : Prop where
  status : e.status = coming
  readable : e.isAvailable = decide (coming = .ready)

/-- Nobody has wanted the engine yet. -/
structure Untried (before : Nat) (e : Engine) : Prop where
  idle : e.busy = none
  nobody : e.queue = []
  unknown : e.status = .uninitialized
  launches : e.launches = before

/-- The one attempt is under way, or its outcome is on record. -/
inductive Attempted (before : Nat) (coming : Status) (e : Engine) : Prop where
  | underWay (l : Launch) (busy : e.busy = some (.launch l)) (number : l.number = before)
      (launches : e.launches = before + 1)
  | landed (idle : e.busy = none) (records : e.Records coming) (launches : e.launches = before + 1)

/-- A step in which somebody wants the engine. -/
def Step.IsUse : Step → Prop
  | .ask _ (.use _) => True
  | _ => False

/-- The first who wants the engine has it launched; nothing else tries it. -/
theorem Untried.apply (h : e.Untried before) (hmild : step.IsMild) (settings : LaunchSettings)
    (browser : Browser) (now : Nat) (coming : Status) :
    (step.IsUse → (e.apply settings browser now step).Attempted before coming) ∧
      (¬ step.IsUse → (e.apply settings browser now step).Untried before) := by
  have hidle : e.isIdle = true := by simp [isIdle, h.idle, h.nobody]
  cases step with
  | ask who request =>
      simp only [Engine.apply, ask, if_pos hidle]
      cases request with
      | use purpose =>
          refine ⟨fun _ => ?_, fun hnot => absurd trivial hnot⟩
          simp only [serve, h.unknown]
          exact .underWay _ rfl h.launches (congrArg (· + 1) h.launches)
      | inspect => exact ⟨fun huse => huse.elim, fun _ => ⟨h.idle, h.nobody, h.unknown, h.launches⟩⟩
      | disable reason => exact hmild.elim
      | shutDown => exact hmild.elim
  | leave who =>
      refine ⟨fun huse => huse.elim, fun _ => ⟨?_, ?_, h.unknown, h.launches⟩⟩
      · simp [Engine.apply, leave, h.idle]
      · simp [Engine.apply, leave, h.nobody]
  | settle =>
      refine ⟨fun huse => huse.elim, fun _ => ?_⟩
      rwa [Engine.apply, settle_of_not_busy h.idle]
  | serveNext =>
      refine ⟨fun huse => huse.elim, fun _ => ?_⟩
      rwa [Engine.apply, serveNext_of_empty h.nobody]
  | endPrint who =>
      obtain ⟨hstatus, hbusy, hqueue, -, hlaunches⟩ := endPrint_frame browser who e
      exact ⟨fun huse => huse.elim, fun _ => ⟨hbusy.trans h.idle, hqueue.trans h.nobody,
        hstatus.trans h.unknown, hlaunches.trans h.launches⟩⟩

/-- When the launch has ended, what it led to is on record, whoever had asked for it. -/
theorem records_of_settle {l : Launch} (hbusy : e.busy = some (.launch l))
    (settings : LaunchSettings) (browser : Browser) (now : Nat) :
    (e.settle settings browser now).Records (launchStatus settings browser l.number) ∧
      (e.settle settings browser now).launches = e.launches := by
  simp only [settle, hbusy, endLaunch]
  generalize launchStatus settings browser l.number = status
  have hlanded : ({ e with
      status := status, available := decide (status = .ready), busy := none } : Engine).Records
        status := ⟨rfl, rfl⟩
  unfold landFor
  split
  next who purpose _ _ => cases purpose <;> exact ⟨⟨hlanded.status, hlanded.readable⟩, rfl⟩
  next => exact ⟨⟨hlanded.status, hlanded.readable⟩, rfl⟩
  next => exact ⟨hlanded, rfl⟩

/-- A request that does not ask for the end of the engine leaves what is on record. -/
theorem Records.serve (h : e.Records coming) (hknown : coming ≠ .uninitialized)
    (hidle : e.busy = none) (hmild : request.IsMild) (now who : Nat) :
    (e.serve now who request).Records coming ∧ (e.serve now who request).busy = none ∧
      (e.serve now who request).launches = e.launches := by
  cases request with
  | use purpose =>
      have hstatus := h.status
      cases coming with
      | uninitialized => exact absurd rfl hknown
      | ready =>
          simp only [Engine.serve, hstatus]
          cases purpose <;> exact ⟨⟨h.status, h.readable⟩, hidle, rfl⟩
      | failed reason =>
          simp only [Engine.serve, hstatus]
          exact ⟨⟨h.status, h.readable⟩, hidle, rfl⟩
  | inspect => exact ⟨⟨h.status, h.readable⟩, hidle, rfl⟩
  | disable reason => exact hmild.elim
  | shutDown => exact hmild.elim

/-- There is no second attempt, and the outcome of the first one stays. -/
theorem Attempted.apply (h : e.Attempted before coming)
    (hcoming : launchStatus settings browser before = coming)
    (hwaiting : ∀ entry ∈ e.queue, entry.2.IsMild) (hmild : step.IsMild) (now : Nat) :
    (e.apply settings browser now step).Attempted before coming := by
  cases h with
  | underWay l busy number launches =>
      cases step with
      | ask who request =>
          have hbusy : ¬ e.isIdle = true := by simp [isIdle, busy]
          rw [Engine.apply, ask, if_neg hbusy]
          exact .underWay l busy number launches
      | leave who =>
          refine .underWay { l with caller := l.caller.filter fun c => c.1 != who } ?_ number
            launches
          simp [Engine.apply, leave, busy, Task.withoutCaller]
      | settle =>
          obtain ⟨hrecords, hlaunches⟩ := records_of_settle busy settings browser now
          rw [number, hcoming] at hrecords
          exact .landed (busy_settle settings browser now e) hrecords (hlaunches.trans launches)
      | serveNext =>
          rw [Engine.apply, serveNext_of_busy busy]
          exact .underWay l busy number launches
      | endPrint who =>
          obtain ⟨-, hbusy, -, -, hlaunches⟩ := endPrint_frame browser who e
          exact .underWay l (hbusy.trans busy) number (hlaunches.trans launches)
  | landed idle records launches =>
      have hknown : coming ≠ .uninitialized :=
        hcoming ▸ launchStatus_ne_uninitialized settings browser before
      cases step with
      | ask who request =>
          simp only [Engine.apply, ask]
          split_ifs
          · obtain ⟨hrecords, hidle, hlaunches⟩ := records.serve hknown idle hmild now who
            exact .landed hidle hrecords (hlaunches.trans launches)
          · exact .landed idle ⟨records.status, records.readable⟩ launches
      | leave who =>
          exact .landed (by simp [Engine.apply, leave, idle]) ⟨records.status, records.readable⟩
            launches
      | settle =>
          rw [Engine.apply, settle_of_not_busy idle]
          exact .landed idle records launches
      | serveNext =>
          simp only [Engine.apply, serveNext]
          split
          next who request rest _ hqueue =>
            have hrest : ({ e with queue := rest } : Engine).Records coming :=
              ⟨records.status, records.readable⟩
            obtain ⟨hrecords, hidle, hlaunches⟩ := hrest.serve hknown idle
              (hwaiting (who, request) (hqueue ▸ List.mem_cons_self)) now who
            exact .landed hidle hrecords (hlaunches.trans launches)
          next => exact .landed idle records launches
      | endPrint who =>
          obtain ⟨hstatus, hbusy, -, -, hlaunches⟩ := endPrint_frame browser who e
          refine .landed (hbusy.trans idle) ⟨hstatus.trans records.status, ?_⟩
            (hlaunches.trans launches)
          rw [← records.readable]
          simp only [Engine.apply, endPrint, isAvailable]
          split
          · rfl
          · split <;> rfl

/-! ## One outcome -/

/-- The answer that somebody is to have, given what comes of the engine and what he wants. -/
inductive Suits (browser : Browser) : Status → Purpose → Reply → Prop where
  | unavailable (reason : String) (purpose : Purpose) :
      Suits browser (.failed reason) purpose (.unavailable reason)
  | ready : Suits browser .ready .readiness .ready
  | printed {number : Nat} {html : String} {pdf : ByteArray} {page : PageSize}
      (h : Conversion.printed (browser.print number html page).ending = .ok pdf) :
      Suits browser .ready (.print html page) (.printed pdf)
  | misprinted {number : Nat} {html : String} {page : PageSize} {fault : Fault}
      (h : Conversion.printed (browser.print number html page).ending = .error fault) :
      Suits browser .ready (.print html page) (.misprinted fault)

/-- The terms of somebody who wants one thing of the engine. -/
def termsOf (browser : Browser) (coming : Status) (purpose : Purpose) : Terms where
  wish other := other = purpose
  sheet p := coming = .ready ∧ purpose = .print p.html p.page
  answer := Suits browser coming purpose

theorem areFair_termsOf (browser : Browser) (coming : Status) (purpose : Purpose) (who : Nat) :
    (termsOf browser coming purpose).AreFair browser who (· = coming) where
  ready := by
    rintro rfl rfl
    exact .ready
  begun html page hready hwish _ _ := ⟨hready.symm, hwish.symm⟩
  unavailable := by
    rintro reason _ rfl rfl
    exact .unavailable reason _
  printed := by
    rintro p pdf ⟨rfl, rfl⟩ hresult
    exact .printed hresult
  misprinted := by
    rintro p fault ⟨rfl, rfl⟩ hresult
    exact .misprinted hresult

/-- Somebody has had one answer, and it suits him. -/
def IsAnswered (browser : Browser) (coming : Status) (who : Nat) (purpose : Purpose) (e : Engine) :
    Prop :=
  ∃ answer, e.replies.filter (fun r => r.1 == who) = [(who, answer)] ∧
    Suits browser coming purpose answer

/-- Whose only dealing is with the engine is engaged or has been answered. -/
theorem engaged_or_answered (hdealings : e.dealings who = 1)
    (hkeeps : e.Keeps (termsOf browser coming purpose) who) :
    (e.engagements who = 1 ∧ ∀ answer, (who, answer) ∉ e.replies) ∨
      (e.engagements who = 0 ∧ e.IsAnswered browser coming who purpose) := by
  rw [dealings] at hdealings
  by_cases hnone : e.answers who = 0
  · refine .inl ⟨by omega, fun answer hmem => ?_⟩
    exact List.countP_eq_zero.1 hnone _ hmem (beq_iff_eq.2 rfl)
  · have hone : (e.replies.filter fun r => r.1 == who).length = 1 := by
      rw [← List.countP_eq_length_filter, ← answers]
      omega
    obtain ⟨⟨caller, answer⟩, hfilter⟩ := List.length_eq_one_iff.1 hone
    have hmem : (caller, answer) ∈ e.replies.filter fun r => r.1 == who :=
      hfilter ▸ List.mem_singleton_self _
    obtain ⟨hreply, hcaller⟩ := List.mem_filter.1 hmem
    obtain rfl : caller = who := beq_iff_eq.1 hcaller
    exact .inr ⟨by omega, answer, hfilter, hkeeps.answered answer hreply⟩

/-! ## Runs -/

variable {steps : List Step}

theorem Settled.run (h : e.Settled settings browser coming) (hmild : ∀ step ∈ steps, step.IsMild) :
    (e.run settings browser steps).Settled settings browser coming := by
  induction steps generalizing e with
  | nil => exact h
  | cons step rest ih =>
      exact ih (h.apply (hmild step List.mem_cons_self) 0).settled fun other hother =>
        hmild other (List.mem_cons_of_mem _ hother)

theorem Attempted.run (h : e.Attempted before coming)
    (hcoming : launchStatus settings browser before = coming)
    (hsettled : e.Settled settings browser coming) (hmild : ∀ step ∈ steps, step.IsMild) :
    (e.run settings browser steps).Attempted before coming := by
  induction steps generalizing e with
  | nil => exact h
  | cons step rest ih =>
      have hfirst := hmild step List.mem_cons_self
      exact ih (h.apply hcoming hsettled.waiting hfirst 0) (hsettled.apply hfirst 0).settled
        fun other hother => hmild other (List.mem_cons_of_mem _ hother)

/-- Once somebody has wanted the engine, there has been one attempt. -/
theorem Untried.run (h : e.Untried before) (hcoming : launchStatus settings browser before = coming)
    (hsettled : e.Settled settings browser coming) (hmild : ∀ step ∈ steps, step.IsMild)
    (huse : ∃ step ∈ steps, step.IsUse) :
    (e.run settings browser steps).Attempted before coming := by
  induction steps generalizing e with
  | nil =>
      obtain ⟨_, hmem, -⟩ := huse
      cases hmem
  | cons step rest ih =>
      have hfirst := hmild step List.mem_cons_self
      have hlater : ∀ other ∈ rest, other.IsMild :=
        fun other hother => hmild other (List.mem_cons_of_mem _ hother)
      have hnext := (hsettled.apply hfirst 0).settled
      obtain ⟨htried, huntried⟩ := h.apply hfirst settings browser 0 coming
      by_cases hstep : step.IsUse
      · exact (htried hstep).run hcoming hnext hlater
      · refine ih (huntried hstep) hnext hlater ?_
        obtain ⟨other, hother, hwants⟩ := huse
        rcases List.mem_cons.1 hother with rfl | hother
        · exact absurd hwants hstep
        · exact ⟨other, hother, hwants⟩

theorem not_concerns_run (h : ¬ e.Concerns who) (hask : ∀ request, .ask who request ∉ steps) :
    ¬ (e.run settings browser steps).Concerns who := by
  induction steps generalizing e with
  | nil => exact h
  | cons step rest ih =>
      refine ih (fun hconcerns => ?_) fun request hmem => hask request (List.mem_cons_of_mem _ hmem)
      rcases hconcerns.of_apply with ⟨request, rfl⟩ | hbefore
      · exact hask request List.mem_cons_self
      · exact h hbefore

theorem Keeps.run {terms : Terms} (fair : terms.AreFair browser who (· = coming))
    (h : e.Keeps terms who) (hsettled : e.Settled settings browser coming)
    (hmild : ∀ step ∈ steps, step.IsMild) (hask : ∀ request, .ask who request ∉ steps) :
    (e.run settings browser steps).Keeps terms who := by
  induction steps generalizing e with
  | nil => exact h
  | cons step rest ih =>
      have hlands (l : Launch) (hbusy : e.busy = some (.launch l)) :
          launchStatus settings browser l.number = coming := by
        obtain ⟨launched, heq, hleads⟩ := hsettled.launching _ hbusy
        cases heq
        exact hleads
      have hown (request : Request) : step ≠ .ask who request :=
        fun heq => hask request (heq ▸ List.mem_cons_self)
      exact ih (h.apply fair hsettled.known hlands 0 hown)
        (hsettled.apply (hmild step List.mem_cons_self) 0).settled
        (fun other hother => hmild other (List.mem_cons_of_mem _ hother))
        fun request hmem => hask request (List.mem_cons_of_mem _ hmem)

/-- Whoever asks once and does not leave is engaged from then on until he is answered. -/
theorem served_in_run {earlier later : List Step} (hsettled : e.Settled settings browser coming)
    (hmild : ∀ step ∈ earlier ++ .ask who (.use purpose) :: later, step.IsMild)
    (hstranger : ¬ e.Concerns who) (hask : ∀ request, .ask who request ∉ earlier ++ later)
    (hleave : .leave who ∉ later) :
    let f := e.run settings browser (earlier ++ .ask who (.use purpose) :: later)
    (f.engagements who = 1 ∧ ∀ answer, (who, answer) ∉ f.replies) ∨
      (f.engagements who = 0 ∧ f.IsAnswered browser coming who purpose) := by
  intro f
  have fair := areFair_termsOf browser coming purpose who
  have hmildEarlier : ∀ step ∈ earlier, step.IsMild :=
    fun step hstep => hmild step (List.mem_append_left _ hstep)
  have hmildLater : ∀ step ∈ later, step.IsMild :=
    fun step hstep => hmild step (List.mem_append_right _ (List.mem_cons_of_mem _ hstep))
  let mid := e.run settings browser earlier
  have hmid : mid.Settled settings browser coming := hsettled.run hmildEarlier
  have hnobody : ¬ mid.Concerns who :=
    not_concerns_run hstranger fun request hmem => hask request (List.mem_append_left _ hmem)
  -- From his request on his dealings are one, and on his terms.
  let asked := mid.ask 0 who (.use purpose)
  have huse : (Request.use purpose).IsMild := trivial
  have hasked : asked.Settled settings browser coming := (hmid.ask huse 0 who).settled
  have hone : asked.dealings who = 1 := by
    rw [dealings_ask, dealings_of_not_concerns hnobody, share_self]
  have hkeeps : asked.Keeps (termsOf browser coming purpose) who :=
    (keeps_of_not_concerns hnobody _).ask fair hmid.known (fun _ => ⟨purpose, rfl, rfl⟩) 0
  have hlast : f = asked.run settings browser later := run_append settings browser e earlier _
  have hlater : ∀ request, .ask who request ∉ later :=
    fun request hmem => hask request (List.mem_append_right _ hmem)
  rw [hlast]
  exact engaged_or_answered ((dealings_run hlater hleave).trans hone)
    (hkeeps.run fair hasked hmildLater hlater)

/-! ## Coming to rest -/

/-- A step is due: something that is under way may end, or somebody has his turn. -/
def Due (e : Engine) : Step → Prop
  | .settle => e.busy ≠ none
  | .serveNext => e.busy = none ∧ e.queue ≠ []
  | .endPrint who => ∃ p ∈ e.printing, p.caller = who
  | _ => False

/-- What is due takes load off the engine. -/
theorem load_apply_lt (hdue : e.Due step) (settings : LaunchSettings) (browser : Browser)
    (now : Nat) : (e.apply settings browser now step).load < e.load := by
  cases step with
  | ask who request => exact hdue.elim
  | leave who => exact hdue.elim
  | settle =>
      obtain ⟨task, hbusy⟩ := Option.ne_none_iff_exists'.1 hdue
      exact load_settle_lt hbusy
  | serveNext => exact load_serveNext_lt hdue.1 hdue.2
  | endPrint who =>
      obtain ⟨p, hp, hcaller⟩ := hdue
      exact load_endPrint_lt hp hcaller

theorem atRest_of_nothing_due (hnone : ∀ step, ¬ e.Due step) : e.AtRest := by
  have hidle : e.busy = none := by
    by_contra hbusy
    exact hnone .settle hbusy
  refine ⟨hidle, ?_, List.eq_nil_iff_forall_not_mem.2 fun p hp => ?_⟩
  · by_contra hqueue
    exact hnone .serveNext ⟨hidle, hqueue⟩
  · exact hnone (.endPrint p.caller) ⟨p, hp, rfl⟩

theorem AtRest.engagements (h : e.AtRest) (who : Nat) : e.engagements who = 0 := by
  simp [Engine.engagements, h.idle, h.served, h.printed]

/-! ## First use -/

/-- What a launch leads to: a running engine just if the launcher returns in time, and else the
reason that is told to everybody. -/
theorem launchStatus_cases (settings : LaunchSettings) (browser : Browser) (number : Nat) :
    (launchStatus settings browser number = .ready ↔
        isTooSlow settings browser number = false ∧
          (browser.launch number).ending = .returned ()) ∧
      (isTooSlow settings browser number = true →
        launchStatus settings browser number =
          .failed (Fault.timeout settings.launchTimeoutMs).message) ∧
      (isTooSlow settings browser number = false →
        (∀ fault, (browser.launch number).ending = .failed fault →
          launchStatus settings browser number = .failed fault.message) ∧
        ∀ report, (browser.launch number).ending = .panicked report →
          launchStatus settings browser number = .failed (abortReport "launch" report)) := by
  cases hslow : isTooSlow settings browser number with
  | true => simp [launchStatus, hslow]
  | false =>
      cases hending : (browser.launch number).ending with
      | returned value => simp [launchStatus, hslow, hending]
      | failed fault => simp [launchStatus, hslow, hending]
      | panicked report => simp [launchStatus, hslow, hending]

/-- **The first use is one attempt with one outcome.**

An idle engine of which nothing is known goes through a run in which somebody wants it and
nobody asks for its end, with any callers who ask, wait and leave in any order.

* The launcher is called once.  What that leads to is on record once the launch has ended, even
  if nobody has stayed for it.
* The engine runs just if the launcher returns in time, and else has failed for the reason that
  its error, its report or the limit gives.
* Whoever asks once and stays is engaged until he has his one answer, and that is the same for
  all: the engine, or the reason why there is none.
* What is due brings the engine to rest, and then whoever has stayed has his answer. -/
theorem first_use_is_one_attempt (settings : LaunchSettings) (browser : Browser)
    (hidle : e.isIdle = true) (hunknown : e.status = .uninitialized)
    (hmild : ∀ step ∈ steps, step.IsMild) (huse : ∃ step ∈ steps, step.IsUse) :
    let f := e.run settings browser steps
    let coming := launchStatus settings browser e.launches
    f.launches = e.launches + 1 ∧
      (f.busy = none ∧ f.Records coming ∨
        f.IsLaunching ∧ (f.settle settings browser 0).Records coming) ∧
      (coming = .ready ↔ isTooSlow settings browser e.launches = false ∧
        (browser.launch e.launches).ending = .returned ()) ∧
      (isTooSlow settings browser e.launches = true →
        coming = .failed (Fault.timeout settings.launchTimeoutMs).message) ∧
      (isTooSlow settings browser e.launches = false →
        (∀ fault, (browser.launch e.launches).ending = .failed fault →
          coming = .failed fault.message) ∧
        ∀ report, (browser.launch e.launches).ending = .panicked report →
          coming = .failed (abortReport "launch" report)) ∧
      (∀ who purpose earlier later, steps = earlier ++ .ask who (.use purpose) :: later →
        ¬ e.Concerns who → (∀ request, .ask who request ∉ earlier ++ later) →
          .leave who ∉ later →
            (f.engagements who = 1 ∧ (∀ answer, (who, answer) ∉ f.replies) ∨
              f.engagements who = 0 ∧ f.IsAnswered browser coming who purpose) ∧
            (f.AtRest → f.IsAnswered browser coming who purpose)) ∧
      (∀ step, f.Due step → (f.apply settings browser 0 step).load < f.load) ∧
      ((∀ step, ¬ f.Due step) → f.AtRest) := by
  intro f coming
  have hbusy := not_busy_of_isIdle hidle
  have hqueue : e.queue = [] := by simpa [isIdle, hbusy] using hidle
  have hcalm : e.IsCalm :=
    ⟨fun entry hentry => by simp [hqueue] at hentry, fun c => by simp [hbusy]⟩
  have hsettled : e.Settled settings browser coming := by
    have houtlook := settled_of_isCalm hcalm (orderly_of_not_busy hbusy) settings browser
    simpa [outlook, hbusy, hunknown] using houtlook
  have hattempted : f.Attempted e.launches coming :=
    Untried.run ⟨hbusy, hqueue, hunknown, rfl⟩ rfl hsettled hmild huse
  obtain ⟨hready, hslow, hfails⟩ := launchStatus_cases settings browser e.launches
  refine ⟨?_, ?_, hready, hslow, hfails,
    fun who purpose earlier later hsplit hstranger hask hleave => ?_,
    fun step hdue => load_apply_lt hdue settings browser 0, atRest_of_nothing_due⟩
  · cases hattempted with
    | underWay l busy number launches => exact launches
    | landed idle records launches => exact launches
  · cases hattempted with
    | underWay l busy number launches =>
        have hrecords := (records_of_settle busy settings browser 0).1
        rw [number] at hrecords
        exact .inr ⟨⟨l, busy⟩, hrecords⟩
    | landed idle records launches => exact .inl ⟨idle, records⟩
  · have hserved : f.engagements who = 1 ∧ (∀ answer, (who, answer) ∉ f.replies) ∨
        f.engagements who = 0 ∧ f.IsAnswered browser coming who purpose := by
      have hrun := served_in_run hsettled (hsplit ▸ hmild) hstranger hask hleave
      rwa [← hsplit] at hrun
    refine ⟨hserved, fun hrest => ?_⟩
    rcases hserved with ⟨hengaged, -⟩ | ⟨-, hanswered⟩
    · rw [hrest.engagements] at hengaged
      cases hengaged
    · exact hanswered

/-- The first caller leaves in the midst of the launch; those who have come meanwhile get the
engine nevertheless. -/
theorem first_use_is_one_attempt_without_first_caller :
    let steps : List Step := [.ask 0 .obtain, .ask 1 (.print "page" .a4Landscape), .ask 2 .obtain,
      .leave 0, .settle, .serveNext, .serveNext, .endPrint 1]
    let f := fresh.run {} .obliging steps
    fresh.isIdle = true ∧ fresh.status = .uninitialized ∧ (∀ step ∈ steps, step.IsMild) ∧
      (∃ step ∈ steps, step.IsUse) ∧ f.launches = 1 ∧ f.status = .ready ∧
      f.IsAnswered .obliging .ready 1 (.print "page" .a4Landscape) ∧
      f.IsAnswered .obliging .ready 2 .readiness := by
  intro steps f
  have hmild : ∀ step ∈ steps, step.IsMild := by
    simp [steps, Step.IsMild, Request.IsMild, Request.obtain, Request.print]
  have huse : ∃ step ∈ steps, step.IsUse := ⟨_, List.mem_cons_self, trivial⟩
  obtain ⟨hlaunches, hrecords, -, -, -, hcallers, -⟩ :=
    first_use_is_one_attempt (e := fresh) {} .obliging rfl rfl hmild huse
  have hrest : f.AtRest := ⟨rfl, rfl, rfl⟩
  have hfirst := hcallers 1 (.print "page" .a4Landscape) [.ask 0 .obtain] _ rfl not_concerns_fresh
    (by simp [Request.obtain]) (by simp)
  have hsecond := hcallers 2 .readiness [.ask 0 .obtain, .ask 1 (.print "page" .a4Landscape)] _ rfl
    not_concerns_fresh (by simp) (by simp)
  refine ⟨rfl, rfl, hmild, huse, hlaunches, ?_, hfirst.2 hrest, hsecond.2 hrest⟩
  rcases hrecords with ⟨-, hrecords⟩ | ⟨⟨l, hlaunching⟩, -⟩
  · exact hrecords.status
  · cases hrest.idle.symm.trans hlaunching

end CanvasPress.Engine

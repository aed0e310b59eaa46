/-
# What the browser is handed

A print that is under way after a step and was not before it has begun in that step: the
browser was handed its page.  So what has been handed to the browser can be read off the
engine, step by step, though the engine forgets a print when it ends.

Used from one place, an engine that runs, or comes to run, is handed the page of a print once,
and what it returns is passed on; a hopeless one is handed nothing, and the reason is passed
on instead.  From there to a conversion nothing else is added.
-/

import CanvasPress.Proofs.Engine.Demand
import CanvasPress.Proofs.Engine.Hopeless
import CanvasPress.Proofs.Engine.Misprints

namespace CanvasPress.Engine

variable {settings : LaunchSettings} {browser : Browser} {now who : Nat} {e f : Engine}
  {step : Step} {html svg : String} {page : PageSize} {p : Printing}

/-! ## Prints that begin -/

/-- The prints that are under way after a step and were not before it. -/
def begun (before after : Engine) : List Printing :=
  after.printing.filter fun p => p ∉ before.printing

/-- The prints under way for somebody. -/
def printsFor (e : Engine) (who : Nat) : List Printing :=
  e.printing.filter fun p => p.caller == who

/-- The prints of somebody that begin in a step. -/
def begunFor (before after : Engine) (who : Nat) : List Printing :=
  (before.begun after).filter fun p => p.caller == who

theorem begun_of_subset (h : f.printing ⊆ e.printing) : e.begun f = [] := by
  refine List.filter_eq_nil_iff.2 fun p hp => ?_
  simp [h hp]

theorem begun_of_append (hprinting : f.printing = e.printing ++ [p]) (hnew : p ∉ e.printing) :
    e.begun f = [p] := by
  have hold : e.printing.filter (fun p => p ∉ e.printing) = [] :=
    List.filter_eq_nil_iff.2 fun p hp => by simp [hp]
  rw [begun, hprinting, List.filter_append, hold, List.nil_append, List.filter_singleton]
  simp [hnew]

/-- What a step may do to the prints under way. -/
inductive Turns (e f : Engine) : Step → Prop where
  | stays {step : Step} (hprinting : f.printing = e.printing) : Turns e f step
  | begins {step : Step} (p : Printing) (hprinting : f.printing = e.printing ++ [p])
      (hreplies : f.replies = e.replies) : Turns e f step
  | ends {step : Step} (p : Printing) (answer : Reply) (hp : p ∈ e.printing)
      (hprinting : f.printing = e.printing.erase p) (hfinal : answer.IsFinal)
      (hreplies : f.replies = (p.caller, answer) :: e.replies) : Turns e f step
  | leaves (who : Nat) (hprinting : f.printing = e.printing.filter fun p => p.caller != who) :
      Turns e f (.leave who)

theorem turns_grant (now who : Nat) (purpose : Purpose) :
    Turns e (e.grant now who purpose) step := by
  cases purpose with
  | readiness => exact .stays rfl
  | print html page => exact .begins _ rfl rfl

theorem turns_serve (now who : Nat) (request : Request) :
    Turns e (e.serve now who request) step := by
  cases request with
  | use purpose =>
      cases hstatus : e.status with
      | ready =>
          simp only [serve, hstatus]
          exact turns_grant now who purpose
      | failed reason =>
          simp only [serve, hstatus]
          exact .stays rfl
      | uninitialized =>
          simp only [serve, hstatus]
          exact .stays rfl
  | disable reason =>
      simp only [serve]
      split_ifs
      · exact .stays rfl
      · exact .stays (printing_conclude _ _ _)
  | shutDown =>
      simp only [serve]
      split_ifs
      · exact .stays rfl
      · exact .stays (printing_conclude _ _ _)
  | inspect => exact .stays rfl

theorem turns_settle (settings : LaunchSettings) (browser : Browser) (now : Nat) :
    Turns e (e.settle settings browser now) step := by
  unfold settle
  split
  next => exact .stays rfl
  next l _ =>
    simp only [endLaunch]
    generalize launchStatus settings browser l.number = status
    cases l.caller with
    | none => exact .stays rfl
    | some caller =>
        obtain ⟨who, purpose⟩ := caller
        cases status with
        | uninitialized => exact .stays rfl
        | failed reason => exact .stays rfl
        | ready =>
            cases purpose with
            | readiness => exact .stays rfl
            | print html page => exact .begins _ rfl rfl
  next c _ => exact .stays (printing_conclude _ _ _)

theorem turns_apply (settings : LaunchSettings) (browser : Browser) (now : Nat) (e : Engine)
    (step : Step) : Turns e (e.apply settings browser now step) step := by
  cases step with
  | ask who request =>
      simp only [apply, ask]
      split_ifs with hidle
      · exact turns_serve now who request
      · exact .stays rfl
  | leave who => exact .leaves who rfl
  | settle => exact turns_settle settings browser now
  | serveNext =>
      simp only [apply, serveNext]
      split
      next who request rest hbusy hqueue =>
        have hserved : Turns { e with queue := rest }
            (({ e with queue := rest } : Engine).serve now who request) .serveNext :=
          turns_serve now who request
        cases hserved with
        | stays hprinting => exact .stays hprinting
        | begins p hprinting hreplies => exact .begins p hprinting hreplies
        | ends p answer hp hprinting hfinal hreplies =>
            exact .ends p answer hp hprinting hfinal hreplies
      next => exact .stays rfl
  | endPrint who =>
      simp only [apply, endPrint]
      split
      next => exact .stays rfl
      next p hfind =>
        have hp := List.mem_of_find?_eq_some hfind
        have hcaller : p.caller = who := by simpa using List.find?_some hfind
        split
        next pdf _ => exact .ends p (.printed pdf) hp rfl trivial (by rw [hcaller]; rfl)
        next fault _ => exact .ends p (.misprinted fault) hp rfl trivial (by rw [hcaller]; rfl)

/-- The prints of somebody who neither leaves nor is answered for good are those he had and
those that begin. -/
theorem Turns.printsFor_eq (h : Turns e f step) (hsingle : f.dealings who ≤ 1)
    (hleave : step ≠ .leave who)
    (hunheard : ∀ answer : Reply, answer.IsFinal → f.replies ≠ (who, answer) :: e.replies) :
    f.printsFor who = e.printsFor who ++ e.begunFor f who := by
  cases h with
  | stays hprinting =>
      rw [begunFor, begun_of_subset (hprinting ▸ List.Subset.refl _), printsFor, hprinting]
      exact (List.append_nil _).symm
  | begins p hprinting hreplies =>
      by_cases hmine : p.caller = who
      · have hnew : p ∉ e.printing := by
          intro hold
          have htwo : 2 ≤ f.printing.countP fun p => p.caller == who := by
            have hone : 0 < e.printing.countP fun p => p.caller == who :=
              List.countP_pos_iff.2 ⟨p, hold, beq_iff_eq.2 hmine⟩
            rw [hprinting, List.countP_append, List.countP_singleton, if_pos (beq_iff_eq.2 hmine)]
            omega
          simp only [dealings, engagements] at hsingle
          omega
        rw [begunFor, begun_of_append hprinting hnew, printsFor, hprinting, List.filter_append]
        rfl
      · have hothers : e.begunFor f who = [] := by
          refine List.filter_eq_nil_iff.2 fun other hother hcaller => ?_
          obtain ⟨hmem, hnew⟩ := List.mem_filter.1 hother
          rw [hprinting] at hmem
          rcases List.mem_append.1 hmem with hold | hlast
          · simp [hold] at hnew
          · rw [List.mem_singleton.1 hlast] at hcaller
            exact hmine (beq_iff_eq.1 hcaller)
        rw [hothers, List.append_nil, printsFor, hprinting, List.filter_append,
          List.filter_singleton, beq_false_of_ne hmine]
        exact List.append_nil _
  | ends p answer hp hprinting hfinal hreplies =>
      have hother : p.caller ≠ who := fun hmine => hunheard answer hfinal (hmine ▸ hreplies)
      have herased : f.printing ⊆ e.printing := by
        rw [hprinting]
        exact List.erase_subset
      obtain ⟨before, after, -, hsplit, hrest⟩ := List.exists_erase_eq hp
      rw [begunFor, begun_of_subset herased, printsFor, printsFor, hprinting, hrest, hsplit]
      simp [hother]
  | leaves caller hprinting =>
      have hother : caller ≠ who := fun hmine => hleave (by rw [hmine])
      have hleft : f.printing ⊆ e.printing := by
        rw [hprinting]
        exact List.filter_sublist.subset
      rw [begunFor, begun_of_subset hleft, List.filter_nil, List.append_nil, printsFor, hprinting,
        List.filter_filter]
      refine List.filter_congr fun p _ => ?_
      by_cases hmine : p.caller = who
      · simp [hmine, hother.symm]
      · simp [beq_false_of_ne hmine]

/-- When somebody is answered, no print begins. -/
theorem Turns.begun_of_reply (h : Turns e f step) {answer : Reply}
    (hreplies : f.replies = (who, answer) :: e.replies) : e.begun f = [] := by
  cases h with
  | stays hprinting => exact begun_of_subset (hprinting ▸ List.Subset.refl _)
  | begins p hprinting hsame =>
      rw [hsame] at hreplies
      exact absurd hreplies.symm (List.cons_ne_self _ _)
  | ends p other hp hprinting =>
      refine begun_of_subset ?_
      rw [hprinting]
      exact List.erase_subset
  | leaves caller hprinting =>
      refine begun_of_subset ?_
      rw [hprinting]
      exact List.filter_sublist.subset

/-- Nothing begins for somebody whom the engine does not know afterwards. -/
theorem begunFor_of_not_concerns (hstranger : ¬ f.Concerns who) : e.begunFor f who = [] := by
  refine List.filter_eq_nil_iff.2 fun p hp hcaller => hstranger ?_
  exact .printing (List.mem_filter.1 hp).1 (beq_iff_eq.1 hcaller)

theorem printsFor_of_not_concerns (hstranger : ¬ e.Concerns who) : e.printsFor who = [] := by
  refine List.filter_eq_nil_iff.2 fun p hp hcaller => hstranger ?_
  exact .printing hp (beq_iff_eq.1 hcaller)

theorem begunFor_of_begun (hbegun : e.begun f = []) : e.begunFor f who = [] := by
  rw [begunFor, hbegun, List.filter_nil]

/-- Nothing begins for somebody whose one dealing is over. -/
theorem begunFor_of_answered (hsingle : f.dealings who ≤ 1) {answer : Reply}
    (hanswer : (who, answer) ∈ f.replies) : e.begunFor f who = [] := by
  refine List.filter_eq_nil_iff.2 fun p hp hcaller => ?_
  obtain ⟨-, -, -, hnone⟩ := only_print_of_dealings_le_one hsingle (List.mem_filter.1 hp).1
    (beq_iff_eq.1 hcaller)
  exact hnone answer hanswer

/-- The one dealing of somebody is the print that is under way for him. -/
theorem printsFor_of_single (hsingle : e.dealings who ≤ 1) (hp : p ∈ e.printing)
    (hcaller : p.caller = who) : e.printsFor who = [p] := by
  obtain ⟨-, -, honly, -⟩ := only_print_of_dealings_le_one hsingle hp hcaller
  have hcount : (e.printsFor who).length ≤ 1 := by
    rw [printsFor, ← List.countP_eq_length_filter]
    simp only [dealings, engagements] at hsingle
    omega
  have hmem : p ∈ e.printsFor who := List.mem_filter.2 ⟨hp, beq_iff_eq.2 hcaller⟩
  cases hlist : e.printsFor who with
  | nil =>
      rw [hlist] at hmem
      cases hmem
  | cons first rest =>
      rw [hlist, List.length_cons] at hcount
      obtain rfl : rest = [] := List.eq_nil_of_length_eq_zero (by omega)
      rw [hlist] at hmem
      rw [List.mem_singleton.1 hmem]

/-! ## Operations -/

/-- The prints that begin in a run, in order. -/
def begunIn (settings : LaunchSettings) (browser : Browser) : Engine → List Step → List Printing
  | _, [] => []
  | e, step :: rest =>
    e.begun (e.apply settings browser 0 step) ++
      begunIn settings browser (e.apply settings browser 0 step) rest

theorem begunIn_operation (settings : LaunchSettings) (browser : Browser) (e : Engine) (who : Nat)
    (request : Request) :
    let asked := e.ask 0 who request
    let settled := asked.settle settings browser 0
    e.begunIn settings browser (operation who request) =
      e.begun asked ++ asked.begun settled ++ settled.begun (settled.endPrint browser who) := by
  simp [begunIn, operation, apply]

/-- What the caller of a print is told when it has ended. -/
def Printing.answer (browser : Browser) (p : Printing) : Reply :=
  match p.result browser with
  | .ok pdf => .printed pdf
  | .error fault => .misprinted fault

/-- The only print that is under way ends. -/
theorem endPrint_of_single (hprinting : f.printing = [p]) (browser : Browser) :
    (f.endPrint browser p.caller).printing = [] ∧
      (f.endPrint browser p.caller).prints = f.prints ∧
      (f.endPrint browser p.caller).replies = (p.caller, p.answer browser) :: f.replies := by
  have hfind : (f.printing.find? fun other => other.caller == p.caller) = some p := by
    simp [hprinting]
  have hrest : f.printing.erase p = [] := by simp [hprinting]
  simp only [endPrint, hfind, Printing.answer]
  cases p.result browser with
  | ok pdf => exact ⟨hrest, rfl, rfl⟩
  | error fault => exact ⟨hrest, rfl, rfl⟩

/-- An engine at rest that runs, or comes to run, has one print under way once the request
has come to it and what keeps it busy has ended, and this began in one of the two steps. -/
theorem printing_of_ready (h : e.AtRest) (hready : e.outlook settings browser = .ready)
    (who : Nat) (html : String) (page : PageSize) :
    let asked := e.ask 0 who (.print html page)
    let granted := asked.settle settings browser 0
    granted.printing = [⟨0, e.prints, who, html, page⟩] ∧
      granted.prints = e.prints + 1 ∧ granted.replies = e.replies ∧
      e.begun asked ++ asked.begun granted = [⟨0, e.prints, who, html, page⟩] := by
  intro asked granted
  have hasked : asked = e.serve 0 who (.print html page) := h.ask_eq_serve 0 who _
  cases hstatus : e.status with
  | failed reason => simp [outlook, h.idle, hstatus] at hready
  | ready =>
      have hbegun : asked = { e with
          printing := e.printing ++ [⟨0, e.prints, who, html, page⟩]
          prints := e.prints + 1 } := by
        rw [hasked]
        simp only [Request.print, serve, hstatus, grant]
      have hgranted : granted = asked := by
        refine settle_of_not_busy ?_
        rw [hbegun]
        exact h.idle
      rw [hgranted, hbegun]
      simp [begun, h.printed]
  | uninitialized =>
      have hlaunch : launchStatus settings browser e.launches = .ready := by
        simpa [outlook, h.idle, hstatus] using hready
      have hbegun : asked = e.beginLaunch 0 who (.print html page) := by
        rw [hasked]
        simp only [Request.print, serve, hstatus]
      have hgranted : granted = ({ e.beginLaunch 0 who (.print html page) with
          status := .ready
          available := true
          busy := none } : Engine).grant 0 who (.print html page) := by
        simp only [granted, hbegun, settle, beginLaunch, endLaunch, hlaunch, landFor,
          decide_true]
      rw [hgranted, hbegun]
      simp [begun, grant, beginLaunch, h.printed]

/-- An operation hands the page to the browser of such an engine, once, and its caller is
told what comes of that. -/
theorem operation_of_ready (h : e.AtRest) (hready : e.outlook settings browser = .ready)
    (who : Nat) (html : String) (page : PageSize) :
    let p : Printing := ⟨0, e.prints, who, html, page⟩
    let done := e.run settings browser (operation who (.print html page))
    e.begunIn settings browser (operation who (.print html page)) = [p] ∧
      done.prints = e.prints + 1 ∧ done.replies = (who, p.answer browser) :: e.replies := by
  intro p done
  obtain ⟨hprinting, hprints, hreplies, hbegun⟩ := printing_of_ready h hready who html page
  obtain ⟨hended, hcount, hanswer⟩ := endPrint_of_single hprinting browser
  have hlast : ((e.ask 0 who (.print html page)).settle settings browser 0).begun
      (((e.ask 0 who (.print html page)).settle settings browser 0).endPrint browser who) = [] := by
    refine begun_of_subset ?_
    rw [hended]
    exact List.nil_subset _
  refine ⟨?_, hcount.trans hprints, ?_⟩
  · rw [begunIn_operation, hlast, List.append_nil]
    exact hbegun
  · rw [← hreplies]
    exact hanswer

/-- An operation hands nothing to the browser of a hopeless engine, and its caller is told
why there is no engine. -/
theorem operation_of_hopeless (h : e.AtRest) (hhopeless : e.IsHopeless settings browser)
    (who : Nat) (html : String) (page : PageSize) :
    let done := e.run settings browser (operation who (.print html page))
    e.begunIn settings browser (operation who (.print html page)) = [] ∧
      done.prints = e.prints ∧
        ∃ reason, done.replies = (who, .unavailable reason) :: e.replies := by
  intro done
  have horder := orderly_of_not_busy h.idle
  have hasked := hhopeless.ask horder 0 who (.print html page)
  have hsettled := hasked.hopeless.settle 0
  have hended := hsettled.hopeless.endPrint who
  refine ⟨?_, ?_, ?_⟩
  · rw [begunIn_operation, begun_of_subset hasked.printing, begun_of_subset hsettled.printing,
      begun_of_subset hended.printing]
    rfl
  · exact hended.prints.trans (hsettled.prints.trans hasked.prints)
  · obtain ⟨reason, hfails⟩ := hhopeless
    change ∃ reason, (((e.ask 0 who _).settle settings browser 0).endPrint browser who).replies = _
    rw [h.ask_eq_serve]
    cases hstatus : e.status with
    | ready => simp [outlook, h.idle, hstatus] at hfails
    | failed known =>
        refine ⟨known, ?_⟩
        simp only [Request.print, serve, hstatus, reply, settle, h.idle]
        rw [endPrint_of_no_print]
        exact h.printed
    | uninitialized =>
        have hlaunch : launchStatus settings browser e.launches = .failed reason := by
          simpa [outlook, h.idle, hstatus] using hfails
        refine ⟨reason, ?_⟩
        simp only [Request.print, serve, hstatus, beginLaunch, settle, endLaunch, hlaunch, landFor]
        rw [endPrint_of_no_print]
        · rfl
        · exact h.printed

/-! ## Conversions -/

namespace Session

variable {s : Session} {options : RenderOptions}

/-- A conversion into a printed document is one operation of the engine. -/
theorem engine_convert (h : s.Quiet) (hformat : options.format = .paginated) (svg : String)
    (quality : Nat) :
    (s.convert svg options quality).2.engine = s.engine.run s.settings s.browser
      (operation s.next (.print (Page.around svg) .a4Landscape)) := by
  obtain ⟨-, answer, now, log, hcall, -⟩ :=
    call_eq h.rest h.replyTo (.print (Page.around svg) .a4Landscape)
  have hprint : (s.printBytes (Page.around svg) .a4Landscape).2.engine = s.engine.run s.settings
      s.browser (operation s.next (.print (Page.around svg) .a4Landscape)) := by
    unfold printBytes
    rw [hcall]
    cases answer <;> rfl
  rw [← hprint]
  simp only [convert, hformat, paginateBytes]
  generalize s.printBytes (Page.around svg) .a4Landscape = result
  obtain ⟨outcome, after⟩ := result
  cases outcome with
  | ok pdf => rfl
  | error fault => cases fault <;> rfl

/-- Where the engine runs or comes to run, a conversion into a printed document is what the
print of its page comes to. -/
theorem convert_of_ready (h : s.Quiet) (hready : s.engine.outlook s.settings s.browser = .ready)
    (hformat : options.format = .paginated) (svg : String) (quality : Nat) :
    (s.convert svg options quality).1 = (Conversion.printed
      (s.browser.print s.engine.prints (Page.around svg) .a4Landscape).ending).map
        fun pdf => .paginated pdf options := by
  obtain ⟨-, -, hreplies⟩ :=
    operation_of_ready h.rest hready s.next (Page.around svg) .a4Landscape
  obtain ⟨-, answer, now, log, hcall, hanswer⟩ :=
    call_eq h.rest h.replyTo (.print (Page.around svg) .a4Landscape)
  rw [hreplies] at hanswer
  obtain ⟨-, rfl⟩ := Prod.mk.inj (List.cons.inj hanswer).1
  cases hprinted : Conversion.printed
      (s.browser.print s.engine.prints (Page.around svg) .a4Landscape).ending with
  | ok pdf =>
      simp only [convert, hformat, paginateBytes, printBytes, hcall, Printing.answer,
        Printing.result, hprinted]
      rfl
  | error fault =>
      obtain ⟨stage, text, rfl, -⟩ := (Conversion.isMisprint_of_printed hprinted).stage
      simp only [convert, hformat, paginateBytes, printBytes, hcall, Printing.answer,
        Printing.result, hprinted]
      rfl

/-- Where the engine is hopeless, a conversion into a printed document is the markup, and
says that it stands in. -/
theorem convert_of_hopeless (h : s.Quiet) (hhopeless : s.engine.IsHopeless s.settings s.browser)
    (hformat : options.format = .paginated) (svg : String) (quality : Nat) :
    (s.convert svg options quality).1 = .ok (.vector svg true) := by
  obtain ⟨-, -, reason, hreplies⟩ :=
    operation_of_hopeless h.rest hhopeless s.next (Page.around svg) .a4Landscape
  obtain ⟨-, answer, now, log, hcall, hanswer⟩ :=
    call_eq h.rest h.replyTo (.print (Page.around svg) .a4Landscape)
  rw [hreplies] at hanswer
  obtain ⟨-, rfl⟩ := Prod.mk.inj (List.cons.inj hanswer).1
  simp only [convert, hformat, paginateBytes, printBytes, hcall]

end Session

end CanvasPress.Engine

/-
# Prints that fail

A print may fail in any way, and whatever the browser reports the caller is told that a
conversion has failed, never that there is no engine.  The stage that he is told is the one
of printed documents, unless the browser itself blames the conversion into a raster picture.
The engine is none the worse for it: it runs on, with the same browser, and prints for the
next one.
-/

import CanvasPress.Proofs.Engine.Engagement
import CanvasPress.Proofs.Engine.Sessions

namespace CanvasPress

/-- A call to the browser that does not return. -/
def Ending.Fails {α : Type} (ending : Ending α) : Prop :=
  ∀ value, ending ≠ .returned value

/-- The browser reports that a conversion into a raster picture has failed. -/
def Ending.BlamesRaster : Ending ByteArray → Prop
  | .failed (.conversion .raster _) => True
  | _ => False

/-- A fault of a failed conversion, with the text that says so for a printed document. -/
structure Fault.IsMisprint (blamed : Prop) (fault : Fault) : Prop where
  stage : ∃ stage text, fault = .conversion stage text ∧ (stage = .pdf ↔ ¬ blamed)
  message : ¬ blamed → ∃ text, fault.message = "PDF conversion failed: " ++ text

/-- Whatever a failing print reports is a failed conversion. -/
theorem Conversion.isMisprint_of_printed {ending : Ending ByteArray} {fault : Fault}
    (h : Conversion.printed ending = .error fault) : fault.IsMisprint ending.BlamesRaster := by
  have hpdf (text : String) (hclear : ¬ ending.BlamesRaster) :
      (Fault.conversion .pdf text).IsMisprint ending.BlamesRaster :=
    ⟨⟨.pdf, text, rfl, by simp [hclear]⟩, fun _ => ⟨text, rfl⟩⟩
  cases ending with
  | returned pdf => cases h
  | panicked report =>
      cases h
      exact hpdf _ id
  | failed reported =>
      cases reported with
      | conversion stage text =>
          cases h
          cases stage with
          | pdf => exact hpdf text id
          | raster =>
              refine ⟨⟨.raster, text, rfl, ?_⟩, fun hclear => absurd trivial hclear⟩
              simp [Ending.BlamesRaster]
      | _ =>
          cases h
          exact hpdf _ id

theorem Conversion.printed_of_fails {ending : Ending ByteArray} (h : ending.Fails) :
    ∃ fault, Conversion.printed ending = .error fault := by
  cases ending with
  | returned pdf => exact absurd rfl (h pdf)
  | panicked report => exact ⟨_, rfl⟩
  | failed fault => cases fault <;> exact ⟨_, rfl⟩

namespace Engine

variable {settings : LaunchSettings} {browser : Browser} {now who : Nat} {e : Engine}
  {html svg : String} {page : PageSize} {fault : Fault}

/-! ## One print -/

/-- A running engine begins a print at once, without a launch. -/
theorem ask_print_of_ready (hidle : e.isIdle = true) (hready : e.status = .ready) (now who : Nat)
    (html : String) (page : PageSize) :
    e.ask now who (.print html page) =
      { e with
        printing := e.printing ++ [⟨now, e.prints, who, html, page⟩]
        prints := e.prints + 1 } := by
  rw [ask, if_pos hidle]
  simp only [Request.print, serve, hready, grant]

/-- The end of a print that has failed changes nothing but what is under way. -/
theorem endPrint_of_error {p : Printing}
    (hfind : (e.printing.find? fun p => p.caller == who) = some p)
    (hresult : p.result browser = .error fault) :
    e.endPrint browser who =
      ({ e with printing := e.printing.erase p } : Engine).reply who (.misprinted fault) := by
  simp only [endPrint, hfind, hresult]

/-- A failing print leaves the engine as it was, but for the call to the browser. -/
theorem run_failing_print (settings : LaunchSettings) (hidle : e.isIdle = true)
    (hready : e.status = .ready) (hnew : ∀ p ∈ e.printing, p.caller ≠ who)
    (hresult : Conversion.printed (browser.print e.prints html page).ending = .error fault) :
    e.run settings browser [.ask who (.print html page), .endPrint who] =
      ({ e with prints := e.prints + 1 } : Engine).reply who (.misprinted fault) := by
  let p : Printing := ⟨0, e.prints, who, html, page⟩
  have hnobody : (e.printing.find? fun p => p.caller == who) = none := by
    rw [List.find?_eq_none]
    exact fun q hq hcaller => hnew q hq (beq_iff_eq.1 hcaller)
  have hfind : ((e.printing ++ [p]).find? fun p => p.caller == who) = some p := by
    rw [List.find?_append, hnobody]
    simp [p]
  have hrest : (e.printing ++ [p]).erase p = e.printing := by
    rw [List.erase_append_right _ fun hmem => hnew p hmem rfl]
    simp
  change (e.ask 0 who (.print html page)).endPrint browser who = _
  rw [ask_print_of_ready hidle hready]
  refine (endPrint_of_error (e := { e with printing := e.printing ++ [p], prints := e.prints + 1 })
    hfind hresult).trans ?_
  rw [hrest]

/-! ## Others in between -/

/-- The terms of somebody who wants nothing more of the engine than to hear how his print has
failed. -/
def misprintTerms (browser : Browser) (fault : Fault) : Terms where
  wish _ := False
  sheet p := p.result browser = .error fault
  answer reply := reply = .misprinted fault

theorem areFair_misprintTerms (browser : Browser) (fault : Fault) (who : Nat)
    (known : Status → Prop) :
    (misprintTerms browser fault).AreFair browser who known where
  ready _ hwish := hwish.elim
  begun _ _ _ hwish := hwish.elim
  unavailable _ _ _ hwish := hwish.elim
  printed p pdf hsheet hresult := by
    have hfails : p.result browser = .error fault := hsheet
    rw [hresult] at hfails
    cases hfails
  misprinted p other hsheet hresult := by
    have hfails : p.result browser = .error fault := hsheet
    rw [hresult] at hfails
    cases hfails
    rfl

/-- Whatever others do meanwhile, whoever has a failing print under way hears how it failed. -/
theorem keeps_misprintTerms {p : Printing} (h : e.dealings who ≤ 1) (hp : p ∈ e.printing)
    (hcaller : p.caller = who) (hresult : p.result browser = .error fault) :
    e.Keeps (misprintTerms browser fault) who := by
  obtain ⟨hqueue, hbusy, hprinting, hreplies⟩ := only_print_of_dealings_le_one h hp hcaller
  refine ⟨fun request hmem => absurd hmem (hqueue request), fun l purpose htask hlaunch => ?_,
    fun c htask hclose => hbusy _ htask (congrArg some hclose), fun q hq hown => ?_,
    fun answer hmem => absurd hmem (hreplies answer)⟩
  · exact hbusy _ htask (by simp [Task.caller?, hlaunch])
  · rwa [hprinting q hq hown]

theorem Keeps.run_misprintTerms (h : e.Keeps (misprintTerms browser fault) who)
    (settings : LaunchSettings) {steps : List Step} (hask : ∀ request, .ask who request ∉ steps) :
    (e.run settings browser steps).Keeps (misprintTerms browser fault) who := by
  have fair := areFair_misprintTerms browser fault who fun _ => True
  induction steps generalizing e with
  | nil => exact h
  | cons step rest ih =>
      have hown (request : Request) : step ≠ .ask who request :=
        fun heq => hask request (heq ▸ List.mem_cons_self)
      exact ih (h.apply fair (.inr trivial) (fun _ _ => trivial) 0 hown)
        fun request hmem => hask request (List.mem_cons_of_mem _ hmem)

/-- Whoever waits for a print that fails hears how it has failed when it ends, unless he has
heard so before, and the engine is as it was but for the print. -/
theorem Keeps.endPrint_of_misprintTerms (h : e.Keeps (misprintTerms browser fault) who)
    (hone : e.dealings who = 1) :
    (e.endPrint browser who).replyTo who = some (.misprinted fault) ∧
      (e.endPrint browser who = e ∨ ∃ p ∈ e.printing, e.endPrint browser who =
        ({ e with printing := e.printing.erase p } : Engine).reply who (.misprinted fault)) := by
  cases hfind : e.printing.find? fun p => p.caller == who with
  | some p =>
      have hmem := List.mem_of_find?_eq_some hfind
      have hcaller : p.caller = who := by simpa using List.find?_some hfind
      have hends := endPrint_of_error hfind (h.printing p hmem hcaller)
      exact ⟨replyTo_of_replies (congrArg Engine.replies hends), .inr ⟨p, hmem, hends⟩⟩
  | none =>
      -- Nothing else can be under way for him, so that he has been answered.
      have hstill : e.endPrint browser who = e := by
        simp only [Engine.endPrint, hfind]
      have hconcerned : e.Concerns who := by
        by_contra hstranger
        rw [dealings_of_not_concerns hstranger] at hone
        cases hone
      have hanswered : ∃ answer, (who, answer) ∈ e.replies := by
        cases hconcerned with
        | waiting hmem =>
            obtain ⟨purpose, -, hwish⟩ := h.waiting _ hmem
            exact hwish.elim
        | @busy task hbusy hcaller =>
            cases task with
            | close c => exact absurd (Option.some.inj hcaller) (h.closing c hbusy)
            | launch l =>
                obtain ⟨⟨caller, purpose⟩, hlaunch, rfl⟩ := Option.map_eq_some_iff.1 hcaller
                exact (h.launching l purpose hbusy hlaunch).elim
        | printing hmem hcaller =>
            exact absurd (beq_iff_eq.2 hcaller) (List.find?_eq_none.1 hfind _ hmem)
        | answered hmem => exact ⟨_, hmem⟩
      obtain ⟨answer, hmem⟩ := hanswered
      obtain ⟨found, hfound⟩ : ∃ found, (e.replies.find? fun r => r.1 == who) = some found := by
        rw [← Option.isSome_iff_exists, List.find?_isSome]
        exact ⟨_, hmem, beq_iff_eq.2 rfl⟩
      have hhim : found.1 = who := by simpa using List.find?_some hfound
      have hheard : found.2 = .misprinted fault :=
        h.answered found.2 (hhim ▸ List.mem_of_find?_eq_some hfound)
      rw [hstill]
      exact ⟨by simp [replyTo, hfound, hheard], .inl rfl⟩

/-- How an engine takes a print that fails. -/
structure RunsOn (settings : LaunchSettings) (browser : Browser) (e : Engine) (who : Nat)
    (html : String) (page : PageSize) (fault : Fault) : Prop where
  /-- Nothing changes but that the browser was called and that the caller was told. -/
  unharmed : e.run settings browser [.ask who (.print html page), .endPrint who] =
    ({ e with prints := e.prints + 1 } : Engine).reply who (.misprinted fault)
  /-- The next print begins at once, without a launch. -/
  next : ∀ now other html' page',
    let after := e.run settings browser [.ask who (.print html page), .endPrint who]
    after.ask now other (.print html' page') =
      { after with
        printing := after.printing ++ [⟨now, after.prints, other, html', page'⟩]
        prints := after.prints + 1 }
  /-- Whatever others do meanwhile, the caller hears nothing else, and that at the end of the
  print at the latest. -/
  told : ∀ steps : List Step, (∀ request, .ask who request ∉ steps) → .leave who ∉ steps →
    let mid := (e.ask 0 who (.print html page)).run settings browser steps
    (∀ answer, (who, answer) ∈ mid.replies → answer = .misprinted fault) ∧
      (mid.endPrint browser who).replyTo who = some (.misprinted fault) ∧
      (mid.endPrint browser who = mid ∨ ∃ p ∈ mid.printing, mid.endPrint browser who =
        ({ mid with printing := mid.printing.erase p } : Engine).reply who (.misprinted fault))

/-- An engine that runs and is free takes a print that fails in its stride. -/
theorem runsOn_of_failing (hidle : e.isIdle = true) (hready : e.status = .ready)
    (hstranger : ¬ e.Concerns who)
    (hresult : Conversion.printed (browser.print e.prints html page).ending = .error fault) :
    e.RunsOn settings browser who html page fault := by
  have hrun := run_failing_print settings hidle hready
    (fun p hp hcaller => hstranger (.printing hp hcaller)) hresult
  refine ⟨hrun, fun now other html' page' => ?_, fun steps hask hleave => ?_⟩
  · intro after
    have hfree : after.isIdle = true := (congrArg isIdle hrun).trans hidle
    have hstill : after.status = .ready := (congrArg Engine.status hrun).trans hready
    exact ask_print_of_ready hfree hstill now other html' page'
  · have hone : (e.ask 0 who (.print html page)).dealings who = 1 := by
      rw [dealings_ask, dealings_of_not_concerns hstranger, share_self]
    have hbegun : (e.ask 0 who (.print html page)).Keeps (misprintTerms browser fault) who := by
      refine keeps_misprintTerms (p := ⟨0, e.prints, who, html, page⟩) (Nat.le_of_eq hone) ?_ rfl
        hresult
      rw [ask_print_of_ready hidle hready]
      exact List.mem_append_right _ (List.mem_singleton_self _)
    have hkeeps := hbegun.run_misprintTerms settings hask
    exact ⟨hkeeps.answered,
      hkeeps.endPrint_of_misprintTerms ((dealings_run hask hleave).trans hone)⟩

/-! ## Sessions -/

namespace Session

variable {s : Session}

/-- A session whose engine runs is told how its print has failed, and the engine runs on. -/
theorem print_of_failing (h : s.Quiet) (hready : s.engine.status = .ready)
    (hresult : Conversion.printed (s.browser.print s.engine.prints html page).ending =
      .error fault) :
    (s.printBytes html page).1 = .error fault ∧
      (s.printBytes html page).2.engine =
        ({ s.engine with prints := s.engine.prints + 1 } : Engine).reply s.next
          (.misprinted fault) := by
  have hdone : s.engine.run s.settings s.browser (operation s.next (.print html page)) =
      ({ s.engine with prints := s.engine.prints + 1 } : Engine).reply s.next
        (.misprinted fault) := by
    have hasked : (s.engine.ask 0 s.next (.print html page)).busy = none := by
      rw [ask_print_of_ready h.rest.isIdle hready]
      exact h.rest.idle
    have hsettled : s.engine.run s.settings s.browser (operation s.next (.print html page)) =
        s.engine.run s.settings s.browser
          [.ask s.next (.print html page), .endPrint s.next] :=
      congrArg (Engine.endPrint s.browser s.next) (settle_of_not_busy hasked)
    rw [hsettled]
    exact run_failing_print s.settings h.rest.isIdle hready (by simp [h.rest.printed]) hresult
  obtain ⟨-, answer, now, log, hcall, hanswer⟩ := call_eq h.rest h.replyTo (.print html page)
  rw [hdone] at hcall hanswer
  obtain rfl : answer = .misprinted fault := by
    have hhead := (List.cons.inj hanswer).1
    exact (Prod.mk.inj hhead).2.symm
  simp only [printBytes, hcall, and_self]

/-- A picture whose print fails is neither printed nor replaced. -/
theorem paginate_of_failing (h : s.Quiet) (hready : s.engine.status = .ready)
    (hresult : Conversion.printed
      (s.browser.print s.engine.prints (Page.around svg) .a4Landscape).ending = .error fault) :
    s.paginateBytes svg = (.error fault, (s.printBytes (Page.around svg) .a4Landscape).2) := by
  have hprint := (print_of_failing h hready hresult).1
  obtain ⟨stage, text, rfl, -⟩ := (Conversion.isMisprint_of_printed hresult).stage
  unfold paginateBytes
  split
  next pdf after heq =>
    rw [heq] at hprint
    cases hprint
  next reason after heq =>
    rw [heq] at hprint
    cases hprint
  next fault after _ heq =>
    rw [heq] at hprint ⊢
    cases hprint
    rfl

theorem convert_of_failing {options : RenderOptions} (hformat : options.format = .paginated)
    (h : s.Quiet) (hready : s.engine.status = .ready)
    (hresult : Conversion.printed
      (s.browser.print s.engine.prints (Page.around svg) .a4Landscape).ending = .error fault)
    (quality : Nat) :
    s.convert svg options quality =
      (.error fault, (s.printBytes (Page.around svg) .a4Landscape).2) := by
  simp only [convert, hformat, paginate_of_failing h hready hresult]

end Session

end Engine

end CanvasPress

/-
# Unfilled placeholders are reported

What composing reports is read off the composed text, where template and values can no
longer be told apart.  So the report may say too much, but it never says too little: every
placeholder of the template whose name has no value is in it, in the order of the template
and as often as it stands there, whatever braces surround it or come in with the values.
-/

import CanvasPress.Proofs.Compose.Values
import CanvasPress.Proofs.Template.Leftovers

namespace CanvasPress.Document

open Template Text

variable (document : Document) (options : RenderOptions) (generatedAt : Timestamp)

/-- What is logged about a text in which something was found. -/
theorem composeLog_of_ne_nil {composed : String} (h : Template.unresolved composed ≠ []) :
    document.composeLog composed = [⟨.warn, document.kind.name ++ " canvas has " ++
      decimal (Template.unresolved composed).length ++ " unresolved placeholder(s): " ++
        String.intercalate ", " (Template.unresolved composed)⟩] := by
  rw [composeLog]
  split
  · rename_i hnone
    exact absurd hnone h
  · rfl

/-- **No unfilled placeholder is missed.**  Whatever braces a template and the values hold,

* the placeholders of the template whose names are not looked up with success form a list,
  in the order in which they stand and as often as they do, and this list is a sublist of
  what is reported about the composed text,
* so if nothing is reported, every placeholder of the template was filled,
* and if one was not, it is in the report and the warning is logged. -/
theorem unfilled_placeholders_are_reported (template : String) :
    let value? := lookup (document.values options generatedAt)
    let composed := document.compose template options generatedAt
    let report := Template.unresolved composed
    (∃ sources, ListsUnfilled value? template.toList sources ∧
      (∀ sources', ListsUnfilled value? template.toList sources' → sources' = sources) ∧
      (sources.map String.ofList).Sublist report) ∧
    (report = [] → ∀ position name source, Occurs template.toList position name source →
      ∃ value, value? (String.ofList name) = some value) ∧
    ∀ position name source, Occurs template.toList position name source →
      value? (String.ofList name) = none →
        String.ofList source ∈ report ∧
        document.composeLog composed = [⟨.warn, document.kind.name ++ " canvas has " ++
          decimal report.length ++ " unresolved placeholder(s): " ++
            String.intercalate ", " report⟩] := by
  intro value? composed report
  obtain ⟨sources, hlists, hsublist⟩ := exists_listsUnfilled_sublist value? template.toList
  have hreport : (sources.map String.ofList).Sublist report := by
    have hcomposed : composed.toList = fill value? template.toList := String.toList_ofList
    show (sources.map String.ofList).Sublist ((leftovers composed.toList).map String.ofList)
    rw [hcomposed]
    exact (hsublist []).map _
  have hmem {position : Nat} {name source : List Char}
      (hoccurs : Occurs template.toList position name source)
      (hnone : value? (String.ofList name) = none) : String.ofList source ∈ report :=
    hreport.subset (List.mem_map_of_mem (hlists.mem ⟨name, hoccurs, hnone⟩))
  refine ⟨⟨sources, hlists, fun sources' h => h.unique hlists, hreport⟩, ?_, ?_⟩
  · intro hempty position name source hoccurs
    cases hvalue : value? (String.ofList name) with
    | some value => exact ⟨value, rfl⟩
    | none =>
        have hfound := hmem hoccurs hvalue
        rw [hempty] at hfound
        cases hfound
  · intro position name source hoccurs hnone
    have hfound := hmem hoccurs hnone
    exact ⟨hfound, document.composeLog_of_ne_nil (List.ne_nil_of_mem hfound)⟩

/-- Two placeholders without a value among stray braces, behind a title that opens braces of
its own. -/
theorem unfilled_placeholders_are_reported_among_stray_braces :
    let document := (ofKind .valueProposition).withText "title" "\x7b\x7bx"
    let template :=
      "\x7b\x7btitle\x7d\x7d\x7b\x7b\x7b gains \x7d\x7d\x7d\x7d\x7b\x7b\x7bpains\x7d\x7d\x7d\x7d"
    let report := Template.unresolved (document.compose template (.ofSettings {}) ⟨0, 0⟩)
    "\x7b\x7b gains \x7d\x7d" ∈ report ∧ "\x7b\x7bpains\x7d\x7d" ∈ report ∧
      ∃ line ∈ document.composeLog (document.compose template (.ofSettings {}) ⟨0, 0⟩),
        line.level = .warn := by
  intro document template report
  obtain ⟨-, -, heach⟩ :=
    unfilled_placeholders_are_reported document (.ofSettings {}) ⟨0, 0⟩ template
  have hgains : Occurs template.toList 10 "gains".toList "\x7b\x7b gains \x7d\x7d".toList :=
    ⟨⟨by decide, List.all_eq_true.1 (by decide), [' '], [' '], by simp [isBlank],
      by simp [isBlank], by decide⟩, by decide⟩
  have hpains : Occurs template.toList 24 "pains".toList "\x7b\x7bpains\x7d\x7d".toList :=
    ⟨⟨by decide, List.all_eq_true.1 (by decide), [], [], by simp, by simp, by decide⟩, by decide⟩
  obtain ⟨hfirst, hlog⟩ := heach _ _ _ hgains (by decide)
  obtain ⟨hsecond, -⟩ := heach _ _ _ hpains (by decide)
  refine ⟨hfirst, hsecond, ?_⟩
  rw [hlog]
  exact ⟨_, List.mem_singleton_self _, rfl⟩

end CanvasPress.Document

/-
# What composing puts in

A document fills a template by what names stand for in it, and `Document.value?` says what
that is: five names belong to the layout, even if the document has sections of these
names, and every other name stands for the section with that very key.  Composing is the
simultaneous substitution of these values for the placeholders of the template.
-/

import CanvasPress.Compose
import CanvasPress.Proofs.Json.Members
import CanvasPress.Proofs.Template.Substitution

namespace CanvasPress.Document

open Template Text

/-- The names that belong to the layout. -/
def layoutNames : List String :=
  ["width", "height", "title", "generatedAt", "metadata"]

/-- What a name stands for.  The size is written in decimal; the title is the section
`title` if that is text and not blank, and otherwise the name of the kind; the metadata
element may be left out. -/
def value? (document : Document) (options : RenderOptions) (generatedAt : Timestamp)
    (name : String) : Option String :=
  if name = "width" then some (decimal options.width)
  else if name = "height" then some (decimal options.height)
  else if name = "title" then
    match document.section? "title" with
    | some (.text title) =>
      if isBlankText title then some (escape document.kind.displayName) else some (escape title)
    | _ => some (escape document.kind.displayName)
  else if name = "generatedAt" then some (escape generatedAt.wholeText)
  else if name = "metadata" then
    if options.includeMetadata then some (document.metadataMarkup options generatedAt)
    else some ""
  else (document.section? name).map Section.markup

variable (document : Document) (options : RenderOptions) (generatedAt : Timestamp)

theorem section?_eq_member? (key : String) :
    document.section? key = Json.member? document.sections key :=
  rfl

theorem value?_title :
    document.value? options generatedAt "title" = some (escape document.title) := by
  rw [value?, if_neg (by decide), if_neg (by decide), if_pos rfl, title, title?]
  rcases document.section? "title" with _ | (text | entries)
  · rfl
  · by_cases hblank : isBlankText text = true
    · simp only [if_pos hblank, Option.getD_none]
    · simp only [if_neg hblank, Option.getD_some]
  · rfl

theorem value?_metadata : document.value? options generatedAt "metadata" =
    some (if options.includeMetadata then document.metadataMarkup options generatedAt else "") := by
  rw [value?, if_neg (by decide), if_neg (by decide), if_neg (by decide), if_neg (by decide),
    if_pos rfl]
  split <;> rfl

/-- Every name that the layout does not claim stands for a section. -/
theorem value?_of_not_mem {name : String} (h : name ∉ layoutNames) :
    document.value? options generatedAt name = (document.section? name).map Section.markup := by
  simp only [layoutNames, List.mem_cons, List.not_mem_nil, or_false, not_or] at h
  obtain ⟨hwidth, hheight, htitle, hgenerated, hmetadata⟩ := h
  rw [value?, if_neg hwidth, if_neg hheight, if_neg htitle, if_neg hgenerated, if_neg hmetadata]

/-- Putting the values of the layout in after those of the sections gives every name the
value it stands for. -/
theorem lookup_values :
    lookup (document.values options generatedAt) = document.value? options generatedAt := by
  funext name
  have hsections : Json.member? (document.sections.map fun s => (s.1, s.2.markup)) name =
      (document.section? name).map Section.markup :=
    Json.member?_map Section.markup document.sections name
  show Json.member? (document.values options generatedAt) name = _
  simp only [values, layoutValues, List.foldl_cons, List.foldl_nil, Json.member?_insertMember,
    hsections]
  by_cases hname : name ∈ layoutNames
  · simp only [layoutNames, List.mem_cons, List.not_mem_nil, or_false] at hname
    rcases hname with rfl | rfl | rfl | rfl | rfl
    · rfl
    · rfl
    · exact (document.value?_title options generatedAt).symm
    · rfl
    · exact (document.value?_metadata options generatedAt).symm
  · rw [value?_of_not_mem _ _ _ hname]
    simp only [layoutNames, List.mem_cons, List.not_mem_nil, or_false, not_or] at hname
    obtain ⟨hwidth, hheight, htitle, hgenerated, hmetadata⟩ := hname
    rw [if_neg (Ne.symm hmetadata), if_neg (Ne.symm hgenerated), if_neg (Ne.symm htitle),
      if_neg (Ne.symm hheight), if_neg (Ne.symm hwidth)]

theorem toList_compose (template : String) :
    (document.compose template options generatedAt).toList =
      fill (document.value? options generatedAt) template.toList := by
  rw [compose, String.toList_ofList, lookup_values]

/-- **Composing is one simultaneous substitution.**  Whatever braces a template holds,

* two placeholders of the template are the same one or do not share a character,
* the composed text, and no other, is the template in which each placeholder of a name
  that stands for something is replaced by what the name stands for, while all else stays
  as it is, unknown and malformed placeholders included,
* and what names stand for is what composing looks them up in: the values of the layout,
  and else the sections of the document. -/
theorem compose_is_substitution (template : String) :
    (∀ position position' name name' source source',
        Occurs template.toList position name source →
        Occurs template.toList position' name' source' →
          (position = position' ∧ name = name' ∧ source = source') ∨
            position + source.length ≤ position' ∨ position' + source'.length ≤ position) ∧
      (∀ output : String,
        IsSubstitution (document.value? options generatedAt) template.toList output.toList ↔
          output = document.compose template options generatedAt) ∧
      ∀ name, lookup (document.values options generatedAt) name =
        document.value? options generatedAt name := by
  refine ⟨?_, ?_, ?_⟩
  · intro position position' name name' source source' hoccurs hoccurs'
    exact hoccurs.eq_or_apart hoccurs'
  · intro output
    rw [isSubstitution_iff, ← toList_compose, String.toList_inj]
  · intro name
    rw [lookup_values]

/-- A title that looks like a placeholder, braces around placeholders, and a placeholder
inside a broken one. -/
theorem compose_is_substitution_among_stray_braces :
    let document := ((ofKind .valueProposition).withText "title" "\x7b\x7bwidth\x7d\x7d").withList
      "gains" ["\x7b\x7btitle\x7d\x7d"]
    let template :=
      "\x7b\x7b\x7btitle\x7d\x7d\x7d \x7b\x7b \x7b\x7b gains\x7d\x7d \x7d\x7d \x7b\x7bpains\x7d\x7d"
    Occurs template.toList 1 "title".toList "\x7b\x7btitle\x7d\x7d".toList ∧
      Occurs template.toList 15 "gains".toList "\x7b\x7b gains\x7d\x7d".toList ∧
      1 + "\x7b\x7btitle\x7d\x7d".toList.length ≤ 15 ∧
      IsSubstitution (document.value? (.ofSettings {}) ⟨0, 0⟩) template.toList
        ("\x7b\x7b\x7bwidth\x7d\x7d\x7d \x7b\x7b <text x=\"16\" y=\"56\" class=\"item\">" ++
          "• \x7b\x7btitle\x7d\x7d</text> \x7d\x7d \x7b\x7bpains\x7d\x7d").toList := by
  intro document template
  obtain ⟨hapart, hfilled, -⟩ :=
    compose_is_substitution document (.ofSettings {}) ⟨0, 0⟩ template
  have htitle : Occurs template.toList 1 "title".toList "\x7b\x7btitle\x7d\x7d".toList :=
    ⟨⟨by decide, List.all_eq_true.1 (by decide), [], [], by simp, by simp, by decide⟩, by decide⟩
  have hgains : Occurs template.toList 15 "gains".toList "\x7b\x7b gains\x7d\x7d".toList :=
    ⟨⟨by decide, List.all_eq_true.1 (by decide), [' '], [], by simp [isBlank], by simp, by decide⟩,
      by decide⟩
  refine ⟨htitle, hgains, ?_, (hfilled _).2 (by decide +kernel)⟩
  rcases hapart _ _ _ _ _ _ htitle hgains with ⟨hposition, -⟩ | hbefore | hbehind
  · exact absurd hposition (by decide)
  · exact hbefore
  · exact absurd hbehind (by decide)

end CanvasPress.Document

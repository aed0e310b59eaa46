/-
# Content cannot inject markup

The skeleton of a text is what is left of it when only the characters stay that open and
close tags and quoted values.  The skeleton of a composed text is settled by the template,
the keys of the sections, the number of their entries and whether metadata are included.
It is the same for all titles, texts, entries, themes, sizes, kinds and times, because
each of them is escaped, or written in digits and letters, before it is put in.
-/

import CanvasPress.Proofs.Compose.Values
import CanvasPress.Proofs.Text.Escape

namespace CanvasPress

open Template Text

/-! ## Skeletons -/

/-- What is left of a text when only its markup stays. -/
def Text.skeleton (s : List Char) : List Char :=
  s.filter isMarkup

theorem Text.skeleton_append (s t : List Char) : skeleton (s ++ t) = skeleton s ++ skeleton t :=
  List.filter_append ..

theorem Text.skeleton_escape (s : String) : skeleton (escape s).toList = [] := by
  rw [skeleton, toList_escape, List.filter_eq_nil_iff]
  intro c hc
  rw [isMarkup_of_mem_escapeList hc]
  exact Bool.false_ne_true

theorem Text.skeleton_decimal (n : Nat) : skeleton (decimal n).toList = [] := by
  rw [skeleton, List.filter_eq_nil_iff]
  intro c hc hmarkup
  have hdigit := isDigit_of_mem_decimal hc
  simp only [isMarkup, Bool.or_eq_true, decide_eq_true_eq] at hmarkup
  rcases hmarkup with ((rfl | rfl) | rfl) | rfl
  all_goals exact absurd hdigit (by decide)

theorem Kind.skeleton_name (kind : Kind) : skeleton kind.name.toList = [] := by
  cases kind <;> decide

namespace Section

/-- The markup of an entry, whatever its place and its text. -/
def entrySkeleton : List Char :=
  skeleton "<text x=\"\" y=\"\" class=\"item\"></text>".toList

theorem skeleton_entryMarkup (index : Nat) (entry : String) :
    skeleton (entryMarkup index entry).toList = entrySkeleton := by
  unfold entryMarkup
  simp only [String.toList_append, skeleton_append, skeleton_decimal, skeleton_escape]
  decide

/-- A section shows as many entries as it has. -/
theorem skeleton_entriesMarkup (index : Nat) (entries : List String) :
    skeleton (entriesMarkup index entries).toList =
      (List.replicate entries.length entrySkeleton).flatten := by
  induction entries generalizing index with
  | nil => rfl
  | cons entry entries ih =>
      rw [entriesMarkup, String.toList_append, skeleton_append, skeleton_entryMarkup, ih,
        List.length_cons, List.replicate_succ, List.flatten_cons]

theorem skeleton_markup_eq {s s' : Section} (h : s.entries.length = s'.entries.length) :
    skeleton s.markup.toList = skeleton s'.markup.toList := by
  rw [markup, markup, skeleton_entriesMarkup, skeleton_entriesMarkup, h]

end Section

namespace Document

variable (document document' : Document) (options options' : RenderOptions)
  (generatedAt generatedAt' : Timestamp)

/-- The markup of the metadata element, whatever it says. -/
def metadataSkeleton : List Char :=
  skeleton
    "<metadata><canvas type=\"\" theme=\"\" generatedAt=\"\" sections=\"\"/></metadata>".toList

theorem skeleton_metadataMarkup :
    skeleton (document.metadataMarkup options generatedAt).toList = metadataSkeleton := by
  unfold metadataMarkup
  simp only [String.toList_append, skeleton_append, skeleton_decimal, skeleton_escape,
    Kind.skeleton_name]
  decide

/-! ## Two runs -/

/-- The skeleton of what stands for a name, if anything does. -/
def valueSkeleton? (value? : String → Option String) (name : String) : Option (List Char) :=
  (value? name).map fun value => skeleton value.toList

/-- Filling a template with values of the same skeletons gives texts of the same
skeleton. -/
theorem skeleton_fill_eq {value? value?' : String → Option String}
    (h : ∀ name, valueSkeleton? value? name = valueSkeleton? value?' name) (s : List Char) :
    skeleton (fill value? s) = skeleton (fill value?' s) := by
  rw [fill, fill, skeleton, skeleton, List.filter_flatMap, List.filter_flatMap]
  refine List.flatMap_congr fun token _ => ?_
  cases token with
  | char c => rfl
  | placeholder name source =>
      have hname := h (String.ofList name)
      rw [valueSkeleton?, valueSkeleton?] at hname
      rw [Token.fill, Token.fill]
      cases hvalue : value? (String.ofList name) with
      | none =>
          rw [hvalue, Option.map_none, eq_comm, Option.map_eq_none_iff] at hname
          rw [hname]
      | some value =>
          rw [hvalue, Option.map_some, eq_comm, Option.map_eq_some_iff] at hname
          obtain ⟨value', hvalue', hskeleton⟩ := hname
          rw [hvalue']
          exact hskeleton.symm

variable {document document' options options'}

/-- The values of the layout have no markup that depends on the content. -/
theorem valueSkeleton?_of_mem {name : String} (hname : name ∈ layoutNames)
    (hmetadata : options.includeMetadata = options'.includeMetadata) :
    valueSkeleton? (document.value? options generatedAt) name =
      valueSkeleton? (document'.value? options' generatedAt') name := by
  rw [valueSkeleton?, valueSkeleton?]
  simp only [layoutNames, List.mem_cons, List.not_mem_nil, or_false] at hname
  rcases hname with rfl | rfl | rfl | rfl | rfl
  · show some (skeleton (decimal _).toList) = some (skeleton (decimal _).toList)
    rw [skeleton_decimal, skeleton_decimal]
  · show some (skeleton (decimal _).toList) = some (skeleton (decimal _).toList)
    rw [skeleton_decimal, skeleton_decimal]
  · rw [value?_title, value?_title, Option.map_some, Option.map_some, skeleton_escape,
      skeleton_escape]
  · show some (skeleton (escape _).toList) = some (skeleton (escape _).toList)
    rw [skeleton_escape, skeleton_escape]
  · rw [value?_metadata, value?_metadata, Option.map_some, Option.map_some, hmetadata]
    split
    · rw [skeleton_metadataMarkup, skeleton_metadataMarkup]
    · rfl

/-- A section has the markup of its number of entries. -/
theorem valueSkeleton?_of_not_mem {name : String} (hname : name ∉ layoutNames)
    (hkey : name ∈ document.sections.map (·.1) ↔ name ∈ document'.sections.map (·.1))
    (hentries : ∀ s s', document.section? name = some s → document'.section? name = some s' →
      s.entries.length = s'.entries.length) :
    valueSkeleton? (document.value? options generatedAt) name =
      valueSkeleton? (document'.value? options' generatedAt') name := by
  rw [valueSkeleton?, valueSkeleton?, value?_of_not_mem _ _ _ hname, value?_of_not_mem _ _ _ hname]
  rw [← Json.isSome_member?_iff, ← Json.isSome_member?_iff, ← section?_eq_member?,
    ← section?_eq_member?] at hkey
  cases hsection : document.section? name with
  | none =>
      rw [hsection] at hkey
      have hsection' : document'.section? name = none := by simpa using hkey
      rw [hsection']
  | some s =>
      rw [hsection] at hkey
      obtain ⟨s', hsection'⟩ := Option.isSome_iff_exists.1 (hkey.1 rfl)
      rw [hsection']
      simp only [Option.map_some]
      rw [Section.skeleton_markup_eq (hentries s s' hsection hsection')]

/-- **No markup injection.**  Whatever the template, two compositions from documents with
the same keys and the same numbers of entries, both with or both without metadata, have
the same markup, character by character. -/
theorem compose_skeleton_eq (template : String)
    (hkeys : ∀ key, key ∈ document.sections.map (·.1) ↔ key ∈ document'.sections.map (·.1))
    (hentries : ∀ key s s', key ∉ layoutNames → document.section? key = some s →
      document'.section? key = some s' → s.entries.length = s'.entries.length)
    (hmetadata : options.includeMetadata = options'.includeMetadata) :
    skeleton (document.compose template options generatedAt).toList =
      skeleton (document'.compose template options' generatedAt').toList := by
  rw [toList_compose, toList_compose]
  refine skeleton_fill_eq (fun name => ?_) template.toList
  by_cases hname : name ∈ layoutNames
  · exact valueSkeleton?_of_mem generatedAt generatedAt' hname hmetadata
  · exact valueSkeleton?_of_not_mem generatedAt generatedAt' hname (hkeys name)
      fun s s' => hentries name s s' hname

/-- Tags in a title, a closing tag and a quote in entries and a theme that ends a value
leave the markup as it is for harmless words. -/
theorem compose_skeleton_eq_of_hostile_text :
    let document := ((ofKind .valueProposition).withText "title" "\"><script>").withList "pains"
      ["</text>", "' onload='"]
    let document' := ((ofKind .businessModel).withList "title" []).withList "pains" ["a", "b"]
    let options := { RenderOptions.ofSettings {} with theme := "\"/><x" }
    let options' := { RenderOptions.ofSettings {} with width := 1 }
    let template := "<g id=\"\x7b\x7btitle\x7d\x7d\">\x7b\x7bpains\x7d\x7d" ++
      "\x7b\x7bmetadata\x7d\x7d\x7b\x7bgains\x7d\x7d</g>"
    (∀ key, key ∈ document.sections.map (·.1) ↔ key ∈ document'.sections.map (·.1)) ∧
      (∀ key s s', key ∉ layoutNames → document.section? key = some s →
        document'.section? key = some s' → s.entries.length = s'.entries.length) ∧
      options.includeMetadata = options'.includeMetadata ∧
      skeleton (document.compose template options ⟨0, 0⟩).toList =
        skeleton (document'.compose template options' ⟨1, 0⟩).toList := by
  intro document document' options options' template
  have hkeys : ∀ key, key ∈ document.sections.map (·.1) ↔ key ∈ document'.sections.map (·.1) :=
    fun _ => Iff.rfl
  have hentries : ∀ key s s', key ∉ layoutNames → document.section? key = some s →
      document'.section? key = some s' → s.entries.length = s'.entries.length := by
    intro key s s' hname hsection hsection'
    have hkey : key ∈ ["pains", "title"] :=
      Json.isSome_member?_iff.1 (Option.isSome_iff_exists.2 ⟨s, hsection⟩)
    simp only [List.mem_cons, List.not_mem_nil, or_false] at hkey
    rcases hkey with rfl | rfl
    · cases hsection
      cases hsection'
      rfl
    · exact absurd (by decide) hname
  exact ⟨hkeys, hentries, rfl, compose_skeleton_eq ⟨0, 0⟩ ⟨1, 0⟩ template hkeys hentries rfl⟩

end Document

end CanvasPress

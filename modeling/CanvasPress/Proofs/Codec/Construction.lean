/-
# Documents that are read and documents that are built

A document may be read from a text that lists its sections, or built by putting its sections in
one after the other.  Both come to the same document for the same list, in which a key may come
more than once: what stood under a key before has no part in it, whether it was text or a list.

What is written of a document lists its sections in the order of the bytes of their keys, each key
once, in whatever order they were given.
-/

import CanvasPress.Proofs.Canvas.Building
import CanvasPress.Proofs.Codec.RoundTrip
import CanvasPress.Proofs.Json.Order
import CanvasPress.Proofs.Text.ByteOrder
import Mathlib.Data.List.Sort

namespace CanvasPress

open Json

/-! ## Building -/

/-- The edit that puts a section in. -/
def Edit.put : String × Section → Edit
  | (key, .text content) => .text key content
  | (key, .list entries) => .list key entries

theorem Edit.apply_put (p : String × Section) (document : Document) :
    (put p).apply document = document.withSection p.1 p.2 := by
  obtain ⟨key, content | entries⟩ := p <;> rfl

/-- A document with a reference, if one is given, and with sections put in one by one. -/
def Document.ofSections (kind : Kind) (id : Option String) (pairs : List (String × Section)) :
    Document :=
  build kind (id.toList.map .reference ++ pairs.map .put)

namespace Document

variable {kind : Kind} {id : Option (Option String)} {pairs : List (String × Section)}

theorem foldl_put (pairs : List (String × Section)) (document : Document) :
    (pairs.map Edit.put).foldl (fun document edit => edit.apply document) document =
      { document with
        sections := pairs.foldl (fun held p => insertMember p.1 p.2 held) document.sections } := by
  induction pairs generalizing document with
  | nil => rfl
  | cons p pairs ih =>
      rw [List.map_cons, List.foldl_cons, Edit.apply_put, ih]
      rfl

/-- Sections that are put in one by one end up sorted, the last one of each key. -/
theorem ofSections_eq (kind : Kind) (id : Option String) (pairs : List (String × Section)) :
    ofSections kind id pairs = ⟨id, kind, sortMembers pairs⟩ := by
  rw [ofSections, build, List.foldl_append, foldl_put]
  cases id <;> rfl

/-! ## Reading -/

/-- The names of the fields. -/
def names : List String :=
  ["id", "type", "sections"]

/-- The members of an object for a reference, which may be given as none or not at all, for a kind
and for sections, which are listed as they are given. -/
def members (kind : Kind) (id : Option (Option String)) (pairs : List (String × Section)) :
    List (String × Draft) :=
  [givenMember "id" (id.map fun id => .ofJson (.optionalText id)),
    some ("type", .ofJson kind.encode),
    some ("sections", .record (pairs.map fun p => (p.1, .ofJson p.2.encode)))]
    |>.reduceOption

/-- An object has these members: those of a document, and any that no field knows, in any order. -/
def IsWrittenAs (kind : Kind) (id : Option (Option String)) (pairs : List (String × Section))
    (written : List (String × Draft)) : Prop :=
  ∃ unknown, (∀ m ∈ unknown, m.1 ∉ names) ∧ written.Perm (members kind id pairs ++ unknown)

theorem pairwise_apart_fields : shape.fields.Pairwise Field.Apart := by
  simp only [shape, List.pairwise_cons, List.forall_mem_cons, List.not_mem_nil,
    false_imp_iff, implies_true, List.Pairwise.nil, and_true]
  and_intros <;> exact apart_field fun _ _ _ => rfl

/-- Sections are decoded from members in any order; of equal keys the last one stays. -/
theorem decode_sections (pairs : List (String × Section)) :
    dictionary Section.decode (.text 1)
      (.record (pairs.map fun p => (p.1, Draft.ofJson p.2.encode))) = .ok (sortMembers pairs) :=
  dictionary_named (fun s => Draft.ofJson s.encode) (fun s => s.decode_encode (by decide)) pairs

theorem decode_written {written : List (String × Draft)} (h : IsWrittenAs kind id pairs written)
    (hskip : ∀ m ∈ written, m.2.skip = .ok ()) :
    decode (.text 0) (.record written) = .ok (ofSections kind id.join pairs) := by
  obtain ⟨unknown, hunknown, hperm⟩ := h
  have hapart : ∀ m ∈ unknown, m.1 ∉ names ∧ m.2.skip = .ok () := fun m hm =>
    ⟨hunknown m hm, hskip m (hperm.mem_iff.2 (List.mem_append_right _ hm))⟩
  have hgiven : Accepts (.text 1) shape.fields (members kind id pairs) shape.blank
      ⟨id.getD none, some kind, sortMembers pairs⟩ :=
    .given (rel_map fun id _ => optional_optionalText (fun _ => rfl) id) rfl <|
    .cons (set_field_eq_ok_iff.2 ⟨_, kind.decode_encode _, rfl⟩) <|
    .cons (set_field_eq_ok_iff.2 ⟨_, decode_sections pairs, rfl⟩) <|
    .nil _
  have hid : id.getD none = id.join := by cases id <;> rfl
  rw [ofSections_eq, ← hid]
  exact Shape.decode_of_perm nodup_fields pairwise_apart_fields hgiven hapart hperm rfl

/-! ## Writing -/

/-- A document is written as its reference, if it has one, its kind and its sections. -/
theorem ofJson_encode (document : Document) :
    Draft.ofJson document.encode =
      .record (members document.kind (document.id.map some) document.sections) := by
  have hsections : Draft.ofJson (.object (document.sections.map fun s => (s.1, s.2.encode))) =
      .record (document.sections.map fun s => (s.1, Draft.ofJson s.2.encode)) := by
    rw [Draft.ofJson, ofMembers_eq_named, List.map_map]
    rfl
  obtain ⟨id, kind, sections⟩ := document
  rw [encode, Draft.ofJson, ofMembers_eq_named]
  cases id <;> simp only [List.map_append, List.map_cons, List.map_nil, hsections] <;> rfl

theorem lays_compact (document : Document) :
    Lays document.encode.compact.toList
      (.record (members document.kind (document.id.map some) document.sections)) := by
  rw [Json.compact, String.toList_ofList, ← ofJson_encode]
  exact lays_write document.encode document.isPortable_encode

section Sections

variable (kind : Kind) (id : Option String) (pairs : List (String × Section))

/-- A document that is built has under each key the section that was put there last. -/
theorem section?_ofSections (key : String) :
    (ofSections kind id pairs).section? key = member? pairs.reverse key := by
  rw [ofSections_eq]
  exact member?_sortMembers pairs key

/-- The keys of a document that is built stand in the order of their bytes. -/
theorem pairwise_utf8_ofSections :
    ((ofSections kind id pairs).sections.map fun s => Text.utf8 s.1).Pairwise (· < ·) := by
  rw [ofSections_eq, List.pairwise_map]
  exact (ascending_sortMembers pairs).imp Text.utf8_lt_iff.2

/-- The order in which sections are put in has no part in the order of the keys. -/
theorem keys_ofSections_perm {others : List (String × Section)} (hperm : others.Perm pairs) :
    (ofSections kind id others).sections.map (·.1) =
      (ofSections kind id pairs).sections.map (·.1) := by
  rw [ofSections_eq, ofSections_eq]
  have hsorted (pairs : List (String × Section)) :
      ((sortMembers pairs).map (·.1)).Pairwise (· < ·) :=
    List.pairwise_map.2 (ascending_sortMembers pairs)
  refine (hsorted others).eq_of_mem_iff (hsorted pairs) fun key => ?_
  rw [mem_keys_sortMembers, mem_keys_sortMembers]
  exact (hperm.map _).mem_iff

end Sections

end Document

/-! ## The theorem -/

/-- The reader and the builder agree.  A text lists sections, under keys of which any may come
again, beside a kind and a reference; the members stand in any order, among any that no field
knows, and are laid out in any way.  It is read as the document into which the same sections are
put one by one: under each key there is the last one.  What is written of this document lists the
same keys, each once and in the order of their bytes, in whatever order they were given. -/
theorem decodeText_eq_ofSections {kind : Kind} {id : Option (Option String)}
    {pairs : List (String × Section)} {written : List (String × Draft)}
    (hwritten : Document.IsWrittenAs kind id pairs written) {text : String}
    (htext : Lays text.toList (.record written)) :
    let document := Document.ofSections kind id.join pairs
    decodeText Document.decode text = .ok document ∧
      (∀ key, document.section? key = member? pairs.reverse key) ∧
      Lays document.encode.compact.toList
        (.record (Document.members kind (id.join.map some) document.sections)) ∧
      (∀ key, key ∈ document.sections.map (·.1) ↔ key ∈ pairs.map (·.1)) ∧
      (document.sections.map fun s => Text.utf8 s.1).Pairwise (· < ·) ∧
      ∀ others, others.Perm pairs →
        (Document.ofSections kind id.join others).sections.map (·.1) =
          document.sections.map (·.1) := by
  intro document
  have hsame : document = ⟨id.join, kind, sortMembers pairs⟩ := Document.ofSections_eq _ _ _
  have hcompact := document.lays_compact
  refine ⟨?_, Document.section?_ofSections _ _ _, ?_, fun key => ?_,
    Document.pairwise_utf8_ofSections _ _ _, fun _ => Document.keys_ofSections_perm _ _ _⟩
  · rw [decodeText_of_spells _ (spells_of_lays htext)]
    exact Document.decode_written hwritten htext.skip_member
  · rwa [hsame] at hcompact ⊢
  · rw [hsame]
    exact mem_keys_sortMembers

/-- A key comes twice, first by its code unit and with a text, then as it is and with a list.  Of
the others one takes two code units and comes before one that takes a single code unit, and one is
empty.  A member that no field knows has a number and a string inside that nobody could read. -/
theorem decodeText_eq_ofSections_of_untidy_text :
    let pairs : List (String × Section) :=
      [("é", .text "old"), ("😀", .text ""), ("｡", .list []), ("", .text "\n"),
        ("é", .list ["new"])]
    let more : Draft := .array [Reader.double false ['1'] [] 999, .string none] .closed
    let written : List (String × Draft) :=
      [("more", more), ("sections", .record (pairs.map fun p => (p.1, .ofJson p.2.encode))),
        ("type", .text "businessModel")]
    let text := "\x7b \"more\" : [1e999, \"\\ud800\"], \"sections\":\x7b\"\\u00E9\":\"old\"," ++
      "\"\\ud83d\\ude00\":\"\",\"｡\":[ ],\"\":\"\\n\",\"é\":[\"new\"]\x7d," ++
      "\"type\":\"businessModel\"\x7d\n"
    let document : Document :=
      ⟨none, .businessModel,
        [("", .text "\n"), ("é", .list ["new"]), ("｡", .list []), ("😀", .text "")]⟩
    Document.IsWrittenAs .businessModel none pairs written ∧
      Lays text.toList (.record written) ∧
        decodeText Document.decode text = .ok document ∧
          document.encode.compact =
            "\x7b\"type\":\"businessModel\",\"sections\":\x7b\"\":\"\\n\",\"é\":[\"new\"]," ++
              "\"｡\":[],\"😀\":\"\"\x7d\x7d" := by
  intro pairs more written text document
  have hwritten : Document.IsWrittenAs .businessModel none pairs written := by
    refine ⟨[("more", more)], by decide, ?_⟩
    exact List.reverse_perm [("type", _), ("sections", _), ("more", more)]
  have hspace : IsBlank [' '] := List.forall_mem_singleton.2 rfl
  have hline : IsBlank ['\n'] := List.forall_mem_singleton.2 rfl
  have hone : IsWhole ['1'] := ⟨⟨by decide, List.all_eq_true.1 rfl⟩, by decide⟩
  have hnines : AreDigits ['9', '9', '9'] := ⟨by decide, List.all_eq_true.1 rfl⟩
  have hnumber : LaysNumber ['1', 'e', '9', '9', '9'] (Reader.double false ['1'] [] 999) :=
    .scientific false hone .none (.inl rfl) (.bare hnines)
  have hlone : LaysString ['\\', 'u', 'd', '8', '0', '0'] none := by
    refine .lone (.unit (p := 13) (q := 8) (r := 0) (t := 0) rfl rfl rfl rfl .nil) ?_
    intro cs h
    cases h with
    | unit hunit _ => omega
  have hmore : Lays " [1e999, \"\\ud800\"]".toList more :=
    .padded hspace isBlank_nil <| .array <| .next (.number hnumber) <| .last <|
      .padded hspace isBlank_nil (.string hlone)
  have hsmall : LaysKey "\"\\u00E9\"".toList (some "é") :=
    .intro isBlank_nil isBlank_nil <|
      .text (.unit (p := 0) (q := 0) (r := 14) (t := 9) rfl rfl rfl rfl .nil)
        (.unit (by decide) .nil)
  have hpair : LaysKey "\"\\ud83d\\ude00\"".toList (some "😀") :=
    .intro isBlank_nil isBlank_nil <|
      .text (.unit (p := 13) (q := 8) (r := 3) (t := 13) rfl rfl rfl rfl <|
        .unit (p := 13) (q := 14) (r := 0) (t := 0) rfl rfl rfl rfl .nil)
        (.pair (by decide) (by decide) .nil)
  have hobject :=
    Lays.object <|
      .next (.intro hspace hspace (laysString_writeChar "more")) hmore <|
      .next (.intro hspace isBlank_nil (laysString_writeChar "sections"))
        (.object <|
          .next hsmall (lays_write (.text "old") trivial) <|
          .next hpair (lays_write (.text "") trivial) <|
          .next (laysKey_writeText "｡") (.emptyArray hspace) <|
          .next (laysKey_writeText "") (lays_write (.text "\n") trivial) <|
          .last (laysKey_writeText "é")
            (lays_write (.array [.text "new"]) ⟨trivial, trivial⟩)) <|
      .last (laysKey_writeText "type") (lays_write (.text "businessModel") trivial)
  have htext : Lays text.toList (.record written) := by
    convert Lays.padded isBlank_nil hline hobject using 1
    · decide +kernel
    · rfl
  have hbuilt : Document.ofSections .businessModel none pairs = document := by decide
  refine ⟨hwritten, htext, ?_, by decide⟩
  rw [← hbuilt]
  exact (decodeText_eq_ofSections hwritten htext).1

end CanvasPress

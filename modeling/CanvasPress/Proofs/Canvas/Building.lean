/-
# Documents built edit by edit

A document begins without anything but its kind and is edited from then on.  What it
becomes is told by the last edits alone: the last one that gives a reference, and for each
key the last one that puts a section under it.  In which order the edits were made has no
part in it, because sections are kept in the order of their keys.
-/

import CanvasPress.Canvas.Document
import CanvasPress.Proofs.Json.Members
import Mathlib.Data.List.Induction

namespace CanvasPress

/-- An edit of a document. -/
inductive Edit where
  | reference (id : String)
  | text (key content : String)
  | list (key : String) (entries : List String)
deriving DecidableEq

namespace Edit

/-- The document after an edit. -/
def apply : Edit → Document → Document
  | .reference id, document => document.withId id
  | .text key content, document => document.withText key content
  | .list key entries, document => document.withList key entries

/-- The reference that an edit gives. -/
def id? : Edit → Option String
  | .reference id => some id
  | _ => none

/-- The section that an edit puts under a key. -/
def section? (key : String) : Edit → Option Section
  | .reference _ => none
  | .text other content => if other = key then some (.text content) else none
  | .list other entries => if other = key then some (.list entries) else none

/-- The last reference that is given. -/
def lastId? (edits : List Edit) : Option String :=
  (edits.filterMap id?).getLast?

/-- The last section that is put under a key. -/
def lastSection? (edits : List Edit) (key : String) : Option Section :=
  (edits.filterMap (section? key)).getLast?

theorem lastId?_append_singleton (edits : List Edit) (edit : Edit) :
    lastId? (edits ++ [edit]) = edit.id?.or (lastId? edits) := by
  rw [lastId?, lastId?, List.filterMap_append, List.getLast?_append]
  cases h : edit.id? <;> simp [h]

theorem lastSection?_append_singleton (edits : List Edit) (edit : Edit) (key : String) :
    lastSection? (edits ++ [edit]) key = (edit.section? key).or (lastSection? edits key) := by
  rw [lastSection?, lastSection?, List.filterMap_append, List.getLast?_append]
  cases h : edit.section? key <;> simp [h]

/-! ## One edit -/

variable (edit : Edit) (document : Document)

theorem kind_apply : (edit.apply document).kind = document.kind := by
  cases edit <;> rfl

theorem id_apply : (edit.apply document).id = edit.id?.or document.id := by
  cases edit <;> rfl

theorem section?_apply (key : String) :
    (edit.apply document).section? key = (edit.section? key).or (document.section? key) := by
  have hwith (other : String) (value : Section) :
      (document.withSection other value).section? key =
        if other = key then some value else document.section? key :=
    Json.member?_insertMember other value document.sections key
  cases edit with
  | reference id => rfl
  | text other content =>
      rw [apply, Document.withText, hwith, section?]
      split <;> rfl
  | list other entries =>
      rw [apply, Document.withList, hwith, section?]
      split <;> rfl

theorem ascending_apply (h : Json.Ascending document.sections) :
    Json.Ascending (edit.apply document).sections := by
  cases edit with
  | reference id => exact h
  | text key content => exact h.insertMember key (.text content)
  | list key entries => exact h.insertMember key (.list entries)

end Edit

/-! ## Many edits -/

namespace Document

open Edit

/-- The document of a kind after the given edits. -/
def build (kind : Kind) (edits : List Edit) : Document :=
  edits.foldl (fun document edit => edit.apply document) (ofKind kind)

variable (kind : Kind) (edits : List Edit)

theorem build_append_singleton (edit : Edit) :
    build kind (edits ++ [edit]) = edit.apply (build kind edits) := by
  rw [build, List.foldl_append]
  rfl

theorem kind_build : (build kind edits).kind = kind := by
  induction edits using List.reverseRecOn with
  | nil => rfl
  | append_singleton edits edit ih => rw [build_append_singleton, kind_apply, ih]

/-- A document has the reference that was given last. -/
theorem id_build : (build kind edits).id = lastId? edits := by
  induction edits using List.reverseRecOn with
  | nil => rfl
  | append_singleton edits edit ih =>
      rw [build_append_singleton, id_apply, ih, lastId?_append_singleton]

/-- A document has under each key the section that was put there last. -/
theorem section?_build (key : String) :
    (build kind edits).section? key = lastSection? edits key := by
  induction edits using List.reverseRecOn with
  | nil => rfl
  | append_singleton edits edit ih =>
      rw [build_append_singleton, section?_apply, ih, lastSection?_append_singleton]

theorem ascending_build : Json.Ascending (build kind edits).sections := by
  induction edits using List.reverseRecOn with
  | nil => exact Json.ascending_nil
  | append_singleton edits edit ih =>
      rw [build_append_singleton]
      exact edit.ascending_apply _ ih

variable {kind edits} {edits' : List Edit}

/-- Two documents of a kind are the same just if their last references and sections are. -/
theorem build_eq_build_iff :
    build kind edits = build kind edits' ↔
      lastId? edits = lastId? edits' ∧
        ∀ key, lastSection? edits key = lastSection? edits' key := by
  constructor
  · intro h
    refine ⟨?_, fun key => ?_⟩
    · rw [← id_build kind, h, id_build]
    · rw [← section?_build kind, h, section?_build]
  · rintro ⟨hid, hsections⟩
    have hheld : (build kind edits).sections = (build kind edits').sections := by
      refine (ascending_build kind edits).ext (ascending_build kind edits') fun key => ?_
      show (build kind edits).section? key = (build kind edits').section? key
      rw [section?_build, section?_build, hsections]
    rw [← id_build kind, ← id_build kind] at hid
    calc build kind edits
        = ⟨(build kind edits).id, (build kind edits).kind, (build kind edits).sections⟩ := rfl
      _ = ⟨(build kind edits').id, (build kind edits').kind, (build kind edits').sections⟩ := by
        rw [hid, hheld, kind_build, kind_build]
      _ = build kind edits' := rfl

end Document

end CanvasPress

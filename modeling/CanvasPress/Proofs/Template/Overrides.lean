/-
# Overrides and their history

A store of overrides is determined by the registrations that led to it, oldest first.  Under
each key it holds the text that was registered under that key last, and it holds as many
overrides as there are keys under which anything was registered.  Keys lower the name of the
theme, so what counts of a theme is its name up to the case of ASCII letters.
-/

import CanvasPress.Proofs.Text.Ascii
import CanvasPress.Template.Store
import Mathlib.Data.Finset.Dedup
import Mathlib.Data.Finset.Card
import Mathlib.Data.List.Induction

namespace CanvasPress.Template

open Text

/-! ## Registrations -/

/-- A template with what it is registered for; without a theme it is for every theme. -/
structure Registration where
  kind : Kind
  theme : Option String
  template : String
deriving DecidableEq

namespace Registration

variable {r : Registration} {kind : Kind} {theme : String}

/-- The key under which a registration is kept. -/
def key (r : Registration) : Key :=
  .of r.kind r.theme

/-- The registration is for a kind in one theme, and this is the theme's name up to case. -/
def IsFor (r : Registration) (kind : Kind) (theme : String) : Prop :=
  r.kind = kind ∧ ∃ name, r.theme = some name ∧ SameUpToCase name theme

/-- The registration is for a kind in every theme. -/
def IsForAll (r : Registration) (kind : Kind) : Prop :=
  r.kind = kind ∧ r.theme = none

theorem key_eq_some_iff : r.key = .of kind (some theme) ↔ r.IsFor kind theme := by
  obtain ⟨own, name?, template⟩ := r
  cases name? with
  | none => simp [key, Key.of, IsFor]
  | some name => simp [key, Key.of, IsFor, lowerAscii_eq_iff]

theorem key_eq_none_iff : r.key = .of kind none ↔ r.IsForAll kind := by
  obtain ⟨own, name?, template⟩ := r
  cases name? <;> simp [key, Key.of, IsForAll]

instance : Decidable (r.IsFor kind theme) :=
  decidable_of_iff _ key_eq_some_iff

instance : Decidable (r.IsForAll kind) :=
  decidable_of_iff _ key_eq_none_iff

end Registration

/-! ## The last of its kind -/

section Last

variable {α : Type} {P : α → Prop} {list : List α} {a b : α}

/-- The last element of a list with a property. -/
def IsLast (P : α → Prop) (list : List α) (a : α) : Prop :=
  ∃ front behind, list = front ++ a :: behind ∧ P a ∧ ∀ later ∈ behind, ¬ P later

theorem IsLast.mem (h : IsLast P list a) : a ∈ list := by
  obtain ⟨front, behind, rfl, -⟩ := h
  exact List.mem_append_right _ List.mem_cons_self

theorem IsLast.holds (h : IsLast P list a) : P a := by
  obtain ⟨front, behind, -, ha, -⟩ := h
  exact ha

theorem IsLast.congr {Q : α → Prop} (h : IsLast P list a) (hiff : ∀ b ∈ list, (P b ↔ Q b)) :
    IsLast Q list a := by
  obtain ⟨front, behind, rfl, ha, hbehind⟩ := h
  refine ⟨front, behind, rfl, (hiff a (by simp)).1 ha, fun later hlater => ?_⟩
  exact mt (hiff later (by simp [hlater])).2 (hbehind later hlater)

theorem not_isLast_nil : ¬ IsLast P [] a :=
  fun h => List.not_mem_nil h.mem

theorem isLast_append_singleton :
    IsLast P (list ++ [b]) a ↔ (P b ∧ a = b) ∨ (¬ P b ∧ IsLast P list a) := by
  constructor
  · rintro ⟨front, behind, hsplit, ha, hbehind⟩
    rcases List.eq_nil_or_concat behind with rfl | ⟨more, last, rfl⟩
    · obtain ⟨rfl, hend⟩ := List.append_inj' hsplit rfl
      obtain rfl : b = a := (List.cons.inj hend).1
      exact .inl ⟨ha, rfl⟩
    · rw [List.concat_eq_append, ← List.cons_append, ← List.append_assoc] at hsplit
      obtain ⟨rfl, hend⟩ := List.append_inj' hsplit rfl
      obtain rfl : b = last := (List.cons.inj hend).1
      refine .inr ⟨hbehind b (by simp), front, more, rfl, ha, fun later hlater => ?_⟩
      exact hbehind later (by simp [hlater])
  · rintro (⟨hb, rfl⟩ | ⟨hb, front, behind, rfl, ha, hbehind⟩)
    · exact ⟨list, [], rfl, hb, by simp⟩
    · refine ⟨front, behind ++ [b], by simp, ha, fun later hlater => ?_⟩
      rcases List.mem_append.1 hlater with hlater | hlater
      · exact hbehind later hlater
      · rw [List.mem_singleton.1 hlater]
        exact hb

/-- There is a last one if there is one at all. -/
theorem exists_isLast (hmem : a ∈ list) (ha : P a) : ∃ last, IsLast P list last := by
  induction list using List.reverseRecOn with
  | nil => cases hmem
  | append_singleton list b ih =>
      by_cases hb : P b
      · exact ⟨b, isLast_append_singleton.2 (.inl ⟨hb, rfl⟩)⟩
      · have hrest : a ∈ list := by
          rcases List.mem_append.1 hmem with hmem | hmem
          · exact hmem
          · exact absurd (List.mem_singleton.1 hmem ▸ ha) hb
        obtain ⟨last, hlast⟩ := ih hrest
        exact ⟨last, isLast_append_singleton.2 (.inr ⟨hb, hlast⟩)⟩

end Last

/-! ## Overrides in a list -/

namespace Store

variable {key other : Key} {template : String} {overrides : List (Key × String)}

theorem find?_put : ((put key template overrides).find? fun o => o.1 = other).map (·.2) =
    if key = other then some template
    else (overrides.find? fun o => o.1 = other).map (·.2) := by
  induction overrides with
  | nil => by_cases h : key = other <;> simp [put, h]
  | cons o rest ih =>
      obtain ⟨k, t⟩ := o
      rw [put]
      by_cases hk : k = key
      · subst hk
        by_cases h : k = other <;> simp [h]
      · rw [if_neg hk]
        by_cases h : k = other
        · simp [h, show ¬ key = other from fun hkey => hk (h.trans hkey.symm)]
        · simpa [h] using ih

theorem mem_keys_put :
    other ∈ (put key template overrides).map (·.1) ↔ other = key ∨ other ∈ overrides.map (·.1) := by
  induction overrides with
  | nil => simp [put]
  | cons o rest ih =>
      obtain ⟨k, t⟩ := o
      rw [put]
      by_cases hk : k = key
      · simp [hk]
      · rw [if_neg hk, List.map_cons, List.mem_cons, ih, List.map_cons, List.mem_cons]
        exact or_left_comm

theorem nodup_keys_put (h : (overrides.map (·.1)).Nodup) :
    ((put key template overrides).map (·.1)).Nodup := by
  induction overrides with
  | nil => simp [put]
  | cons o rest ih =>
      obtain ⟨k, t⟩ := o
      rw [List.map_cons, List.nodup_cons] at h
      rw [put]
      by_cases hk : k = key
      · subst hk
        simpa using h
      · rw [if_neg hk, List.map_cons, List.nodup_cons, mem_keys_put, not_or]
        exact ⟨⟨hk, h.1⟩, ih h.2⟩

/-! ## A store and its history -/

variable {store : Store} {history : List Registration} {r : Registration}

/-- The store after one more registration. -/
def add (store : Store) (r : Registration) : Store :=
  store.register r.kind r.theme r.template

/-- The store after further registrations, in this order. -/
def registerAll (store : Store) (calls : List Registration) : Store :=
  calls.foldl add store

theorem override?_add :
    (store.add r).override? key = if r.key = key then some r.template else store.override? key :=
  find?_put

/-- A store holds what its history says, each key once. -/
structure Reflects (store : Store) (history : List Registration) : Prop where
  /-- Under a key, the text that was registered last. -/
  held : ∀ key template, store.override? key = some template ↔
    ∃ r, IsLast (·.key = key) history r ∧ r.template = template
  keys : ∀ key, key ∈ store.overrides.map (·.1) ↔ ∃ r ∈ history, r.key = key
  single : (store.overrides.map (·.1)).Nodup

theorem reflects_empty : empty.Reflects [] where
  held key template := by simp [empty, override?, not_isLast_nil]
  keys key := by simp [empty]
  single := List.nodup_nil

/-- A registration takes the place of the one under the same key and leaves the others. -/
theorem Reflects.add (h : store.Reflects history) (r : Registration) :
    (store.add r).Reflects (history ++ [r]) where
  held key template := by
    simp only [override?_add, isLast_append_singleton]
    by_cases hkey : r.key = key
    · simp [hkey]
    · simp [hkey, h.held]
  keys key := by
    rw [Store.add, register]
    simp only [mem_keys_put, h.keys, List.mem_append, List.mem_singleton]
    constructor
    · rintro (rfl | ⟨other, hother, hkey⟩)
      · exact ⟨r, .inr rfl, rfl⟩
      · exact ⟨other, .inl hother, hkey⟩
    · rintro ⟨other, hother | rfl, hkey⟩
      · exact .inr ⟨other, hother, hkey⟩
      · exact .inl hkey.symm
  single := nodup_keys_put h.single

theorem Reflects.registerAll (h : store.Reflects history) (calls : List Registration) :
    (store.registerAll calls).Reflects (history ++ calls) := by
  induction calls generalizing store history with
  | nil => simpa [Store.registerAll] using h
  | cons r calls ih => simpa [Store.registerAll] using ih (h.add r)

theorem reflects_registerAll (calls : List Registration) :
    (empty.registerAll calls).Reflects calls :=
  reflects_empty.registerAll calls

namespace Reflects

variable {kind : Kind} {theme : String}

theorem override?_eq_none_iff (h : store.Reflects history) :
    store.override? key = none ↔ ∀ r ∈ history, r.key ≠ key := by
  constructor
  · intro hnone r hmem hkey
    obtain ⟨last, hlast⟩ := exists_isLast (P := (·.key = key)) hmem hkey
    rw [(h.held key last.template).2 ⟨last, hlast, rfl⟩] at hnone
    cases hnone
  · intro hnothing
    rw [Option.eq_none_iff_forall_ne_some]
    intro template hsome
    obtain ⟨r, hlast, -⟩ := (h.held key template).1 hsome
    exact hnothing r hlast.mem hlast.holds

theorem size_eq (h : store.Reflects history) :
    store.size = (history.map Registration.key).toFinset.card := by
  have hkeys : (store.overrides.map (·.1)).toFinset = (history.map Registration.key).toFinset := by
    ext key
    rw [List.mem_toFinset, h.keys, List.mem_toFinset, List.mem_map]
  rw [size, ← hkeys, List.toFinset_card_of_nodup h.single, List.length_map]

/-! ## Looking up -/

/-- What is registered for the theme comes first, -/
theorem get_of_isFor (h : store.Reflects history) {r : Registration}
    (hlast : IsLast (·.IsFor kind theme) history r) : store.get kind theme = r.template := by
  have hkey : store.override? (.of kind (some theme)) = some r.template := by
    rw [h.held]
    simp only [Registration.key_eq_some_iff]
    exact ⟨r, hlast, rfl⟩
  rw [get, hkey]

theorem override?_eq_none_of_not_isFor (h : store.Reflects history)
    (hnone : ∀ r ∈ history, ¬ r.IsFor kind theme) :
    store.override? (.of kind (some theme)) = none :=
  h.override?_eq_none_iff.2 fun r hr hkey => hnone r hr (Registration.key_eq_some_iff.1 hkey)

/-- what is registered for every theme comes next, -/
theorem get_of_isForAll (h : store.Reflects history) {r : Registration}
    (hnone : ∀ r ∈ history, ¬ r.IsFor kind theme) (hlast : IsLast (·.IsForAll kind) history r) :
    store.get kind theme = r.template := by
  have hkey : store.override? (.of kind none) = some r.template := by
    rw [h.held]
    simp only [Registration.key_eq_none_iff]
    exact ⟨r, hlast, rfl⟩
  rw [get, h.override?_eq_none_of_not_isFor hnone, hkey]

/-- and the built-in template comes last. -/
theorem get_of_nothing (h : store.Reflects history)
    (hnone : ∀ r ∈ history, ¬ r.IsFor kind theme ∧ ¬ r.IsForAll kind) :
    store.get kind theme = builtin kind (Theme.ofName theme) := by
  have hkey : store.override? (.of kind none) = none :=
    h.override?_eq_none_iff.2 fun r hr hkey => (hnone r hr).2 (Registration.key_eq_none_iff.1 hkey)
  rw [get, h.override?_eq_none_of_not_isFor fun r hr => (hnone r hr).1, hkey]

end Reflects

end Store

end CanvasPress.Template

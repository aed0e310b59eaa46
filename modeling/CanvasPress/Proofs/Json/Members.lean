/-
# Dictionaries sorted by key

`Json.insertMember` keeps members sorted by key.  What a dictionary holds under a name is
`member?`; an insertion changes it for one name only, whether the members are sorted or
not.  Members in ascending order of their keys are determined by what they hold, so two
dictionaries that were filled in different orders are the same list as soon as they hold
the same.
-/

import CanvasPress.Json.Basic
import Mathlib.Data.List.Induction
import Mathlib.Data.String.Basic

namespace CanvasPress.Json

variable {α : Type}

/-- What the members hold under a name: the first value with that key. -/
def member? (members : List (String × α)) (name : String) : Option α :=
  (members.find? fun m => m.1 == name).map (·.2)

theorem member?_nil (name : String) : member? ([] : List (String × α)) name = none :=
  rfl

theorem member?_cons (key : String) (value : α) (members : List (String × α)) (name : String) :
    member? ((key, value) :: members) name =
      if key = name then some value else member? members name := by
  by_cases h : key = name <;> simp [member?, h]

/-- What a dictionary holds under one name does not depend on its other values. -/
theorem member?_map {β : Type} (f : α → β) (members : List (String × α)) (name : String) :
    member? (members.map fun m => (m.1, f m.2)) name = (member? members name).map f := by
  induction members with
  | nil => rfl
  | cons member members ih =>
      obtain ⟨key, value⟩ := member
      rw [List.map_cons, member?_cons, member?_cons, ih]
      split <;> rfl

/-- A dictionary holds something under the names that are its keys. -/
theorem isSome_member?_iff {members : List (String × α)} {name : String} :
    (member? members name).isSome ↔ name ∈ members.map (·.1) := by
  simp [member?]

/-- An insertion changes what is held under its key and nothing else. -/
theorem member?_insertMember (key : String) (value : α) (members : List (String × α))
    (name : String) :
    member? (insertMember key value members) name =
      if key = name then some value else member? members name := by
  induction members with
  | nil => rw [insertMember, member?_cons]
  | cons member members ih =>
      obtain ⟨other, held⟩ := member
      rw [insertMember]
      split
      · rename_i heq
        subst heq
        rw [member?_cons, member?_cons]
        split <;> rfl
      · split
        · rw [member?_cons]
        · rename_i hne _
          rw [member?_cons, member?_cons, ih]
          by_cases hkey : key = name
          · rw [if_pos hkey, if_pos hkey, if_neg (fun hother => hne (hkey.trans hother.symm))]
          · rw [if_neg hkey, if_neg hkey]

/-! ## Ascending keys -/

/-- The keys stand in ascending order, each once. -/
def Ascending (members : List (String × α)) : Prop :=
  members.Pairwise fun m m' => m.1 < m'.1

theorem ascending_nil : Ascending ([] : List (String × α)) :=
  List.Pairwise.nil

theorem key_of_mem_insertMember {key : String} {value : α} {members : List (String × α)}
    {m : String × α} (h : m ∈ insertMember key value members) : m.1 = key ∨ m ∈ members := by
  induction members with
  | nil =>
      rw [insertMember, List.mem_singleton] at h
      exact .inl (congrArg Prod.fst h)
  | cons member members ih =>
      obtain ⟨other, held⟩ := member
      rw [insertMember] at h
      split at h
      · rcases List.mem_cons.1 h with rfl | hmem
        · exact .inl rfl
        · exact .inr (List.mem_cons_of_mem _ hmem)
      · split at h
        · rcases List.mem_cons.1 h with rfl | hmem
          · exact .inl rfl
          · exact .inr hmem
        · rcases List.mem_cons.1 h with rfl | hmem
          · exact .inr List.mem_cons_self
          · exact (ih hmem).imp_right (List.mem_cons_of_mem _)

theorem Ascending.insertMember {members : List (String × α)} (h : Ascending members)
    (key : String) (value : α) : Ascending (insertMember key value members) := by
  induction members with
  | nil => exact List.pairwise_singleton _ _
  | cons member members ih =>
      obtain ⟨other, held⟩ := member
      obtain ⟨hfirst, hrest⟩ := List.pairwise_cons.1 h
      rw [Json.insertMember]
      split
      · rename_i heq
        subst heq
        exact List.pairwise_cons.2 ⟨hfirst, hrest⟩
      · split
        · rename_i hlt
          refine List.pairwise_cons.2 ⟨?_, h⟩
          intro m hm
          rcases List.mem_cons.1 hm with rfl | hm
          · exact hlt
          · exact hlt.trans (hfirst m hm)
        · rename_i hne hle
          refine List.pairwise_cons.2 ⟨?_, ih hrest⟩
          intro m hm
          rcases key_of_mem_insertMember hm with heq | hm
          · rw [heq]
            exact lt_of_le_of_ne (not_lt.1 hle) (Ne.symm hne)
          · exact hfirst m hm

/-- Nothing is held under a name below all keys. -/
theorem member?_eq_none_of_lt {members : List (String × α)} {name : String}
    (h : ∀ m ∈ members, name < m.1) : member? members name = none := by
  rw [member?, Option.map_eq_none_iff, List.find?_eq_none]
  intro m hm heq
  exact absurd (h m hm) (by rw [beq_iff_eq.1 heq]; exact lt_irrefl _)

/-- The first key of a dictionary is no greater than any name it holds something under. -/
theorem Ascending.le_of_isSome {key : String} {value : α} {members : List (String × α)}
    (h : Ascending ((key, value) :: members)) {name : String}
    (hsome : (member? ((key, value) :: members) name).isSome) : key ≤ name := by
  obtain ⟨m, hm, rfl⟩ := List.mem_map.1 (isSome_member?_iff.1 hsome)
  rcases List.mem_cons.1 hm with rfl | hm
  · exact le_refl _
  · exact ((List.pairwise_cons.1 h).1 m hm).le

/-- Ascending members are determined by what they hold. -/
theorem Ascending.ext {members members' : List (String × α)} (h : Ascending members)
    (h' : Ascending members') (heq : ∀ name, member? members name = member? members' name) :
    members = members' := by
  induction members generalizing members' with
  | nil =>
      cases members' with
      | nil => rfl
      | cons member' members' =>
          have hkey := heq member'.1
          rw [member?_nil, member?_cons, if_pos rfl] at hkey
          cases hkey
  | cons member members ih =>
      obtain ⟨key, value⟩ := member
      cases members' with
      | nil =>
          have hkey := heq key
          rw [member?_nil, member?_cons, if_pos rfl] at hkey
          cases hkey
      | cons member' members' =>
          obtain ⟨key', value'⟩ := member'
          -- The first key is the least name under which there is something.
          have hkeys : key = key' := by
            refine le_antisymm (h.le_of_isSome ?_) (h'.le_of_isSome ?_)
            · rw [heq, member?_cons, if_pos rfl]
              rfl
            · rw [← heq, member?_cons, if_pos rfl]
              rfl
          subst hkeys
          have hvalues : value = value' := by
            simpa [member?_cons] using heq key
          subst hvalues
          obtain ⟨hfirst, hrest⟩ := List.pairwise_cons.1 h
          obtain ⟨hfirst', hrest'⟩ := List.pairwise_cons.1 h'
          have htails : ∀ name, member? members name = member? members' name := by
            intro name
            by_cases hname : key = name
            · subst hname
              rw [member?_eq_none_of_lt hfirst, member?_eq_none_of_lt hfirst']
            · simpa [member?_cons, hname] using heq name
          rw [ih hrest hrest' htails]

/-! ## Sorted members -/

theorem sortMembers_append_singleton (members : List (String × α)) (m : String × α) :
    sortMembers (members ++ [m]) = insertMember m.1 m.2 (sortMembers members) := by
  rw [sortMembers, List.foldl_append]
  rfl

theorem ascending_sortMembers (members : List (String × α)) : Ascending (sortMembers members) := by
  induction members using List.reverseRecOn with
  | nil => exact ascending_nil
  | append_singleton members m ih =>
      rw [sortMembers_append_singleton]
      exact ih.insertMember m.1 m.2

/-- Of equal keys the last one stays. -/
theorem member?_sortMembers (members : List (String × α)) (name : String) :
    member? (sortMembers members) name = member? members.reverse name := by
  induction members using List.reverseRecOn with
  | nil => rfl
  | append_singleton members m ih =>
      rw [sortMembers_append_singleton, member?_insertMember, List.reverse_append,
        List.reverse_singleton, List.singleton_append, member?_cons, ih]

theorem mem_keys_sortMembers {members : List (String × α)} {name : String} :
    name ∈ (sortMembers members).map (·.1) ↔ name ∈ members.map (·.1) := by
  rw [← isSome_member?_iff, member?_sortMembers, isSome_member?_iff, List.map_reverse,
    List.mem_reverse]

/-- A member whose key is greater than all others is put last. -/
theorem insertMember_of_last {members : List (String × α)} {key : String}
    (h : ∀ m ∈ members, m.1 < key) (value : α) :
    insertMember key value members = members ++ [(key, value)] := by
  induction members with
  | nil => rfl
  | cons member members ih =>
      have hless : member.1 < key := h member List.mem_cons_self
      have hne : key ≠ member.1 := hless.ne'
      have hnot : ¬ key < member.1 := hless.not_gt
      rw [insertMember, if_neg hne, if_neg hnot, ih fun m hm => h m (List.mem_cons_of_mem _ hm)]
      rfl

/-- Members in ascending order are left as they are. -/
theorem Ascending.sortMembers_eq {members : List (String × α)} (h : Ascending members) :
    sortMembers members = members := by
  induction members using List.reverseRecOn with
  | nil => rfl
  | append_singleton members m ih =>
      obtain ⟨hbefore, -, hlast⟩ := List.pairwise_append.1 h
      rw [sortMembers_append_singleton, ih hbefore,
        insertMember_of_last (fun other hother => hlast other hother m (List.mem_singleton_self m))]

end CanvasPress.Json

/-
# A cache and its history

What a lookup finds depends on the history of the cache alone: on what was stored
under the key last and not cleared since, and on whether that is still fresh.
Lookups and sweeps that drop what is stale have no part in the history.  A cache
mirrors its history as long as no lookup is aborted, and none is for keys that
have a name.
-/

import CanvasPress.Cache
import Mathlib.Data.List.Induction
import Mathlib.Tactic.Common

namespace CanvasPress

/-- A search finds the one element that meets its condition. -/
theorem find?_of_unique {β : Type} {p : β → Bool} {l : List β} {b : β} (hmem : b ∈ l)
    (hb : p b = true) (hunique : ∀ other ∈ l, p other = true → other = b) :
    l.find? p = some b := by
  obtain ⟨found, hfound⟩ : ∃ found, l.find? p = some found := by
    rw [← Option.isSome_iff_exists, List.find?_isSome]
    exact ⟨b, hmem, hb⟩
  rw [hfound, hunique found (List.mem_of_find?_eq_some hfound) (List.find?_some hfound)]

namespace Cache

variable {α : Type}

/-- An event in the history of a cache. -/
inductive Mark (α : Type) where
  | stored (entry : Entry α)
  | cleared

/-- What is left under a key after one more event. -/
def remember (key : String) (found : Option (Entry α)) : Mark α → Option (Entry α)
  | .stored entry => if entry.key = key then some entry else found
  | .cleared => none

/-- What was stored under a key last and not cleared since, fresh or not.  Histories
list the oldest event first. -/
def latest? (key : String) (history : List (Mark α)) : Option (Entry α) :=
  history.foldl (remember key) none

@[simp]
theorem latest?_nil (key : String) : latest? key ([] : List (Mark α)) = none := rfl

@[simp]
theorem latest?_append_singleton (key : String) (history : List (Mark α)) (mark : Mark α) :
    latest? key (history ++ [mark]) = remember key (latest? key history) mark := by
  simp [latest?]

theorem key_of_latest? {key : String} {history : List (Mark α)} {entry : Entry α}
    (h : latest? key history = some entry) : entry.key = key := by
  induction history using List.reverseRecOn with
  | nil => cases h
  | append_singleton history mark ih =>
      rw [latest?_append_singleton] at h
      cases mark with
      | stored other =>
          rw [remember] at h
          split_ifs at h with hkey
          · cases h
            exact hkey
          · exact ih h
      | cleared => cases h

/-- Where an element stands in a list with another element at its end. -/
theorem append_singleton_eq_append_cons {β : Type} {front before later : List β} {last x : β} :
    front ++ [last] = before ++ x :: later ↔
      (later = [] ∧ front = before ∧ last = x) ∨
        ∃ middle, later = middle ++ [last] ∧ front = before ++ x :: middle := by
  induction later using List.reverseRecOn with
  | nil => simp
  | append_singleton middle other _ =>
      constructor
      · intro h
        rw [← List.cons_append, ← List.append_assoc] at h
        obtain ⟨hfront, hlast⟩ := List.append_inj' h rfl
        cases hlast
        exact .inr ⟨middle, rfl, hfront⟩
      · rintro (⟨hnil, -⟩ | ⟨inner, hinner, rfl⟩)
        · exact absurd hnil (by simp)
        · rw [hinner, ← List.cons_append, ← List.append_assoc]

/-- What is left under a key was stored at some point, and from then on nothing was
cleared and nothing else stored under this key. -/
theorem latest?_eq_some_iff {key : String} {history : List (Mark α)} {entry : Entry α} :
    latest? key history = some entry ↔
      ∃ before later, history = before ++ .stored entry :: later ∧ entry.key = key ∧
        .cleared ∉ later ∧ ∀ other, .stored other ∈ later → other.key ≠ key := by
  induction history using List.reverseRecOn with
  | nil => simp
  | append_singleton history mark ih =>
      simp only [append_singleton_eq_append_cons]
      rw [latest?_append_singleton]
      constructor
      · intro hlatest
        cases mark with
        | cleared => cases hlatest
        | stored other =>
            by_cases hkey : other.key = key
            · rw [remember, if_pos hkey, Option.some_inj] at hlatest
              exact ⟨history, [], .inl ⟨rfl, rfl, by rw [hlatest]⟩, hlatest ▸ hkey, by simp,
                by simp⟩
            · rw [remember, if_neg hkey] at hlatest
              obtain ⟨before, later, rfl, hentry, hkept, hlast⟩ := ih.1 hlatest
              refine ⟨before, later ++ [.stored other], .inr ⟨later, rfl, rfl⟩, hentry,
                by simpa using hkept, fun newer hnewer => ?_⟩
              rcases List.mem_append.1 hnewer with hnewer | hnewer
              · exact hlast newer hnewer
              · cases List.mem_singleton.1 hnewer
                exact hkey
      · rintro ⟨before, later, ⟨rfl, rfl, rfl⟩ | ⟨middle, rfl, rfl⟩, hentry, hkept, hlast⟩
        · rw [remember, if_pos hentry]
        · have hbefore := ih.2 ⟨before, middle, rfl, hentry,
            fun hmem => hkept (List.mem_append_left _ hmem),
            fun newer hnewer => hlast newer (List.mem_append_left _ hnewer)⟩
          cases mark with
          | cleared => exact absurd (List.mem_append_right _ List.mem_cons_self) hkept
          | stored other =>
              have hkey := hlast other (List.mem_append_right _ List.mem_cons_self)
              rw [remember, if_neg hkey, hbefore]

/-- `latest?_eq_some_iff` for a history that is part of a longer one. -/
theorem latest?_filterMap_eq_some_iff {β : Type} {mark? : β → Option (Mark α)} {key : String}
    {events : List β} {entry : Entry α} :
    latest? key (events.filterMap mark?) = some entry ↔
      ∃ before event later, events = before ++ event :: later ∧
        mark? event = some (.stored entry) ∧ entry.key = key ∧
        (∀ newer ∈ later, mark? newer ≠ some .cleared) ∧
        ∀ newer ∈ later, ∀ other, mark? newer = some (.stored other) → other.key ≠ key := by
  rw [latest?_eq_some_iff]
  constructor
  · rintro ⟨before, later, hsplit, hkey, hkept, hlast⟩
    obtain ⟨first, rest, rfl, -, hrest⟩ := List.filterMap_eq_append_iff.1 hsplit
    obtain ⟨skipped, event, behind, rfl, -, hevent, rfl⟩ := List.filterMap_eq_cons_iff.1 hrest
    refine ⟨first ++ skipped, event, behind, (List.append_assoc _ _ _).symm, hevent, hkey,
      fun newer hnewer hcleared => hkept (List.mem_filterMap.2 ⟨newer, hnewer, hcleared⟩),
      fun newer hnewer other hstored => hlast other (List.mem_filterMap.2 ⟨newer, hnewer, hstored⟩)⟩
  · rintro ⟨before, event, later, rfl, hevent, hkey, hkept, hlast⟩
    refine ⟨before.filterMap mark?, later.filterMap mark?, ?_, hkey, fun hcleared => ?_,
      fun other hother => ?_⟩
    · rw [List.filterMap_append, List.filterMap_cons, hevent]
    · obtain ⟨newer, hnewer, hmark⟩ := List.mem_filterMap.1 hcleared
      exact hkept newer hnewer hmark
    · obtain ⟨newer, hnewer, hmark⟩ := List.mem_filterMap.1 hother
      exact hlast newer hnewer other hmark

/-! ## What a lookup comes to -/

/-- What a lookup finds, and what becomes of the cache. -/
inductive Looks (cache : Cache α) (now : Nat) (key : String) (least : Level) :
    Lookup α × Cache α → Prop where
  | wedged (hwedged : cache.wedged = true) : Looks cache now key least (.miss, cache)
  | absent (hintact : cache.wedged = false) (hentry : cache.entry? key = none) :
      Looks cache now key least (.miss, cache)
  | found {entry : Entry α} (hintact : cache.wedged = false)
      (hentry : cache.entry? key = some entry)
      (hfresh : isFresh cache.expiry now entry = true) :
      Looks cache now key least (.hit entry.value, cache)
  | dropped {entry : Entry α} (hintact : cache.wedged = false)
      (hentry : cache.entry? key = some entry)
      (hstale : isFresh cache.expiry now entry = false) (hnamed : stumbles least key = false) :
      Looks cache now key least (.miss, { cache with entries := cache.without key })
  | aborted {entry : Entry α} (hintact : cache.wedged = false)
      (hentry : cache.entry? key = some entry)
      (hstale : isFresh cache.expiry now entry = false) (hunnamed : stumbles least key = true) :
      Looks cache now key least (.aborted (Text.splitReport 8 key), { cache with wedged := true })

theorem looks_get (cache : Cache α) (now : Nat) (key : String) (least : Level) :
    Looks cache now key least (cache.get now key least) := by
  unfold get
  by_cases hwedged : cache.wedged = true
  · rw [if_pos hwedged]
    exact .wedged hwedged
  · have hintact : cache.wedged = false := by simpa using hwedged
    rw [if_neg hwedged]
    cases hentry : cache.entry? key with
    | none => exact .absent hintact hentry
    | some entry =>
        dsimp only
        split_ifs with hfresh hunnamed
        · exact .found hintact hentry hfresh
        · exact .aborted hintact hentry (by simpa using hfresh) hunnamed
        · exact .dropped hintact hentry (by simpa using hfresh) (by simpa using hunnamed)

theorem not_stumbles {key : String} (hname : (shortKey? key).isSome) (least : Level) :
    stumbles least key = false := by
  obtain ⟨name, hname⟩ := Option.isSome_iff_exists.1 hname
  simp [stumbles, hname]

/-- Under a key that has a name, it does not matter to a lookup what the log keeps. -/
theorem get_eq_of_isSome {key : String} (hname : (shortKey? key).isSome) (cache : Cache α)
    (now : Nat) (least least' : Level) : cache.get now key least = cache.get now key least' := by
  simp only [get, not_stumbles hname]

section Expiry

variable (cache : Cache α) (now : Nat) (key : String) {least : Level}

@[simp]
theorem expiry_get : (cache.get now key least).2.expiry = cache.expiry := by
  have hlooks := looks_get cache now key least
  generalize cache.get now key least = result at hlooks ⊢
  cases hlooks <;> rfl

@[simp]
theorem expiry_put (value : α) : (cache.put now key value).expiry = cache.expiry := by
  unfold put
  split_ifs <;> rfl

@[simp]
theorem expiry_purge : (cache.purge now).expiry = cache.expiry := by
  unfold purge
  split_ifs <;> rfl

@[simp]
theorem expiry_clear : cache.clear.expiry = cache.expiry := by
  unfold clear
  split_ifs <;> rfl

end Expiry

section Entries

variable (cache : Cache α) (now : Nat) (key : String) {least : Level}

theorem entries_get_subset : (cache.get now key least).2.entries ⊆ cache.entries := by
  have hlooks := looks_get cache now key least
  generalize cache.get now key least = result at hlooks ⊢
  cases hlooks with
  | dropped => exact List.filter_sublist.subset
  | _ => exact List.Subset.refl _

theorem entries_put_subset (value : α) :
    (cache.put now key value).entries ⊆ ⟨key, value, now⟩ :: cache.entries := by
  unfold put
  split_ifs
  · exact List.subset_cons_self _ _
  · exact List.cons_subset_cons _ (List.filter_sublist.subset)

theorem entries_purge_subset : (cache.purge now).entries ⊆ cache.entries := by
  unfold purge
  split_ifs
  · exact List.Subset.refl _
  · exact List.filter_sublist.subset

theorem entries_clear_subset : cache.clear.entries ⊆ cache.entries := by
  unfold clear
  split_ifs
  · exact List.Subset.refl _
  · exact List.nil_subset _

end Entries

/-- Whether something is fresh does not improve with time. -/
theorem isFresh_of_later {expiry now later : Nat} (h : now ≤ later) {entry : Entry α}
    (hfresh : isFresh expiry later entry = true) : isFresh expiry now entry = true := by
  simp only [isFresh, decide_eq_true_eq] at hfresh ⊢
  omega

section Hit

variable {cache : Cache α} {now : Nat} {key : String} {least : Level} {value : α}

/-- What a lookup finds is the value of the entry under the key, which is fresh. -/
theorem entry?_of_hit (hhit : (cache.get now key least).1 = .hit value) :
    cache.wedged = false ∧ ∃ entry, cache.entry? key = some entry ∧
      isFresh cache.expiry now entry = true ∧ entry.value = value := by
  have hlooks := looks_get cache now key least
  generalize cache.get now key least = result at hlooks hhit
  cases hlooks with
  | found hintact hentry hfresh =>
      cases hhit
      exact ⟨hintact, _, hentry, hfresh, rfl⟩
  | _ => cases hhit

/-- A lookup that finds something leaves the cache as it is. -/
theorem get_of_hit (hhit : (cache.get now key least).1 = .hit value) :
    cache.get now key least = (.hit value, cache) := by
  obtain ⟨hintact, entry, hentry, hfresh, rfl⟩ := entry?_of_hit hhit
  simp [get, hintact, hentry, hfresh]

theorem mem_entries_of_hit (hhit : (cache.get now key least).1 = .hit value) :
    ∃ entry ∈ cache.entries, entry.value = value := by
  obtain ⟨-, entry, hentry, -, hvalue⟩ := entry?_of_hit hhit
  exact ⟨entry, List.mem_of_find?_eq_some hentry, hvalue⟩

end Hit

/-- The entry under a key is the one with this key, if there is one entry for a key. -/
theorem entry?_eq_some_iff_of_single {cache : Cache α} {key : String} {entry : Entry α}
    (hsingle : ∀ first ∈ cache.entries, ∀ second ∈ cache.entries,
      first.key = second.key → first = second) :
    cache.entry? key = some entry ↔ entry ∈ cache.entries ∧ entry.key = key := by
  constructor
  · intro hentry
    exact ⟨List.mem_of_find?_eq_some hentry, by simpa using List.find?_some hentry⟩
  · rintro ⟨hmem, rfl⟩
    exact find?_of_unique hmem (beq_self_eq_true _) fun other hother hkey =>
      hsingle other hother entry hmem (beq_iff_eq.1 hkey)

/-- The cache holds what its history left, except for what is stale. -/
structure Mirrors (cache : Cache α) (now : Nat) (history : List (Mark α)) : Prop where
  intact : cache.wedged = false
  sound : ∀ entry ∈ cache.entries, latest? entry.key history = some entry
  complete : ∀ key entry, latest? key history = some entry →
    isFresh cache.expiry now entry = true → entry ∈ cache.entries

theorem mirrors_empty (expiry now : Nat) : (empty expiry : Cache α).Mirrors now [] where
  intact := rfl
  sound _ hentry := by cases hentry
  complete _ _ hlatest := by cases hlatest

namespace Mirrors

variable {cache : Cache α} {now : Nat} {history : List (Mark α)} {key : String}

theorem mono (h : cache.Mirrors now history) {later : Nat} (hlater : now ≤ later) :
    cache.Mirrors later history where
  intact := h.intact
  sound := h.sound
  complete key entry hlatest hfresh := h.complete key entry hlatest (isFresh_of_later hlater hfresh)

/-- Dropping entries that are stale, for whatever reason, goes unnoticed. -/
theorem of_sublist (h : cache.Mirrors now history) {entries : List (Entry α)}
    (hsub : ∀ entry ∈ entries, entry ∈ cache.entries)
    (hkept : ∀ entry ∈ cache.entries, isFresh cache.expiry now entry = true → entry ∈ entries) :
    ({ cache with entries := entries } : Cache α).Mirrors now history where
  intact := h.intact
  sound entry hentry := h.sound entry (hsub entry hentry)
  complete key entry hlatest hfresh :=
    hkept entry (h.complete key entry hlatest hfresh) hfresh

theorem entry?_eq_some_iff (h : cache.Mirrors now history) {entry : Entry α} :
    cache.entry? key = some entry ↔ entry ∈ cache.entries ∧ entry.key = key := by
  refine entry?_eq_some_iff_of_single fun first hfirst second hsecond hkey => ?_
  -- Both entries are what the history left under the key.
  have hboth := h.sound second hsecond
  rw [← hkey, h.sound first hfirst] at hboth
  exact Option.some.inj hboth

theorem put (h : cache.Mirrors now history) (key : String) (value : α) :
    (cache.put now key value).Mirrors now (history ++ [.stored ⟨key, value, now⟩]) := by
  have hput : cache.put now key value =
      { cache with entries := ⟨key, value, now⟩ :: cache.without key } := by
    simp [Cache.put, h.intact]
  rw [hput]
  refine ⟨h.intact, fun entry hentry => ?_, fun other entry hlatest hfresh => ?_⟩
  · rcases List.mem_cons.1 hentry with rfl | hentry
    · simp [remember]
    · obtain ⟨hmem, hkey⟩ := List.mem_filter.1 hentry
      rw [latest?_append_singleton, remember, if_neg fun hsame => bne_iff_ne.1 hkey hsame.symm]
      exact h.sound entry hmem
  · have hkey := key_of_latest? hlatest
    rw [latest?_append_singleton, remember] at hlatest
    split_ifs at hlatest with hsame
    · cases hlatest
      exact List.mem_cons_self
    · have hmem := h.complete other entry hlatest hfresh
      exact List.mem_cons_of_mem _ (List.mem_filter.2
        ⟨hmem, bne_iff_ne.2 fun hother => hsame (hother.symm.trans hkey)⟩)

theorem clear (h : cache.Mirrors now history) :
    cache.clear.Mirrors now (history ++ [.cleared]) := by
  have hclear : cache.clear = { cache with entries := [] } := by simp [Cache.clear, h.intact]
  rw [hclear]
  refine ⟨h.intact, fun entry hentry => (by cases hentry), fun key entry hlatest => ?_⟩
  rw [latest?_append_singleton] at hlatest
  cases hlatest

theorem purge (h : cache.Mirrors now history) : (cache.purge now).Mirrors now history := by
  have hpurge : cache.purge now =
      { cache with entries := cache.entries.filter (isFresh cache.expiry now) } := by
    simp [Cache.purge, h.intact]
  rw [hpurge]
  exact h.of_sublist (fun entry hentry => (List.mem_filter.1 hentry).1)
    fun entry hentry hfresh => List.mem_filter.2 ⟨hentry, hfresh⟩

/-- The entry under a key is what the history left there, if anything is. -/
theorem latest?_of_entry? (h : cache.Mirrors now history) {entry : Entry α}
    (hentry : cache.entry? key = some entry) : latest? key history = some entry := by
  obtain ⟨hmem, rfl⟩ := h.entry?_eq_some_iff.1 hentry
  exact h.sound entry hmem

/-- What a lookup does, by the history: it finds what is fresh, and it drops what is
stale under the key, if anything is. -/
theorem get_cases (h : cache.Mirrors now history) (hname : (shortKey? key).isSome) :
    (∃ entry, latest? key history = some entry ∧ isFresh cache.expiry now entry = true ∧
        cache.get now key = (.hit entry.value, cache)) ∨
      ((∀ entry, latest? key history = some entry → isFresh cache.expiry now entry = false) ∧
        ∃ entries, cache.get now key = (.miss, { cache with entries := entries }) ∧
          (entries = cache.entries ∨ entries = cache.without key)) := by
  have hlooks := looks_get cache now key .debug
  generalize cache.get now key = result at hlooks ⊢
  cases hlooks with
  | wedged hwedged =>
      rw [h.intact] at hwedged
      cases hwedged
  | absent hintact hentry =>
      refine .inr ⟨fun entry hlatest => ?_, cache.entries, rfl, .inl rfl⟩
      by_contra hfresh
      have hmem := h.complete key entry hlatest (by simpa using hfresh)
      have hsome := h.entry?_eq_some_iff.2 ⟨hmem, key_of_latest? hlatest⟩
      rw [hentry] at hsome
      cases hsome
  | found hintact hentry hfresh =>
      exact .inl ⟨_, h.latest?_of_entry? hentry, hfresh, rfl⟩
  | dropped hintact hentry hstale =>
      refine .inr ⟨fun other hother => ?_, cache.without key, rfl, .inr rfl⟩
      rw [h.latest?_of_entry? hentry] at hother
      cases hother
      exact hstale
  | aborted hintact hentry hstale hunnamed =>
      rw [not_stumbles hname] at hunnamed
      cases hunnamed

/-- Lookups in caches that mirror one history find the same. -/
theorem get_agree {cache' : Cache α} (h : cache.Mirrors now history)
    (h' : cache'.Mirrors now history) (hexpiry : cache.expiry = cache'.expiry)
    (hname : (shortKey? key).isSome) : (cache.get now key).1 = (cache'.get now key).1 := by
  rcases h.get_cases hname with ⟨entry, hlatest, hfresh, hget⟩ | ⟨hstale, _, hget, -⟩ <;>
    rcases h'.get_cases hname with ⟨entry', hlatest', hfresh', hget'⟩ | ⟨hstale', _, hget', -⟩ <;>
    rw [hget, hget']
  · rw [hlatest] at hlatest'
    cases hlatest'
    rfl
  · rw [hexpiry, hstale' entry hlatest] at hfresh
    cases hfresh
  · rw [← hexpiry, hstale entry' hlatest'] at hfresh'
    cases hfresh'

/-- A lookup leaves the history as it is. -/
theorem get (h : cache.Mirrors now history) (hname : (shortKey? key).isSome) :
    (cache.get now key).2.Mirrors now history := by
  rcases h.get_cases hname with ⟨entry, -, -, hget⟩ | ⟨hstale, entries, hget, rfl | rfl⟩
  · rw [hget]
    exact h
  · rw [hget]
    exact h
  · rw [hget]
    refine h.of_sublist (fun entry hentry => (List.mem_filter.1 hentry).1)
      fun entry hentry hfresh => List.mem_filter.2 ⟨hentry, ?_⟩
    -- A fresh entry is under another key, since what is under this one is stale.
    by_contra hkey
    have hkey : entry.key = key := by simpa using hkey
    have hstale := hstale entry (hkey ▸ h.sound entry hentry)
    rw [hfresh] at hstale
    cases hstale

end Mirrors

/-! ## One entry for a key -/

/-- A cache in order, whose entries live for a given time, one for a key. -/
structure Stocked (expiry : Nat) (cache : Cache α) : Prop where
  intact : cache.wedged = false
  lifetime : cache.expiry = expiry
  single : ∀ entry ∈ cache.entries, ∀ other ∈ cache.entries, entry.key = other.key → entry = other

theorem stocked_empty (expiry : Nat) : (empty expiry : Cache α).Stocked expiry where
  intact := rfl
  lifetime := rfl
  single _ hentry := by cases hentry

theorem mem_entries_put_of_ne {cache : Cache α} {now : Nat} {key : String} {value : α}
    {entry : Entry α} (hentry : entry ∈ cache.entries) (hkey : entry.key ≠ key) :
    entry ∈ (cache.put now key value).entries := by
  unfold put
  split_ifs
  · exact hentry
  · exact List.mem_cons_of_mem _ (List.mem_filter.2 ⟨hentry, bne_iff_ne.2 hkey⟩)

theorem mem_entries_purge_of_fresh {cache : Cache α} {now : Nat} {entry : Entry α}
    (hentry : entry ∈ cache.entries) (hfresh : isFresh cache.expiry now entry = true) :
    entry ∈ (cache.purge now).entries := by
  unfold purge
  split_ifs
  · exact hentry
  · exact List.mem_filter.2 ⟨hentry, hfresh⟩

namespace Stocked

variable {cache cache' : Cache α} {expiry : Nat}

theorem of_subset (h : cache.Stocked expiry) (hintact : cache'.wedged = false)
    (hlifetime : cache'.expiry = cache.expiry) (hsub : cache'.entries ⊆ cache.entries) :
    cache'.Stocked expiry where
  intact := hintact
  lifetime := hlifetime.trans h.lifetime
  single entry hentry other hother := h.single entry (hsub hentry) other (hsub hother)

theorem purge (h : cache.Stocked expiry) (now : Nat) : (cache.purge now).Stocked expiry := by
  refine h.of_subset ?_ (expiry_purge _ _) (entries_purge_subset _ _)
  rw [Cache.purge, if_neg (by simp [h.intact])]
  exact h.intact

theorem clear (h : cache.Stocked expiry) : cache.clear.Stocked expiry := by
  refine h.of_subset ?_ (expiry_clear _) (entries_clear_subset _)
  rw [Cache.clear, if_neg (by simp [h.intact])]
  exact h.intact

/-- A lookup under a key that has a name leaves the cache in order. -/
theorem get (h : cache.Stocked expiry) (now : Nat) {key : String}
    (hname : (shortKey? key).isSome) : (cache.get now key).2.Stocked expiry := by
  refine h.of_subset ?_ (expiry_get _ _ _) (entries_get_subset _ _ _)
  have hlooks := looks_get cache now key .debug
  generalize cache.get now key = result at hlooks ⊢
  cases hlooks with
  | aborted _ _ _ hunnamed =>
      rw [not_stumbles hname] at hunnamed
      cases hunnamed
  | _ => exact h.intact

theorem put (h : cache.Stocked expiry) (now : Nat) (key : String) (value : α) :
    (cache.put now key value).Stocked expiry := by
  unfold Cache.put
  split_ifs
  · exact h
  · refine ⟨h.intact, h.lifetime, fun entry hentry other hother hsame => ?_⟩
    have hold {old : Entry α} (hmem : old ∈ cache.without key) :
        old ∈ cache.entries ∧ old.key ≠ key :=
      (List.mem_filter.1 hmem).imp_right bne_iff_ne.1
    rcases List.mem_cons.1 hentry with rfl | hentry <;>
      rcases List.mem_cons.1 hother with rfl | hother
    · rfl
    · exact absurd hsame.symm (hold hother).2
    · exact absurd hsame (hold hentry).2
    · exact h.single entry (hold hentry).1 other (hold hother).1 hsame

/-- A lookup loses nothing but what is stale under its key. -/
theorem mem_entries_get (h : cache.Stocked expiry) (now : Nat) (key : String) {entry : Entry α}
    (hentry : entry ∈ cache.entries) :
    entry ∈ (cache.get now key).2.entries ∨ entry.key = key ∧ isFresh expiry now entry = false := by
  have hlooks := looks_get cache now key .debug
  generalize cache.get now key = result at hlooks ⊢
  cases hlooks with
  | @dropped found _ hfound hstale =>
      by_cases hkey : entry.key = key
      · have hfoundKey : found.key = key := by simpa using List.find?_some hfound
        have hsame : entry = found :=
          h.single entry hentry found (List.mem_of_find?_eq_some hfound)
            (hkey.trans hfoundKey.symm)
        rw [← hsame, h.lifetime] at hstale
        exact .inr ⟨hkey, hstale⟩
      · exact .inl (List.mem_filter.2 ⟨hentry, bne_iff_ne.2 hkey⟩)
  | _ => exact .inl hentry

end Stocked

end Cache

end CanvasPress

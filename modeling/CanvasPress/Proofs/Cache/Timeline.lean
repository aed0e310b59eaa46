/-
# A cache over a sequence of operations

A cache is asked for things one after the other, each at its time.  What it keeps is a
matter of the operations alone: an entry is held from when it is stored until something
drops it, be it another entry under its key, a clearing, or a lookup or a sweep that finds
it too old.  Since lookups and sweeps drop nothing that is fresh, what a lookup finds is a
matter of what was stored and cleared, and neither earlier lookups nor sweeps show.

All this ends with a lookup that is aborted.  That happens exactly when the entry under the
key is too old, the key has no name and the log asks for one; the cache is wedged from then
on.  A log without lines for debugging asks for none, and there the cache is a timed map under
all keys.
-/

import CanvasPress.Proofs.Cache.History
import Mathlib.Data.Set.Card

namespace CanvasPress.Cache

variable {α : Type} {cache : Cache α} {expiry now : Nat} {entry : Entry α} {key : String}

/-- What may be asked of a cache.  What the log keeps may be another at every lookup. -/
inductive Operation (α : Type) where
  | put (key : String) (value : α)
  | get (key : String) (least : Level)
  | purge
  | clear

/-- The cache after an operation at a time. -/
def apply (cache : Cache α) (now : Nat) : Operation α → Cache α
  | .put key value => cache.put now key value
  | .get key least => (cache.get now key least).2
  | .purge => cache.purge now
  | .clear => cache.clear

/-- The cache after operations in order, each at its time. -/
def run (cache : Cache α) (operations : List (Nat × Operation α)) : Cache α :=
  operations.foldl (fun cache timed => cache.apply timed.1 timed.2) cache

variable {operations : List (Nat × Operation α)}

theorem run_append_singleton (cache : Cache α) (operations : List (Nat × Operation α)) (now : Nat)
    (operation : Operation α) :
    cache.run (operations ++ [(now, operation)]) = (cache.run operations).apply now operation := by
  simp [run]

/-- What an operation adds to the history of the cache. -/
def markOf? : Nat × Operation α → Option (Mark α)
  | (now, .put key value) => some (.stored ⟨key, value, now⟩)
  | (_, .clear) => some .cleared
  | _ => none

/-- The operations that add something to the history. -/
def writes (operations : List (Nat × Operation α)) : List (Nat × Operation α) :=
  operations.filter fun timed => (markOf? timed).isSome

/-! ## What is held -/

/-- The operation takes an entry out of a cache whose entries live for a given time. -/
def Drops (expiry : Nat) (entry : Entry α) : Nat × Operation α → Prop
  | (_, .put key _) => key = entry.key
  | (now, .get key _) => key = entry.key ∧ expiry < now - entry.stored
  | (now, .purge) => expiry < now - entry.stored
  | (_, .clear) => True

/-- An entry was stored by one of the operations, and none of those after it has dropped
it. -/
def Holds (expiry : Nat) (operations : List (Nat × Operation α)) (entry : Entry α) : Prop :=
  ∃ before later, operations = before ++ (entry.stored, .put entry.key entry.value) :: later ∧
    ∀ timed ∈ later, ¬ Drops expiry entry timed

/-- The keys under which something is held. -/
def heldKeys (expiry : Nat) (operations : List (Nat × Operation α)) : Set String :=
  {key | ∃ entry, Holds expiry operations entry ∧ entry.key = key}

/-- After the operations a lookup would meet an entry that is too old, and could not name
it in a log that keeps lines for debugging. -/
def Aborts (expiry : Nat) (operations : List (Nat × Operation α)) (now : Nat) (key : String)
    (least : Level) : Prop :=
  stumbles least key = true ∧
    ∃ entry, Holds expiry operations entry ∧ entry.key = key ∧ expiry < now - entry.stored

theorem not_holds_nil : ¬ Holds expiry ([] : List (Nat × Operation α)) entry := by
  rintro ⟨before, later, hsplit, -⟩
  exact absurd hsplit (by simp)

/-- One more operation: it stores the entry, or the entry was held and is not dropped. -/
theorem holds_append_singleton {operation : Operation α} :
    Holds expiry (operations ++ [(now, operation)]) entry ↔
      (now, operation) = (entry.stored, .put entry.key entry.value) ∨
        Holds expiry operations entry ∧ ¬ Drops expiry entry (now, operation) := by
  simp only [Holds, append_singleton_eq_append_cons]
  constructor
  · rintro ⟨before, later, ⟨rfl, rfl, hstored⟩ | ⟨middle, rfl, rfl⟩, hkept⟩
    · exact .inl hstored
    · have hlast := hkept (now, operation) (List.mem_append_right _ List.mem_cons_self)
      have hmiddle := fun timed htimed => hkept timed (List.mem_append_left _ htimed)
      exact .inr ⟨⟨before, middle, rfl, hmiddle⟩, hlast⟩
  · rintro (hstored | ⟨⟨before, later, rfl, hkept⟩, hlast⟩)
    · exact ⟨operations, [], .inl ⟨rfl, rfl, hstored⟩, by simp⟩
    · refine ⟨before, later ++ [(now, operation)], .inr ⟨later, rfl, rfl⟩, fun timed htimed => ?_⟩
      rcases List.mem_append.1 htimed with htimed | htimed
      · exact hkept timed htimed
      · rw [List.mem_singleton.1 htimed]
        exact hlast

theorem isFresh_iff : isFresh expiry now entry = true ↔ now - entry.stored ≤ expiry := by
  simp [isFresh]

theorem not_isFresh_iff : isFresh expiry now entry = false ↔ expiry < now - entry.stored := by
  rw [← Bool.not_eq_true, isFresh_iff, Nat.not_le]

/-- Nothing that is fresh at a time has been dropped before for its age, so what is held and
fresh is what the history left. -/
theorem holds_iff_latest? (htimes : ∀ timed ∈ operations, timed.1 ≤ now)
    (hfresh : now - entry.stored ≤ expiry) :
    Holds expiry operations entry ↔
      latest? entry.key (operations.filterMap markOf?) = some entry := by
  rw [latest?_filterMap_eq_some_iff]
  constructor
  · rintro ⟨before, later, rfl, hkept⟩
    refine ⟨before, _, later, rfl, rfl, rfl, fun timed htimed hcleared => ?_,
      fun timed htimed other hstored hkey => ?_⟩
    · obtain ⟨time, operation⟩ := timed
      cases operation with
      | clear => exact hkept _ htimed trivial
      | _ => cases hcleared
    · obtain ⟨time, operation⟩ := timed
      cases operation with
      | put otherKey value =>
          cases hstored
          exact hkept _ htimed hkey
      | _ => cases hstored
  · rintro ⟨before, ⟨time, operation⟩, later, rfl, hevent, -, huncleared, hunstored⟩
    cases operation with
    | put otherKey value =>
        cases hevent
        refine ⟨before, later, rfl, fun timed htimed hdrops => ?_⟩
        have htime := htimes timed (List.mem_append_right _ (List.mem_cons_of_mem _ htimed))
        obtain ⟨laterTime, laterOperation⟩ := timed
        cases laterOperation with
        | put laterKey laterValue => exact hunstored _ htimed _ rfl hdrops
        | get laterKey least =>
            have hold : expiry < laterTime - time := hdrops.2
            dsimp only at htime hfresh
            omega
        | purge =>
            have hold : expiry < laterTime - time := hdrops
            dsimp only at htime hfresh
            omega
        | clear => exact huncleared _ htimed rfl
    | _ => cases hevent

/-! ## What a cache keeps -/

/-- A cache that is intact and keeps what the operations left it with, one entry for a key. -/
structure Reflects (expiry : Nat) (operations : List (Nat × Operation α)) (cache : Cache α) :
    Prop where
  intact : cache.wedged = false
  lifetime : cache.expiry = expiry
  single : (cache.entries.map Entry.key).Nodup
  held : ∀ entry, entry ∈ cache.entries ↔ Holds expiry operations entry

theorem reflects_empty (expiry : Nat) : (empty expiry : Cache α).Reflects expiry [] where
  intact := rfl
  lifetime := rfl
  single := List.nodup_nil
  held _ := ⟨fun hentry => absurd hentry List.not_mem_nil,
    fun hholds => absurd hholds not_holds_nil⟩

namespace Reflects

theorem eq_of_key (h : cache.Reflects expiry operations) {other : Entry α}
    (hentry : entry ∈ cache.entries) (hother : other ∈ cache.entries)
    (hkey : entry.key = other.key) : entry = other :=
  List.inj_on_of_nodup_map h.single hentry hother hkey

theorem entry?_eq_some_iff (h : cache.Reflects expiry operations) :
    cache.entry? key = some entry ↔ Holds expiry operations entry ∧ entry.key = key := by
  rw [← h.held]
  exact entry?_eq_some_iff_of_single fun first hfirst second hsecond => h.eq_of_key hfirst hsecond

theorem entry?_eq_none_iff (h : cache.Reflects expiry operations) :
    cache.entry? key = none ↔ ∀ entry, Holds expiry operations entry → entry.key ≠ key := by
  rw [Option.eq_none_iff_forall_ne_some]
  constructor
  · intro hnone entry hholds hkey
    have hsome := h.entry?_eq_some_iff.2 ⟨hholds, hkey⟩
    exact hnone entry hsome
  · intro hnone entry hentry
    obtain ⟨hholds, hkey⟩ := h.entry?_eq_some_iff.1 hentry
    exact hnone entry hholds hkey

/-- What a lookup comes to. -/
theorem get_cases (h : cache.Reflects expiry operations) (now : Nat) (key : String)
    (least : Level) :
    (∃ entry, Holds expiry operations entry ∧ entry.key = key ∧ now - entry.stored ≤ expiry ∧
        cache.get now key least = (.hit entry.value, cache)) ∨
      ((∀ entry, Holds expiry operations entry → entry.key ≠ key) ∧
        cache.get now key least = (.miss, cache)) ∨
      ∃ entry, Holds expiry operations entry ∧ entry.key = key ∧ expiry < now - entry.stored ∧
        ((stumbles least key = false ∧
            cache.get now key least = (.miss, { cache with entries := cache.without key })) ∨
          stumbles least key = true ∧
            cache.get now key least =
              (.aborted (Text.splitReport 8 key), { cache with wedged := true })) := by
  have hlooks := looks_get cache now key least
  generalize cache.get now key least = result at hlooks ⊢
  cases hlooks with
  | wedged hwedged =>
      rw [h.intact] at hwedged
      cases hwedged
  | absent hintact hentry => exact .inr (.inl ⟨h.entry?_eq_none_iff.1 hentry, rfl⟩)
  | found hintact hentry hfresh =>
      obtain ⟨hholds, hkey⟩ := h.entry?_eq_some_iff.1 hentry
      rw [h.lifetime] at hfresh
      exact .inl ⟨_, hholds, hkey, isFresh_iff.1 hfresh, rfl⟩
  | dropped hintact hentry hstale hnamed =>
      obtain ⟨hholds, hkey⟩ := h.entry?_eq_some_iff.1 hentry
      rw [h.lifetime] at hstale
      exact .inr (.inr ⟨_, hholds, hkey, not_isFresh_iff.1 hstale, .inl ⟨hnamed, rfl⟩⟩)
  | aborted hintact hentry hstale hunnamed =>
      obtain ⟨hholds, hkey⟩ := h.entry?_eq_some_iff.1 hentry
      rw [h.lifetime] at hstale
      exact .inr (.inr ⟨_, hholds, hkey, not_isFresh_iff.1 hstale, .inr ⟨hunnamed, rfl⟩⟩)

/-- An operation that stores nothing leaves what it does not drop. -/
theorem keeps {operation : Operation α} (h : cache.Reflects expiry operations)
    {entries : List (Entry α)} (hsub : entries.Sublist cache.entries)
    (hput : ∀ key value, operation ≠ .put key value)
    (hkept : ∀ entry ∈ cache.entries,
      entry ∈ entries ↔ ¬ Drops expiry entry (now, operation)) :
    ({ cache with entries := entries } : Cache α).Reflects expiry
      (operations ++ [(now, operation)]) where
  intact := h.intact
  lifetime := h.lifetime
  single := h.single.sublist (hsub.map Entry.key)
  held entry := by
    rw [holds_append_singleton, ← h.held]
    constructor
    · intro hentry
      have hmem := hsub.subset hentry
      exact .inr ⟨hmem, (hkept entry hmem).1 hentry⟩
    · rintro (hstored | ⟨hmem, hstays⟩)
      · exact absurd (Prod.mk.inj hstored).2 (hput _ _)
      · exact (hkept entry hmem).2 hstays

theorem put (h : cache.Reflects expiry operations) (now : Nat) (key : String) (value : α) :
    (cache.put now key value).Reflects expiry (operations ++ [(now, .put key value)]) := by
  have hput : cache.put now key value =
      { cache with entries := ⟨key, value, now⟩ :: cache.without key } := by
    simp [Cache.put, h.intact]
  rw [hput]
  refine ⟨h.intact, h.lifetime, ?_, fun entry => ?_⟩
  · have hothers : ((cache.without key).map Entry.key).Nodup :=
      h.single.sublist (List.filter_sublist.map Entry.key)
    refine List.nodup_cons.2 ⟨fun hmem => ?_, hothers⟩
    obtain ⟨other, hother, hkey⟩ := List.mem_map.1 hmem
    exact bne_iff_ne.1 (List.mem_filter.1 hother).2 hkey
  · rw [holds_append_singleton, ← h.held, List.mem_cons, without, List.mem_filter, bne_iff_ne]
    constructor
    · rintro (rfl | ⟨hmem, hkey⟩)
      · exact .inl rfl
      · exact .inr ⟨hmem, fun hsame => hkey hsame.symm⟩
    · rintro (hstored | ⟨hmem, hstays⟩)
      · cases hstored
        exact .inl rfl
      · exact .inr ⟨hmem, fun hsame => hstays hsame.symm⟩

/-- A lookup that is not aborted drops what is too old under its key. -/
theorem get (h : cache.Reflects expiry operations) (now : Nat) (key : String) (least : Level)
    (hintact : (cache.get now key least).2.wedged = false) :
    (cache.get now key least).2.Reflects expiry (operations ++ [(now, .get key least)]) := by
  have hsame (hfresh : ∀ entry, Holds expiry operations entry → entry.key = key →
      now - entry.stored ≤ expiry) :
      cache.Reflects expiry (operations ++ [(now, .get key least)]) := by
    refine h.keeps (List.Sublist.refl _) (by simp) fun entry hentry => ?_
    refine ⟨fun _ hdrops => ?_, fun _ => hentry⟩
    have hyoung := hfresh entry ((h.held entry).1 hentry) hdrops.1.symm
    exact Nat.not_lt.2 hyoung hdrops.2
  rcases h.get_cases now key least with ⟨entry, hholds, hkey, hfresh, hget⟩ | ⟨hnone, hget⟩ |
    ⟨entry, hholds, hkey, hold, ⟨-, hget⟩ | ⟨-, hget⟩⟩
  · rw [hget]
    refine hsame fun other hother hotherKey => ?_
    have hequal := h.eq_of_key ((h.held other).2 hother) ((h.held entry).2 hholds)
      (hotherKey.trans hkey.symm)
    exact hequal ▸ hfresh
  · rw [hget]
    exact hsame fun other hother hotherKey => absurd hotherKey (hnone other hother)
  · rw [hget]
    refine h.keeps List.filter_sublist (by simp) fun other hother => ?_
    rw [without, List.mem_filter, bne_iff_ne]
    constructor
    · rintro ⟨-, hapart⟩ hdrops
      exact hapart hdrops.1.symm
    · intro hstays
      refine ⟨hother, fun hotherKey => hstays ⟨hotherKey.symm, ?_⟩⟩
      have hequal := h.eq_of_key hother ((h.held entry).2 hholds) (hotherKey.trans hkey.symm)
      exact hequal ▸ hold
  · rw [hget] at hintact
    cases hintact

theorem purge (h : cache.Reflects expiry operations) (now : Nat) :
    (cache.purge now).Reflects expiry (operations ++ [(now, .purge)]) := by
  have hpurge : cache.purge now =
      { cache with entries := cache.entries.filter (isFresh expiry now) } := by
    simp [Cache.purge, h.intact, h.lifetime]
  rw [hpurge]
  refine h.keeps List.filter_sublist (by simp) fun entry hentry => ?_
  rw [List.mem_filter, isFresh_iff, ← Nat.not_lt]
  exact ⟨fun hstays => hstays.2, fun hstays => ⟨hentry, hstays⟩⟩

theorem clear (h : cache.Reflects expiry operations) (now : Nat) :
    cache.clear.Reflects expiry (operations ++ [(now, .clear)]) := by
  have hclear : cache.clear = { cache with entries := [] } := by simp [Cache.clear, h.intact]
  rw [hclear]
  refine h.keeps (List.nil_sublist _) (by simp) fun entry _ => ?_
  exact ⟨fun hmem => absurd hmem List.not_mem_nil, fun hstays => absurd trivial hstays⟩

/-- Every operation that leaves the cache intact leaves it with what it should hold. -/
theorem apply (h : cache.Reflects expiry operations) (now : Nat) (operation : Operation α)
    (hintact : (cache.apply now operation).wedged = false) :
    (cache.apply now operation).Reflects expiry (operations ++ [(now, operation)]) := by
  cases operation with
  | put key value => exact h.put now key value
  | get key least => exact h.get now key least hintact
  | purge => exact h.purge now
  | clear => exact h.clear now

end Reflects

/-! ## When lookups are aborted -/

theorem wedged_apply_of_wedged (hwedged : cache.wedged = true) (now : Nat)
    (operation : Operation α) : (cache.apply now operation).wedged = true := by
  cases operation <;> simp [apply, Cache.put, Cache.get, Cache.purge, Cache.clear, hwedged]

/-- An operation wedges an intact cache exactly if it is a lookup that cannot name what it
drops. -/
theorem Reflects.wedged_apply_iff (h : cache.Reflects expiry operations) (now : Nat)
    (operation : Operation α) : (cache.apply now operation).wedged = true ↔
      ∃ key least, operation = .get key least ∧ Aborts expiry operations now key least := by
  cases operation with
  | put key value => simp [Cache.apply, Cache.put, h.intact]
  | purge => simp [Cache.apply, Cache.purge, h.intact]
  | clear => simp [Cache.apply, Cache.clear, h.intact]
  | get key least =>
      simp only [Cache.apply, Operation.get.injEq]
      constructor
      · intro hwedged
        rcases h.get_cases now key least with ⟨_, -, -, -, hget⟩ | ⟨-, hget⟩ |
          ⟨entry, hholds, hkey, hold, ⟨-, hget⟩ | ⟨hunnamed, -⟩⟩
        · simp [hget, h.intact] at hwedged
        · simp [hget, h.intact] at hwedged
        · simp [hget, h.intact] at hwedged
        · exact ⟨key, least, ⟨rfl, rfl⟩, hunnamed, entry, hholds, hkey, hold⟩
      · rintro ⟨_, _, ⟨rfl, rfl⟩, hunnamed, entry, hholds, hkey, hold⟩
        rcases h.get_cases now key least with ⟨other, hother, hotherKey, hfresh, -⟩ |
          ⟨hnone, -⟩ | ⟨_, -, -, -, ⟨hnamed, -⟩ | ⟨-, hget⟩⟩
        · have hequal := h.eq_of_key ((h.held other).2 hother) ((h.held entry).2 hholds)
            (hotherKey.trans hkey.symm)
          rw [hequal] at hfresh
          omega
        · exact absurd hkey (hnone entry hholds)
        · rw [hunnamed] at hnamed
          cases hnamed
        · rw [hget]

/-- A cache that is intact after operations has kept what they left it with. -/
theorem reflects_run (expiry : Nat) (operations : List (Nat × Operation α))
    (hintact : ((empty expiry).run operations).wedged = false) :
    ((empty expiry).run operations).Reflects expiry operations := by
  induction operations using List.reverseRecOn with
  | nil => exact reflects_empty expiry
  | append_singleton before last ih =>
      obtain ⟨now, operation⟩ := last
      rw [run_append_singleton] at hintact ⊢
      have hbefore : ((empty expiry).run before).wedged = false := by
        by_contra hwedged
        rw [wedged_apply_of_wedged (by simpa using hwedged)] at hintact
        cases hintact
      exact (ih hbefore).apply now operation hintact

/-- A cache is wedged exactly if one of the lookups could not name what it dropped. -/
theorem wedged_run_iff (expiry : Nat) (operations : List (Nat × Operation α)) :
    ((empty expiry).run operations).wedged = true ↔
      ∃ before now key least later, operations = before ++ (now, .get key least) :: later ∧
        Aborts expiry before now key least := by
  induction operations using List.reverseRecOn with
  | nil => simp [run, empty]
  | append_singleton before last ih =>
      obtain ⟨now, operation⟩ := last
      rw [run_append_singleton]
      simp only [append_singleton_eq_append_cons]
      cases hbefore : ((empty expiry).run before).wedged with
      | true =>
          obtain ⟨first, time, key, least, later, rfl, haborts⟩ := ih.1 hbefore
          refine ⟨fun _ => ?_, fun _ => wedged_apply_of_wedged hbefore now operation⟩
          exact ⟨first, time, key, least, _, .inr ⟨later, rfl, rfl⟩, haborts⟩
      | false =>
          rw [(reflects_run expiry before hbefore).wedged_apply_iff]
          constructor
          · rintro ⟨key, least, rfl, haborts⟩
            exact ⟨before, now, key, least, [], .inl ⟨rfl, rfl, rfl⟩, haborts⟩
          · rintro ⟨first, time, key, least, later, ⟨rfl, rfl, hlast⟩ | ⟨middle, rfl, rfl⟩,
              haborts⟩
            · cases hlast
              exact ⟨key, least, rfl, haborts⟩
            · have hwedged := ih.2 ⟨first, time, key, least, middle, rfl, haborts⟩
              rw [hbefore] at hwedged
              cases hwedged

/-! ## What lookups find -/

/-- What should be found under a key at a time: what was stored there last and not cleared
since, while it is fresh. -/
def expected? (expiry : Nat) (operations : List (Nat × Operation α)) (now : Nat) (key : String) :
    Option α :=
  ((latest? key (operations.filterMap markOf?)).filter (isFresh expiry now)).map Entry.value

theorem expected?_eq_some_iff {value : α} (htimes : ∀ timed ∈ operations, timed.1 ≤ now) :
    expected? expiry operations now key = some value ↔
      ∃ entry, Holds expiry operations entry ∧ entry.key = key ∧ now - entry.stored ≤ expiry ∧
        entry.value = value := by
  simp only [expected?, Option.map_eq_some_iff, Option.filter_eq_some_iff, isFresh_iff]
  constructor
  · rintro ⟨entry, ⟨hlatest, hfresh⟩, hvalue⟩
    obtain rfl := key_of_latest? hlatest
    exact ⟨entry, (holds_iff_latest? htimes hfresh).2 hlatest, rfl, hfresh, hvalue⟩
  · rintro ⟨entry, hholds, rfl, hfresh, hvalue⟩
    exact ⟨entry, ⟨(holds_iff_latest? htimes hfresh).1 hholds, hfresh⟩, hvalue⟩

theorem filterMap_writes (operations : List (Nat × Operation α)) :
    (writes operations).filterMap markOf? = operations.filterMap markOf? := by
  rw [writes, List.filterMap_filter]
  refine List.filterMap_congr fun timed _ => ?_
  cases hmark : markOf? timed with
  | none => rfl
  | some mark => simp

theorem get_not_mem_writes {least : Level} : (now, .get key least) ∉ writes operations :=
  fun hmem => absurd (List.mem_filter.1 hmem).2 Bool.false_ne_true

/-- The answer to a lookup depends on the entry under its key. -/
theorem fst_get_congr {cache cache' : Cache α} (hwedged : cache.wedged = cache'.wedged)
    (hexpiry : cache.expiry = cache'.expiry) (hentry : cache.entry? key = cache'.entry? key)
    (least : Level) : (cache.get now key least).1 = (cache'.get now key least).1 := by
  unfold get
  rw [hwedged, hexpiry, hentry]
  split_ifs
  · rfl
  all_goals
    cases cache'.entry? key with
    | none => rfl
    | some entry =>
        dsimp only
        split_ifs <;> rfl

theorem entry?_without_of_ne (cache : Cache α) {other : String} (hne : other ≠ key) :
    Cache.entry? { cache with entries := cache.without key } other = cache.entry? other := by
  rw [without, entry?, entry?, List.find?_filter]
  congr 1
  funext entry
  by_cases hother : entry.key = other
  · simp [hother, hne]
  · simp [hother]

namespace Reflects

theorem get_eq_hit_iff (h : cache.Reflects expiry operations) {least : Level} {value : α} :
    (cache.get now key least).1 = .hit value ↔
      ∃ entry, Holds expiry operations entry ∧ entry.key = key ∧ now - entry.stored ≤ expiry ∧
        entry.value = value := by
  constructor
  · intro hhit
    obtain ⟨-, entry, hentry, hfresh, hvalue⟩ := entry?_of_hit hhit
    obtain ⟨hholds, hkey⟩ := h.entry?_eq_some_iff.1 hentry
    rw [h.lifetime] at hfresh
    exact ⟨entry, hholds, hkey, isFresh_iff.1 hfresh, hvalue⟩
  · rintro ⟨entry, hholds, hkey, hfresh, rfl⟩
    have hentry := h.entry?_eq_some_iff.2 ⟨hholds, hkey⟩
    simp [Cache.get, h.intact, hentry, h.lifetime, isFresh_iff.2 hfresh]

/-- A lookup misses just if it finds nothing and is not aborted. -/
theorem get_eq_miss_iff (h : cache.Reflects expiry operations) {least : Level} :
    (cache.get now key least).1 = .miss ↔
      (∀ value, (cache.get now key least).1 ≠ .hit value) ∧
        ¬ Aborts expiry operations now key least := by
  have haborts :
      Aborts expiry operations now key least ↔ (cache.get now key least).2.wedged = true := by
    have hwedged := h.wedged_apply_iff now (.get key least)
    simp only [Cache.apply, Operation.get.injEq] at hwedged
    rw [hwedged]
    constructor
    · exact fun hthis => ⟨key, least, ⟨rfl, rfl⟩, hthis⟩
    · rintro ⟨_, _, ⟨rfl, rfl⟩, hthis⟩
      exact hthis
  rw [haborts]
  rcases h.get_cases now key least with ⟨entry, -, -, -, hget⟩ | ⟨-, hget⟩ |
    ⟨entry, -, -, -, ⟨-, hget⟩ | ⟨-, hget⟩⟩
  all_goals simp [hget, h.intact]

/-- A lookup that is not aborted does not matter to lookups under other keys. -/
theorem get_get_of_ne (h : cache.Reflects expiry operations) {other : String} (hne : other ≠ key)
    {least : Level} (hnamed : ¬ Aborts expiry operations now key least) (later : Nat)
    (least' : Level) :
    ((cache.get now key least).2.get later other least').1 =
      (cache.get later other least').1 := by
  rcases h.get_cases now key least with ⟨entry, -, -, -, hget⟩ | ⟨-, hget⟩ |
    ⟨entry, hholds, hkey, hold, ⟨-, hget⟩ | ⟨hunnamed, -⟩⟩
  · rw [hget]
  · rw [hget]
  · rw [hget]
    have hsame := entry?_without_of_ne cache hne
    refine fst_get_congr ?_ ?_ hsame least' <;> rfl
  · exact absurd ⟨hunnamed, entry, hholds, hkey, hold⟩ hnamed

/-- A sweep keeps just what a lookup would find. -/
theorem mem_purge_iff (h : cache.Reflects expiry operations) (least : Level) :
    entry ∈ (cache.purge now).entries ↔
      entry ∈ cache.entries ∧ (cache.get now entry.key least).1 = .hit entry.value := by
  rw [Cache.purge, if_neg (by simp [h.intact]), List.mem_filter, h.lifetime, isFresh_iff,
    h.get_eq_hit_iff]
  refine and_congr_right fun hentry => ⟨fun hfresh => ?_, ?_⟩
  · exact ⟨entry, (h.held entry).1 hentry, rfl, hfresh, rfl⟩
  · rintro ⟨other, hother, hkey, hfresh, -⟩
    exact h.eq_of_key ((h.held other).2 hother) hentry hkey ▸ hfresh

/-- Entries of a cache have as many keys. -/
theorem length_eq_ncard (h : cache.Reflects expiry operations) {entries : List (Entry α)}
    (hsub : entries.Sublist cache.entries) :
    entries.length = {key | ∃ entry ∈ entries, entry.key = key}.ncard := by
  have hsingle : (entries.map Entry.key).Nodup := h.single.sublist (hsub.map Entry.key)
  have hkeys : {key | ∃ entry ∈ entries, entry.key = key} =
      ↑(entries.map Entry.key).toFinset := by
    ext key
    simp
  rw [hkeys, Set.ncard_coe_finset, List.toFinset_card_of_nodup hsingle, List.length_map]

theorem size_eq_ncard (h : cache.Reflects expiry operations) :
    cache.size = (heldKeys expiry operations).ncard := by
  have hkeys : heldKeys expiry operations = {key | ∃ entry ∈ cache.entries, entry.key = key} := by
    ext key
    simp only [heldKeys, Set.mem_ofPred_eq, h.held]
  rw [hkeys, ← h.length_eq_ncard (List.Sublist.refl _), Cache.size, if_neg (by simp [h.intact])]

theorem size_purge_le (h : cache.Reflects expiry operations) (now : Nat) :
    (cache.purge now).size ≤ cache.size := by
  simp only [Cache.purge, Cache.size, h.intact, Bool.false_eq_true, if_false]
  exact List.length_filter_le _ _

/-- A sweep drops as many entries as there are keys under which something is held that a
lookup would not find. -/
theorem staleCount_eq_ncard (h : cache.Reflects expiry operations) (now : Nat)
    (least : Level) :
    cache.staleCount now = {key ∈ heldKeys expiry operations |
      ∀ value, (cache.get now key least).1 ≠ .hit value}.ncard := by
  have hkeys : {key ∈ heldKeys expiry operations |
        ∀ value, (cache.get now key least).1 ≠ .hit value} =
      {key | ∃ entry ∈ cache.entries.filter fun entry => !isFresh expiry now entry,
        entry.key = key} := by
    ext key
    simp only [heldKeys, Set.mem_ofPred_eq, List.mem_filter, Bool.not_eq_true', not_isFresh_iff,
      ne_eq, h.get_eq_hit_iff]
    constructor
    · rintro ⟨⟨entry, hholds, hkey⟩, hlost⟩
      refine ⟨entry, ⟨(h.held entry).2 hholds, ?_⟩, hkey⟩
      exact Nat.not_le.1 fun hfresh => hlost entry.value ⟨entry, hholds, hkey, hfresh, rfl⟩
    · rintro ⟨entry, ⟨hmem, hold⟩, hkey⟩
      refine ⟨⟨entry, (h.held entry).1 hmem, hkey⟩, fun value => ?_⟩
      rintro ⟨other, hother, hotherKey, hfresh, -⟩
      have hequal := h.eq_of_key ((h.held other).2 hother) hmem (hotherKey.trans hkey.symm)
      rw [hequal] at hfresh
      omega
  have hlengths : cache.entries.length =
      (cache.entries.filter (isFresh expiry now)).length +
        (cache.entries.filter fun entry => !isFresh expiry now entry).length :=
    List.length_eq_length_filter_add (isFresh expiry now)
  rw [hkeys, ← h.length_eq_ncard List.filter_sublist]
  simp only [staleCount, Cache.purge, Cache.size, h.intact, h.lifetime, Bool.false_eq_true,
    if_false]
  omega

end Reflects

/-! ## Caches and timed maps -/

/-- The cache answers as the operations say, whatever the log keeps. -/
structure Answers (expiry : Nat) (operations : List (Nat × Operation α)) (cache : Cache α) :
    Prop where
  hit_iff : ∀ now, (∀ timed ∈ operations, timed.1 ≤ now) → ∀ key least value,
    (cache.get now key least).1 = .hit value ↔ expected? expiry operations now key = some value
  miss_iff : ∀ now, (∀ timed ∈ operations, timed.1 ≤ now) → ∀ key least,
    (cache.get now key least).1 = .miss ↔
      expected? expiry operations now key = none ∧ ¬ Aborts expiry operations now key least
  /-- Earlier lookups and sweeps do not show. -/
  unnoticed : ∀ now, (∀ timed ∈ operations, timed.1 ≤ now) → ∀ key least value,
    (cache.get now key least).1 = .hit value ↔
      (((empty expiry).run (writes operations)).get now key least).1 = .hit value
  /-- A lookup does not matter to lookups under other keys. -/
  apart : ∀ now key least, ¬ Aborts expiry operations now key least →
    ∀ other, other ≠ key → ∀ later least',
      ((cache.get now key least).2.get later other least').1 =
        (cache.get later other least').1
  /-- A sweep keeps just what a lookup would find. -/
  purged_iff : ∀ now entry least, entry ∈ (cache.purge now).entries ↔
    entry ∈ cache.entries ∧ (cache.get now entry.key least).1 = .hit entry.value
  /-- A sweep counts the keys under which a lookup would find nothing of what is held. -/
  counted : ∀ now least, cache.staleCount now = {key ∈ heldKeys expiry operations |
    ∀ value, (cache.get now key least).1 ≠ .hit value}.ncard
  shrinks : ∀ now, (cache.purge now).size + cache.staleCount now = cache.size
  size_eq : cache.size = (heldKeys expiry operations).ncard

theorem Reflects.answers (h : cache.Reflects expiry operations) :
    cache.Answers expiry operations where
  hit_iff now htimes key least value := by rw [h.get_eq_hit_iff, expected?_eq_some_iff htimes]
  miss_iff now htimes key least := by
    have hnone : expected? expiry operations now key = none ↔
        ∀ value, (cache.get now key least).1 ≠ .hit value := by
      rw [Option.eq_none_iff_forall_ne_some]
      refine forall_congr' fun value => not_congr ?_
      rw [expected?_eq_some_iff htimes, h.get_eq_hit_iff]
    rw [h.get_eq_miss_iff, hnone]
  unnoticed now htimes key least value := by
    have hintact : ((empty expiry).run (writes operations)).wedged = false := by
      by_contra hwedged
      obtain ⟨before, time, other, level, later, hsplit, -⟩ :=
        (wedged_run_iff expiry (writes operations)).1 (by simpa using hwedged)
      exact get_not_mem_writes (hsplit ▸ List.mem_append_right _ List.mem_cons_self)
    have hwritten := reflects_run expiry (writes operations) hintact
    have hwrittenTimes : ∀ timed ∈ writes operations, timed.1 ≤ now :=
      fun timed htimed => htimes timed (List.mem_filter.1 htimed).1
    rw [h.get_eq_hit_iff, ← expected?_eq_some_iff htimes, hwritten.get_eq_hit_iff,
      ← expected?_eq_some_iff hwrittenTimes, expected?, expected?, filterMap_writes]
  apart now key least hnamed other hne later := h.get_get_of_ne hne hnamed later
  purged_iff _ _ least := h.mem_purge_iff least
  counted := h.staleCount_eq_ncard
  shrinks now := Nat.add_sub_cancel' (h.size_purge_le now)
  size_eq := h.size_eq_ncard

/-- No lookup is made while the log keeps lines for debugging. -/
def LooksUpQuietly (operations : List (Nat × Operation α)) : Prop :=
  ∀ now key least, (now, .get key least) ∈ operations → least.admits .debug = false

/-- A log that keeps no lines for debugging asks for no names. -/
theorem not_aborts_of_quiet {least : Level} (hquiet : least.admits .debug = false) :
    ¬ Aborts expiry operations now key least := by
  rintro ⟨hstumbles, -⟩
  rw [stumbles, hquiet] at hstumbles
  cases hstumbles

theorem LooksUpQuietly.intact (hquiet : LooksUpQuietly operations) (expiry : Nat) :
    ((empty expiry).run operations).wedged = false := by
  rw [← Bool.not_eq_true, wedged_run_iff]
  rintro ⟨before, now, key, least, later, rfl, haborts⟩
  have hlevel := hquiet now key least (List.mem_append_right _ List.mem_cons_self)
  exact not_aborts_of_quiet hlevel haborts

/-- A lookup that asks for no names answers from what should be found alone. -/
theorem Answers.get_of_quiet (h : cache.Answers expiry operations)
    (htimes : ∀ timed ∈ operations, timed.1 ≤ now) {least : Level}
    (hquiet : least.admits .debug = false) :
    (cache.get now key least).1 =
      (expected? expiry operations now key).elim .miss .hit := by
  cases hexpected : expected? expiry operations now key with
  | some value => exact (h.hit_iff now htimes key least value).2 hexpected
  | none => exact (h.miss_iff now htimes key least).2 ⟨hexpected, not_aborts_of_quiet hquiet⟩

/-- **A cache is a timed map, until a lookup is aborted.**

* A lookup was aborted just if it met an entry too old under a key that has no name, while the
  log kept lines for debugging.
* Before that, a lookup finds what was stored under its key last and not cleared since, while
  it is fresh, whatever was looked up or swept meanwhile; a sweep drops just what a lookup
  would not find and counts it; the size is the number of keys under which something was
  stored that has not been dropped since; and lookups under different keys do not interfere.
* After that, lookups find nothing.
* While the log keeps no lines for debugging no lookup is aborted, and every lookup, under
  whatever key, answers as the timed map does. -/
theorem lookups_follow_stores (expiry : Nat) (operations : List (Nat × Operation α)) :
    let cache := (empty expiry).run operations
    (cache.wedged = true ↔ ∃ before now key least later,
        operations = before ++ (now, .get key least) :: later ∧
          Aborts expiry before now key least) ∧
      (cache.wedged = false → cache.Answers expiry operations) ∧
      (cache.wedged = true →
        cache.size = 0 ∧ ∀ now key least, cache.get now key least = (.miss, cache)) ∧
      (LooksUpQuietly operations → cache.wedged = false ∧
        ∀ now, (∀ timed ∈ operations, timed.1 ≤ now) →
          ∀ key least, least.admits .debug = false →
            (cache.get now key least).1 =
              (expected? expiry operations now key).elim .miss .hit) := by
  intro cache
  refine ⟨wedged_run_iff expiry operations, fun hintact => ?_, fun hwedged => ?_,
    fun hquiet => ?_⟩
  · exact (reflects_run expiry operations hintact).answers
  · exact ⟨by simp [size, hwedged], fun now key least => by simp [get, hwedged]⟩
  · have hintact : cache.wedged = false := hquiet.intact expiry
    have hanswers := (reflects_run expiry operations hintact).answers
    exact ⟨hintact, fun now htimes key least => hanswers.get_of_quiet htimes⟩

/-- A cache asked while the log keeps lines for debugging, and one asked under a key without a
name while it keeps none. -/
theorem lookups_follow_stores_after_sweep :
    let operations : List (Nat × Operation Nat) :=
      [(0, .put "plan" 7), (1, .put "plan" 8), (1, .put "draft" 9), (3, .get "draft" .debug),
        (3, .put "note" 4), (4, .purge)]
    let cache := (empty 2).run operations
    let quiet : List (Nat × Operation Nat) :=
      [(0, .put "1234567é" 7), (3, .get "1234567é" .info), (3, .put "1234567é" 8)]
    cache.wedged = false ∧ cache.size = (heldKeys 2 operations).ncard ∧
      (cache.get 5 "note").1 = .hit 4 ∧ (cache.get 5 "draft").1 = .miss ∧
      (((empty 2).run quiet).get 5 "1234567é" .info).1 = .hit 8 ∧
      (((empty 2).run quiet).get 6 "1234567é" .info).1 = .miss := by
  intro operations cache quiet
  have hintact : cache.wedged = false := rfl
  have hanswers := (lookups_follow_stores 2 operations).2.1 hintact
  have htimes : ∀ timed ∈ operations, timed.1 ≤ 5 := by simp [operations]
  have hquiet : LooksUpQuietly quiet := by
    intro now key least hmem
    obtain ⟨-, -, rfl⟩ : now = 3 ∧ key = "1234567é" ∧ least = .info := by simpa [quiet] using hmem
    rfl
  have hmap := ((lookups_follow_stores 2 quiet).2.2.2 hquiet).2
  refine ⟨hintact, hanswers.size_eq, (hanswers.hit_iff 5 htimes "note" .debug 4).2 rfl, ?_,
    hmap 5 (by simp [quiet]) "1234567é" .info rfl, hmap 6 (by simp [quiet]) "1234567é" .info rfl⟩
  refine (hanswers.miss_iff 5 htimes "draft" .debug).2 ⟨rfl, fun haborts => ?_⟩
  exact absurd haborts.1 (by decide)

/-- A lookup that should miss is aborted, and the cache does not find what is stored from
then on. -/
theorem not_every_lookup_follows_stores :
    let stored : List (Nat × Operation Nat) := [(0, .put "1234567é" 7)]
    let restored := stored ++ [(2, .get "1234567é" .debug), (2, .put "plan" 8)]
    expected? 0 stored 2 "1234567é" = none ∧
      (((empty 0).run stored).get 2 "1234567é").1 =
        .aborted (Text.splitReport 8 "1234567é") ∧
      expected? 0 restored 2 "plan" = some 8 ∧
      (((empty 0).run restored).get 2 "plan").1 = .miss :=
  ⟨rfl, rfl, rfl, rfl⟩

end CanvasPress.Cache

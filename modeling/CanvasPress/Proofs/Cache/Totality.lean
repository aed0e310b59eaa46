/-
# Keys that no lookup stumbles over

A lookup that drops an entry names it by the first eight bytes of its key, if the log keeps
lines for debugging, and is aborted if the eighth byte does not end a character.  Whether a key
can be named is a matter of the key alone, so it decides for every sequence of operations at
once: where only such keys are looked up nothing is ever aborted, what is too old is missed and
removed, and what is stored next is found.  Under any other key an entry that has become too old
is enough to abort the lookup that meets it, and nothing is found or stored from then on.
-/

import CanvasPress.Proofs.Cache.Key
import CanvasPress.Proofs.Cache.Timeline
import Mathlib.Data.String.Basic

namespace CanvasPress

open Text

/-! ## Keys that have a name -/

/-- A character ends behind the first eight bytes of a key, or behind all of a shorter one. -/
def IsNameable (key : String) : Prop :=
  String.Pos.Raw.IsValid key ⟨min 8 key.utf8ByteSize⟩

theorem byteLength_eq_utf8ByteSize (cs : List Char) :
    byteLength cs = (String.ofList cs).utf8ByteSize := by
  induction cs with
  | nil => rfl
  | cons c rest ih =>
      rw [byteLength, ih, String.utf8ByteSize_ofList, String.utf8ByteSize_ofList,
        String.utf8Len_cons, Nat.add_comm]

/-- Where a text can be cut that begins with a character. -/
theorem exists_cut_cons_iff {n : Nat} {c : Char} {rest : List Char} :
    (∃ front back, c :: rest = front ++ back ∧ byteLength front = n + 1) ↔
      c.utf8Size ≤ n + 1 ∧
        ∃ front back, rest = front ++ back ∧ byteLength front = n + 1 - c.utf8Size := by
  constructor
  · rintro ⟨front, back, hsplit, hlength⟩
    cases front with
    | nil => cases hlength
    | cons first front =>
        obtain ⟨rfl, rfl⟩ := List.cons.inj hsplit
        rw [byteLength] at hlength
        exact ⟨by omega, front, back, rfl, by omega⟩
  · rintro ⟨hfits, front, back, rfl, hlength⟩
    refine ⟨c :: front, back, rfl, ?_⟩
    rw [byteLength]
    omega

/-- A text can be cut behind `n` bytes just if it is put together from two texts of which the
first has `n` bytes. -/
theorem isSome_takeBytes?_iff {n : Nat} {cs : List Char} :
    (takeBytes? n cs).isSome ↔ ∃ front back, cs = front ++ back ∧ byteLength front = n := by
  induction cs generalizing n with
  | nil =>
      cases n with
      | zero => exact ⟨fun _ => ⟨[], [], rfl, rfl⟩, fun _ => rfl⟩
      | succ n =>
          refine ⟨fun h => absurd h Bool.false_ne_true, ?_⟩
          rintro ⟨front, back, hsplit, hlength⟩
          obtain ⟨rfl, -⟩ := List.append_eq_nil_iff.1 hsplit.symm
          cases hlength
  | cons c rest ih =>
      cases n with
      | zero => exact ⟨fun _ => ⟨[], c :: rest, rfl, rfl⟩, fun _ => rfl⟩
      | succ n =>
          rw [takeBytes?, exists_cut_cons_iff, ← ih]
          split_ifs with hfits
          · rw [Option.isSome_map, and_iff_right hfits]
          · exact ⟨fun h => absurd h Bool.false_ne_true, fun h => absurd h.1 hfits⟩

/-- The keys that have a name are those that can be cut where it ends. -/
theorem isSome_shortKey?_iff {key : String} : (shortKey? key).isSome ↔ IsNameable key := by
  have hsize : byteLength key.toList = key.utf8ByteSize := by
    rw [byteLength_eq_utf8ByteSize, String.ofList_toList]
  unfold shortKey? IsNameable
  rw [hsize]
  split_ifs with hshort
  · rw [Nat.min_eq_right hshort]
    exact ⟨fun _ => String.Pos.Raw.isValid_rawEndPos, fun _ => rfl⟩
  · rw [Nat.min_eq_left (by omega), Option.isSome_map, isSome_takeBytes?_iff,
      String.Pos.Raw.isValid_iff_exists_append]
    constructor
    · rintro ⟨front, back, hsplit, hlength⟩
      refine ⟨String.ofList front, String.ofList back, ?_, ?_⟩
      · rw [← String.ofList_append, ← hsplit, String.ofList_toList]
      · rw [byteLength_eq_utf8ByteSize] at hlength
        exact String.Pos.Raw.ext hlength.symm
    · rintro ⟨front, back, rfl, hend⟩
      refine ⟨front.toList, back.toList, String.toList_append, ?_⟩
      rw [byteLength_eq_utf8ByteSize, String.ofList_toList]
      exact (congrArg String.Pos.Raw.byteIdx hend).symm

theorem shortKey?_eq_none_iff {key : String} : shortKey? key = none ↔ ¬ IsNameable key := by
  rw [← isSome_shortKey?_iff, Option.isSome_iff_ne_none, not_not]

/-- Every request has a key that can be named. -/
theorem isNameable_cacheKey (document : Document) (options : RenderOptions) :
    IsNameable (cacheKey document options) :=
  isSome_shortKey?_iff.1 (isSome_shortKey?_cacheKey document options)

namespace Cache

/-! ## Sequences of operations -/

variable {α : Type} {cache : Cache α} {expiry now : Nat} {entry : Entry α} {key : String}
variable {operations : List (Nat × Operation α)}

/-- A press looks requests up by their keys, so it does not matter to it what its log keeps. -/
theorem get_cacheKey (cache : Cache α) (now : Nat) (document : Document) (options : RenderOptions)
    (least : Level) : cache.get now (cacheKey document options) least =
      cache.get now (cacheKey document options) :=
  get_eq_of_isSome (isSome_shortKey?_cacheKey document options) cache now least .debug

theorem run_append (cache : Cache α) (operations later : List (Nat × Operation α)) :
    cache.run (operations ++ later) = (cache.run operations).run later :=
  List.foldl_append

theorem run_cons (cache : Cache α) (now : Nat) (operation : Operation α)
    (later : List (Nat × Operation α)) :
    cache.run ((now, operation) :: later) = (cache.apply now operation).run later :=
  rfl

/-- All keys have a name that are looked up while the log keeps lines for debugging. -/
def LooksUpNameable (operations : List (Nat × Operation α)) : Prop :=
  ∀ now key least, (now, .get key least) ∈ operations → least.admits .debug = true →
    IsNameable key

/-- The operation neither stores anything under a key nor clears the cache. -/
def Operation.Spares (key : String) : Operation α → Prop
  | .put other _ => other ≠ key
  | .clear => False
  | _ => True

/-- A lookup stumbles over a key just if the log asks for its name and it has none. -/
theorem stumbles_iff {least : Level} :
    stumbles least key = true ↔ least.admits .debug = true ∧ ¬ IsNameable key := by
  rw [stumbles, Bool.and_eq_true, Option.isNone_iff_eq_none, shortKey?_eq_none_iff]

theorem LooksUpNameable.not_aborts (hnames : LooksUpNameable operations) {least : Level}
    {before later : List (Nat × Operation α)}
    (hsplit : operations = before ++ (now, .get key least) :: later) :
    ¬ Aborts expiry before now key least := by
  intro haborts
  have hmem : (now, .get key least) ∈ operations := by
    rw [hsplit]
    exact List.mem_append_right _ List.mem_cons_self
  obtain ⟨hlevel, hunnamed⟩ := stumbles_iff.1 haborts.1
  exact hunnamed (hnames now key least hmem hlevel)

/-- Where only keys with a name are looked up, the cache stays intact. -/
theorem LooksUpNameable.intact (hnames : LooksUpNameable operations) (expiry : Nat) :
    ((empty expiry).run operations).wedged = false := by
  rw [← Bool.not_eq_true, wedged_run_iff]
  rintro ⟨before, now, key, least, later, hsplit, haborts⟩
  exact hnames.not_aborts hsplit haborts

theorem LooksUpNameable.append {later : List (Nat × Operation α)}
    (hnames : LooksUpNameable operations) (hlater : LooksUpNameable later) :
    LooksUpNameable (operations ++ later) := by
  intro now key least hmem
  rcases List.mem_append.1 hmem with hmem | hmem
  · exact hnames now key least hmem
  · exact hlater now key least hmem

theorem LooksUpNameable.cons_put (hnames : LooksUpNameable operations) (stored : Nat)
    (key : String) (value : α) :
    LooksUpNameable ((stored, .put key value) :: operations) := by
  intro now other least hmem
  rcases List.mem_cons.1 hmem with hsame | hmem
  · cases hsame
  · exact hnames now other least hmem

/-- An operation that spares a key drops nothing under it that is fresh. -/
theorem Operation.Spares.not_drops {operation : Operation α} (h : operation.Spares entry.key)
    {again : Nat} (htime : now ≤ again) (hfresh : again - entry.stored ≤ expiry) :
    ¬ Drops expiry entry (now, operation) := by
  cases operation with
  | put other value => exact h
  | get other least =>
      rintro ⟨-, hold⟩
      omega
  | purge =>
      intro hold
      have hlate : expiry < now - entry.stored := hold
      omega
  | clear => exact absurd h id

/-- A lookup of an entry that is too old is aborted and wedges the cache if it stumbles over
the key, and otherwise misses and removes the entry. -/
theorem Reflects.get_of_old (h : cache.Reflects expiry operations)
    (hholds : Holds expiry operations entry) (hold : expiry < now - entry.stored)
    (least : Level) :
    cache.get now entry.key least =
      if stumbles least entry.key then
        (.aborted (splitReport 8 entry.key), { cache with wedged := true })
      else (.miss, { cache with entries := cache.without entry.key }) := by
  rcases h.get_cases now entry.key least with ⟨other, hother, hkey, hfresh, -⟩ | ⟨hnobody, -⟩ |
    ⟨_, -, -, -, ⟨hnamed, hget⟩ | ⟨hunnamed, hget⟩⟩
  · have hequal := h.eq_of_key ((h.held other).2 hother) ((h.held entry).2 hholds) hkey
    rw [hequal] at hfresh
    omega
  · exact absurd rfl (hnobody entry hholds)
  · rw [hget, if_neg (by simp [hnamed])]
  · rw [hget, if_pos hunnamed]

theorem entry?_without (cache : Cache α) (key : String) :
    Cache.entry? { cache with entries := cache.without key } key = none := by
  rw [Cache.entry?, without, List.find?_eq_none]
  intro entry hentry
  simpa using (List.mem_filter.1 hentry).2

theorem wedged_run_of_wedged (hwedged : cache.wedged = true)
    (later : List (Nat × Operation α)) : (cache.run later).wedged = true := by
  induction later generalizing cache with
  | nil => exact hwedged
  | cons timed later ih =>
      obtain ⟨now, operation⟩ := timed
      exact ih (wedged_apply_of_wedged hwedged now operation)

theorem get_of_wedged (hwedged : cache.wedged = true) (least : Level) :
    cache.get now key least = (.miss, cache) := by
  simp [get, hwedged]

theorem size_of_wedged (hwedged : cache.wedged = true) : cache.size = 0 := by
  simp [size, hwedged]

/-! ## The theorem -/

/-- What a cache does of which only keys with a name are asked, whatever the log keeps at the
last lookup. -/
structure Serves (expiry : Nat) (operations : List (Nat × Operation α)) : Prop where
  intact : ((empty expiry).run operations).wedged = false
  /-- No lookup was aborted. -/
  unaborted : ∀ before now key least later,
    operations = before ++ (now, .get key least) :: later →
    ∀ report, (((empty expiry).run before).get now key least).1 ≠ .aborted report
  /-- An entry that is too old is missed and removed, and nothing else is. -/
  expired : ∀ entry now least, Holds expiry operations entry → expiry < now - entry.stored →
    IsNameable entry.key →
      let found := ((empty expiry).run operations).get now entry.key least
      found.1 = .miss ∧ Cache.entry? found.2 entry.key = none ∧
        ∀ other, other ≠ entry.key →
          Cache.entry? found.2 other = Cache.entry? ((empty expiry).run operations) other
  /-- What is stored is found as long as it is fresh and was neither replaced nor cleared. -/
  found : ∀ stored key value later again least, LooksUpNameable later →
    (∀ timed ∈ later, timed.1 ≤ again ∧ timed.2.Spares key) → again - stored ≤ expiry →
      (((((empty expiry).run operations).put stored key value).run later).get again key least).1 =
        .hit value

theorem serves_of_looksUpNameable (expiry : Nat) (hnames : LooksUpNameable operations) :
    Serves expiry operations where
  intact := hnames.intact expiry
  unaborted before now key least later hsplit report haborted := by
    have hbefore : LooksUpNameable before := by
      intro time other level hmem
      exact hnames time other level (hsplit ▸ List.mem_append_left _ hmem)
    have hreflects := reflects_run expiry before (hbefore.intact expiry)
    rcases hreflects.get_cases now key least with ⟨_, -, -, -, hget⟩ | ⟨-, hget⟩ |
      ⟨old, hholds, hkey, hold, ⟨-, hget⟩ | ⟨hstumbles, hget⟩⟩
    · rw [hget] at haborted
      cases haborted
    · rw [hget] at haborted
      cases haborted
    · rw [hget] at haborted
      cases haborted
    · exact hnames.not_aborts hsplit ⟨hstumbles, old, hholds, hkey, hold⟩
  expired entry now least hholds hold hname := by
    have hreflects := reflects_run expiry operations (hnames.intact expiry)
    intro found
    have hget : found = _ := hreflects.get_of_old hholds hold least
    rw [if_neg fun hstumbles => (stumbles_iff.1 hstumbles).2 hname] at hget
    rw [hget]
    exact ⟨rfl, entry?_without _ _, fun other hne => entry?_without_of_ne _ hne⟩
  found stored key value later again least hlater hspares hfresh := by
    have hall := hnames.append (hlater.cons_put stored key value)
    have hreflects := reflects_run expiry _ (hall.intact expiry)
    rw [run_append, run_cons] at hreflects
    refine hreflects.get_eq_hit_iff.2 ⟨⟨key, value, stored⟩, ?_, rfl, hfresh, rfl⟩
    refine ⟨operations, later, rfl, fun timed htimed => ?_⟩
    obtain ⟨htime, hkey⟩ := hspares timed htimed
    exact hkey.not_drops htime hfresh

/-- **Which keys a cache can be asked for without harm.**

* Where every key has a name that is looked up while the log keeps lines for debugging, no
  operation is ever aborted, whatever the times and whatever else is stored, swept and cleared;
  an entry that is too old is missed and removed; and what is stored next is found.
* Under a key without a name no more is needed than an entry that has become too old: the
  lookup that meets it is aborted, and whatever is done afterwards, nothing is found, nothing is
  stored, and no entry is counted. -/
theorem harmless_lookups (expiry : Nat) (operations : List (Nat × Operation α))
    (hnames : LooksUpNameable operations) :
    Serves expiry operations ∧
      ∀ key least, ¬ IsNameable key → least.admits .debug = true →
        ∀ value stored now, expiry < now - stored →
          let found := (((empty expiry).run operations).put stored key value).get now key least
          found.1 = .aborted (splitReport 8 key) ∧
            ∀ later, (found.2.run later).size = 0 ∧
              ∀ again other level, ((found.2.run later).get again other level).1 = .miss := by
  refine ⟨serves_of_looksUpNameable expiry hnames,
    fun key least hname hlevel value stored now hold => ?_⟩
  have hreflects := (reflects_run expiry operations (hnames.intact expiry)).put stored key value
  have hholds : Holds expiry (operations ++ [(stored, .put key value)]) ⟨key, value, stored⟩ :=
    holds_append_singleton.2 (.inl rfl)
  intro found
  have hfound : found = _ := hreflects.get_of_old hholds hold least
  rw [if_pos (stumbles_iff.2 ⟨hlevel, hname⟩)] at hfound
  have hdead : found.2.wedged = true := by rw [hfound]
  refine ⟨by rw [hfound], fun later => ?_⟩
  have hwedged := wedged_run_of_wedged hdead later
  exact ⟨size_of_wedged hwedged,
    fun again other level => congrArg Prod.fst (get_of_wedged hwedged level)⟩

/-- Keys of several alphabets, the first cut between two letters and the second too short to be
cut; the entry under the first is too old when it is looked up and is stored once more. -/
theorem harmless_lookups_of_foreign_letters :
    let operations : List (Nat × Operation Nat) :=
      [(0, .put "ключи" 7), (0, .put "é😀" 8), (3, .get "ключи" .debug), (3, .purge),
        (4, .get "é😀" .debug)]
    let cache := (empty 2).run operations
    LooksUpNameable operations ∧ cache.wedged = false ∧
      ((cache.put 5 "ключи" 9).get 7 "ключи").1 = .hit 9 ∧
      ((cache.put 5 "ключиé" 9).get 7 "ключиé").1 = .hit 9 ∧
      ¬ IsNameable "1234567é" ∧
      ((cache.put 5 "1234567é" 9).get 8 "1234567é").1 = .aborted (splitReport 8 "1234567é") := by
  intro operations cache
  have hnames : LooksUpNameable operations := by
    intro now key least hmem _
    have hkeys : now = 3 ∧ key = "ключи" ∧ least = .debug ∨
        now = 4 ∧ key = "é😀" ∧ least = .debug := by
      simpa [operations] using hmem
    rcases hkeys with ⟨-, rfl, -⟩ | ⟨-, rfl, -⟩
    · exact isSome_shortKey?_iff.1 (by decide)
    · exact isSome_shortKey?_iff.1 (by decide)
  obtain ⟨hserves, habort⟩ := harmless_lookups 2 operations hnames
  have hfound (key : String) := hserves.found 5 key 9 [] 7 .debug
    (fun _ _ _ h => absurd h List.not_mem_nil) (fun _ h => absurd h List.not_mem_nil) (by decide)
  have hlost : ¬ IsNameable "1234567é" := shortKey?_eq_none_iff.1 (by decide)
  have hdead := (habort "1234567é" .debug hlost rfl 9 5 8 (by decide)).1
  exact ⟨hnames, hserves.intact, hfound "ключи", hfound "ключиé", hlost, hdead⟩

/-- A key without a name: the lookup that should report a miss is aborted, and what is stored
after it is not found. -/
theorem not_every_lookup_is_harmless :
    let stored := (empty 0 : Cache Nat).put 0 "1234567é" 7
    let found := stored.get 2 "1234567é"
    expected? 0 [(0, .put "1234567é" 7)] 2 "1234567é" = none ∧
      found.1 = .aborted (splitReport 8 "1234567é") ∧ found.2.wedged = true ∧
      ((found.2.put 2 "1234567é" 8).get 2 "1234567é").1 = .miss :=
  ⟨rfl, rfl, rfl, rfl⟩

end Cache

end CanvasPress

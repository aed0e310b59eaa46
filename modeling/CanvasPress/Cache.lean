/-
# The artifact cache

Entries are kept for a fixed time after they were stored.  An entry that is too
old is dropped by the lookup that meets it, or by a sweep; both report the same
thing to later lookups.  Time is counted in nanoseconds and passed in, so the
cache itself has no clock.

A lookup that drops an entry first names it in the log by the first eight bytes
of its key, if the log keeps lines for debugging.  A key whose eighth byte falls
inside a character has no such name; the lookup is then aborted and the cache is
wedged: it finds and stores nothing from then on.  A log that keeps no such lines
asks for no name, and the entry is dropped like any other.
-/

import CanvasPress.Codec.Document
import CanvasPress.Codec.Options
import CanvasPress.Digest.Sha256
import CanvasPress.Log
import CanvasPress.Text.Bytes

namespace CanvasPress

open Text

/-- What the key of a request is computed from. -/
def keyMaterial (doc : Document) (options : RenderOptions) : String :=
  (Json.object [("document", doc.encode), ("options", options.encode)]).compact

/-- The cache key of a request: the digest of its written form. -/
def cacheKey (doc : Document) (options : RenderOptions) : String :=
  Digest.sha256Hex (keyMaterial doc options)

/-- The name of a key: its first eight bytes, or all of a shorter key. -/
def shortKey? (key : String) : Option String :=
  if byteLength key.toList ≤ 8 then some key
  else (takeBytes? 8 key.toList).map String.ofList

/-- The name of a key that has one. -/
def shortKey (key : String) : String :=
  (shortKey? key).getD key

/-- An entry of a cache. -/
structure Entry (α : Type) where
  key : String
  value : α
  /-- When the entry was stored. -/
  stored : Nat

/-- A cache whose entries live for a fixed time.  Each key has one entry. -/
structure Cache (α : Type) where
  /-- The lifetime of entries, in nanoseconds. -/
  expiry : Nat
  entries : List (Entry α)
  /-- Whether a lookup was aborted. -/
  wedged : Bool

/-- The answer to a lookup. -/
inductive Lookup (α : Type) where
  | hit (value : α)
  | miss
  /-- The lookup died with this report. -/
  | aborted (report : String)

namespace Cache

variable {α : Type}

/-- A cache without entries. -/
def empty (expiry : Nat) : Cache α :=
  ⟨expiry, [], false⟩

/-- Whether an entry is still to be served. -/
def isFresh (expiry now : Nat) (entry : Entry α) : Bool :=
  now - entry.stored ≤ expiry

/-- The entry under a key, fresh or not. -/
def entry? (cache : Cache α) (key : String) : Option (Entry α) :=
  cache.entries.find? fun e => e.key == key

/-- The entries without the one under a key. -/
def without (cache : Cache α) (key : String) : List (Entry α) :=
  cache.entries.filter fun e => e.key != key

/-- Whether the log asks for the name of a key that has none. -/
def stumbles (least : Level) (key : String) : Bool :=
  least.admits .debug && (shortKey? key).isNone

/-- Look a key up while the log keeps what is at least as urgent as a level.  A stale entry is
removed and reported as a miss. -/
def get (cache : Cache α) (now : Nat) (key : String) (least : Level := .debug) :
    Lookup α × Cache α :=
  if cache.wedged then (.miss, cache)
  else
    match cache.entry? key with
    | none => (.miss, cache)
    | some entry =>
      if isFresh cache.expiry now entry then (.hit entry.value, cache)
      else if stumbles least key then
        (.aborted (splitReport 8 key), { cache with wedged := true })
      else (.miss, { cache with entries := cache.without key })

/-- What a lookup reports. -/
def getLog (cache : Cache α) (now : Nat) (key : String) (least : Level := .debug) :
    List LogLine :=
  match cache.entry? key, shortKey? key with
  | some entry, some name =>
    if cache.wedged || isFresh cache.expiry now entry || !least.admits .debug then []
    else [⟨.debug, "Cache entry " ++ name ++ " expired"⟩]
  | _, _ => []

/-- Store a value, replacing what was under the key. -/
def put (cache : Cache α) (now : Nat) (key : String) (value : α) : Cache α :=
  if cache.wedged then cache
  else { cache with entries := ⟨key, value, now⟩ :: cache.without key }

/-- Drop every stale entry. -/
def purge (cache : Cache α) (now : Nat) : Cache α :=
  if cache.wedged then cache
  else { cache with entries := cache.entries.filter (isFresh cache.expiry now) }

/-- The number of entries, fresh or not. -/
def size (cache : Cache α) : Nat :=
  if cache.wedged then 0 else cache.entries.length

/-- How many entries a sweep would drop. -/
def staleCount (cache : Cache α) (now : Nat) : Nat :=
  cache.size - (cache.purge now).size

/-- Drop every entry. -/
def clear (cache : Cache α) : Cache α :=
  if cache.wedged then cache else { cache with entries := [] }

end Cache

end CanvasPress

import UtilityCss.Log.Basic
import UtilityCss.Number.Basic

/-!
# Caches — the store

A store keeps the style sheets of class strings.  Its entries stand in the order of their last use,
the least recent one first; writing an entry and reading it with success are uses.  A full store
drops the first entry for a new one.

Every entry bears the version under which it was written and the time.  It is live as long as its
version is the current one and its lifetime has not passed; one that is not is dropped when it is
next asked for, and not before.
-/

namespace UtilityCss.Cache

/-- What is stored under a key. -/
structure Entry where
  value : Text
  /-- The time at which it was written, in milliseconds. -/
  time : Number
  /-- The version under which it was written. -/
  version : Text

/-- A store, with its clock. -/
structure Store where
  /-- The number of entries that it holds. -/
  capacity : Number
  /-- How long an entry lives, in milliseconds. -/
  lifetime : Number
  /-- A store that is not enabled holds nothing and gives nothing. -/
  enabled : Bool
  /-- The time. -/
  now : Number := .int 0
  /-- The entries, the least recently used one first. -/
  entries : List (Text × Entry) := []
  /-- How many reads have given a value. -/
  hits : Nat := 0
  /-- How many reads have given none. -/
  misses : Nat := 0
  /-- The current version. -/
  version : Text := "default".toList

namespace Store

/-- The entry of a key, live or not. -/
def find? (s : Store) (key : Text) : Option Entry :=
  s.entries.lookup key

/-- The entries without that of a key. -/
def without (s : Store) (key : Text) : List (Text × Entry) :=
  s.entries.filter (·.1 != key)

/-- An entry is live: of the current version, and not older than the lifetime. -/
def isLive (s : Store) (e : Entry) : Bool :=
  e.version == s.version &&
    (s.lifetime.isInfinite || (s.now.sub e.time).le s.lifetime)

/-- The value of a key, if it has a live entry.  It is a use of the entry; an entry that is not live
is dropped. -/
def get (s : Store) (key : Text) : Option Text × Store :=
  if !s.enabled then (none, s)
  else
    match s.find? key with
    | none => (none, { s with misses := s.misses + 1 })
    | some e =>
      if s.isLive e then
        (some e.value, { s with entries := s.without key ++ [(key, e)], hits := s.hits + 1 })
      else (none, { s with entries := s.without key, misses := s.misses + 1 })

/-- Whether a key has a live entry.  It is no use of the entry; one that is not live is dropped. -/
def has (s : Store) (key : Text) : Bool × Store :=
  if !s.enabled then (false, s)
  else
    match s.find? key with
    | none => (false, s)
    | some e => if s.isLive e then (true, s) else (false, { s with entries := s.without key })

/-- Whether the store takes entries at all. -/
def accepts (s : Store) : Bool :=
  s.enabled && !s.capacity.le (.int 0)

/-- Whether a new entry needs room. -/
def isFull (s : Store) : Bool :=
  s.capacity.le (.int s.entries.length)

/-- The key of the entry that a write drops: the least recently used one, if the key is new and the
store is full. -/
def evicted? (s : Store) (key : Text) : Option Text :=
  if s.accepts && (s.find? key).isNone && s.isFull then s.entries.head?.map Prod.fst else none

/-- Writes an entry, as the most recently used one. -/
def set (s : Store) (key value : Text) : Store :=
  if !s.accepts then s
  else
    let kept :=
      if (s.find? key).isSome then s.without key
      else if s.isFull then s.entries.tail
      else s.entries
    { s with entries := kept ++ [(key, ⟨value, s.now, s.version⟩)] }

/-- Drops the entry of a key, live or not; whether there was one. -/
def delete (s : Store) (key : Text) : Bool × Store :=
  ((s.find? key).isSome, { s with entries := s.without key })

/-- Drops all entries and starts the counts again. -/
def clear (s : Store) : Store :=
  { s with entries := [], hits := 0, misses := 0 }

/-- Makes another version the current one. -/
def setVersion (s : Store) (version : Text) : Store :=
  { s with version }

/-- Drops all entries, starts the counts again and makes another version the current one. -/
def clearWithVersion (s : Store) (version : Text) : Store :=
  s.clear.setVersion version

/-- Drops all entries that are not live; how many there were. -/
def cleanup (s : Store) : Nat × Store :=
  let live := s.entries.filter fun (_, e) => s.isLive e
  (s.entries.length - live.length, { s with entries := live })

/-- Moves the clock. -/
def advance (s : Store) (milliseconds : Number) : Store :=
  { s with now := s.now.add milliseconds }

/-- The live entries with their values, the least recently used one first. -/
def liveEntries (s : Store) : List (Text × Text) :=
  if s.enabled then
    (s.entries.filter fun (_, e) => s.isLive e).map fun (key, e) => (key, e.value)
  else []

/-- The keys of the live entries. -/
def keys (s : Store) : List Text :=
  s.liveEntries.map Prod.fst

/-- The values of the live entries. -/
def values (s : Store) : List Text :=
  s.liveEntries.map Prod.snd

/-- The number of entries, live or not. -/
def size (s : Store) : Nat :=
  s.entries.length

/-- The share of reads that have given a value, in percent. -/
def hitRate (s : Store) : Float :=
  let total := s.hits + s.misses
  if total == 0 then 0.0 else s.hits.toFloat / total.toFloat * 100.0

end Store

end UtilityCss.Cache

import UtilityCss.Cache.Store
import UtilityCss.Failure.Basic

/-!
# Caches — settings as they are written

The settings of a cache are values of any type.  A value that is no number is found out when the
store first needs it: the capacity when an entry is written, the lifetime when an entry of the
current version is looked at.
-/

namespace UtilityCss

/-- A store with its settings as they are written. -/
structure Cache where
  maxSize : Json
  lifetime : Json
  enabled : Json
  store : Cache.Store

namespace Cache

/-- A number, or a truth value as a number. -/
def number? : Json → Option Number
  | .number n => some n
  | .bool b => some (.int (if b then 1 else 0))
  | _ => none

/-- The capacity that a setting asks for. -/
def capacityOf (j : Json) : Except Misuse Number :=
  match number? j with
  | some n => .ok n
  | none => .error .wrongType

/-- The lifetime that a setting asks for; an integer must be within the range of floats. -/
def lifetimeOf (j : Json) : Except Misuse Number :=
  match number? j with
  | some (.int i) =>
    if (Number.int i).toFloat.isInf then .error .outOfRange else .ok (.int i)
  | some n => .ok n
  | none => .error .wrongType

/-- The value of a setting, or zero for one that cannot be used. -/
def valueOr (setting : Except Misuse Number) : Number :=
  match setting with
  | .ok n => n
  | .error _ => .int 0

/-- An empty cache. -/
def create (maxSize lifetime enabled : Json) (now : Number := .int 0) : Cache :=
  ⟨maxSize, lifetime, enabled,
    { capacity := valueOr (capacityOf maxSize), lifetime := valueOr (lifetimeOf lifetime),
      enabled := enabled.isTruthy, now }⟩

/-- Changes the settings and nothing else. -/
def configure (c : Cache) (maxSize lifetime enabled : Json) : Cache :=
  ⟨maxSize, lifetime, enabled,
    { c.store with capacity := valueOr (capacityOf maxSize),
                   lifetime := valueOr (lifetimeOf lifetime), enabled := enabled.isTruthy }⟩

/-- A result together with the cache after it. -/
abbrev Step (α : Type) := Outcome α × Cache

/-- Goes on only if a setting can be used, where it is needed. -/
def guarded (c : Cache) (needed : Bool) (setting : Except Misuse Number)
    (next : Unit → α × Store) : Step α :=
  match needed, setting with
  | true, .error misuse => (.error (.misuse misuse), c)
  | _, _ =>
    let (result, store) := next ()
    (.ok result, { c with store })

/-- Whether the lifetime of a key's entry is looked at. -/
def looksAt (c : Cache) (key : Text) : Bool :=
  c.store.enabled && (c.store.find? key).any (·.version == c.store.version)

/-- Whether the lifetime of any entry is looked at. -/
def looksAtAny (c : Cache) : Bool :=
  c.store.entries.any fun (_, e) => e.version == c.store.version

/-- The value of a key. -/
def get (c : Cache) (key : Text) : Step (Option Text) :=
  c.guarded (c.looksAt key) (lifetimeOf c.lifetime) fun _ => c.store.get key

/-- Whether a key has a live entry. -/
def has (c : Cache) (key : Text) : Step Bool :=
  c.guarded (c.looksAt key) (lifetimeOf c.lifetime) fun _ => c.store.has key

/-- The message about an entry that is dropped for another. -/
def evictionLog (s : Store) (key : Text) : Log :=
  match s.evicted? key with
  | some evicted =>
    [⟨.debug, .cache, "Evicted least recently used entry ".toList ++ evicted⟩]
  | none => []

/-- Writes an entry. -/
def set (c : Cache) (key value : Text) : Step Unit × Log :=
  let step := c.guarded c.store.enabled (capacityOf c.maxSize) fun _ =>
    ((), c.store.set key value)
  (step, if step.1.isOk then evictionLog c.store key else [])

/-- Puts a value at the end of those that have been found, unless its key is there. -/
def keep (found : List (Text × Text)) (key value : Text) : List (Text × Text) :=
  if (found.lookup key).isSome then found else found ++ [(key, value)]

/-- The values of keys, after those that have been found before; the keys that have none are left
out. -/
def getMany (c : Cache) : List Text → List (Text × Text) → Step (List (Text × Text))
  | [], found => (.ok found, c)
  | key :: rest, found =>
    match c.get key with
    | (.error failure, c) => (.error failure, c)
    | (.ok none, c) => getMany c rest found
    | (.ok (some value), c) => getMany c rest (keep found key value)

/-- Writes entries, in order. -/
def setMany (c : Cache) : List (Text × Text) → Step Unit
  | [] => (.ok (), c)
  | (key, value) :: rest =>
    match (c.set key value).1 with
    | (.error failure, c) => (.error failure, c)
    | (.ok _, c) => setMany c rest

/-- Drops all entries that are not live; how many there were. -/
def cleanup (c : Cache) : Step Nat × Log :=
  let step := c.guarded c.looksAtAny (lifetimeOf c.lifetime) fun _ => c.store.cleanup
  let log : Log :=
    match step.1 with
    | .ok (n + 1) =>
      [⟨.debug, .cache,
        "Cache cleanup removed ".toList ++ Text.ofNat (n + 1) ++ " entries".toList⟩]
    | _ => []
  (step, log)

/-- The live entries with their values. -/
def entries (c : Cache) : Outcome (List (Text × Text)) :=
  (c.guarded (c.store.enabled && c.looksAtAny) (lifetimeOf c.lifetime) fun _ =>
    (c.store.liveEntries, c.store)).1

/-- Makes another version the current one. -/
def setVersion (c : Cache) (version : Text) : Cache × Log :=
  let log : Log :=
    if version == c.store.version then []
    else
      [⟨.debug, .cache,
        "Theme version ".toList ++ c.store.version ++ " -> ".toList ++ version⟩]
  ({ c with store := c.store.setVersion version }, log)

/-- Changes the store without looking at the settings. -/
def update (c : Cache) (change : Store → Store) : Cache :=
  { c with store := change c.store }

/-- The counts and settings of a cache. -/
structure Stats where
  hits : Nat
  misses : Nat
  size : Nat
  hitRate : Float
  maxSize : Json
  /-- The lifetime, minus one if it never ends. -/
  lifetime : Json
  version : Text

/-- The counts and settings. -/
def stats (c : Cache) : Outcome Stats :=
  match lifetimeOf c.lifetime with
  | .error misuse => .error (.misuse misuse)
  | .ok lifetime =>
    let s := c.store
    .ok ⟨s.hits, s.misses, s.size, s.hitRate, c.maxSize,
      if lifetime.isInfinite then .int (-1) else c.lifetime, s.version⟩

end Cache

end UtilityCss

import UtilityCss.ClassToken.Basic
import UtilityCss.Failure.Basic
import UtilityCss.Json.Table

/-!
# Configuration

The settings of a compiler as they are written in a rule document.  Their names are checked here and
their values are not: a value of the wrong type is found out where it is used.
-/

namespace UtilityCss

/-- The settings of a cache. -/
structure CacheOptions where
  /-- The number of entries that it holds. -/
  maxSize : Json := .int 1000
  /-- How long an entry lives, in milliseconds. -/
  lifetime : Json := .number (.float (1.0 / 0.0))
  enabled : Json := .bool true

/-- The settings of a compiler. -/
structure Config where
  cache : CacheOptions := {}
  /-- Whether a name may be registered only once. -/
  strictNames : Json := .bool false
  /-- Whether groups of class lists are expanded. -/
  groups : Json := .bool true
  /-- The length of the longest token that is read. -/
  maxTokenLength : Json := .int 500
  /-- Class strings that are left out. -/
  blocklist : List Json := []

namespace Config

/-- A name in a JSON document. -/
def named (name : String) : Json := .str name

/-- The names of the settings. -/
def names : List Json :=
  [named "cache", named "strict_rule_names", named "variant_groups", named "max_class_length",
    named "blocklist"]

/-- The names of the settings of the cache. -/
def cacheNames : List Json :=
  [named "max_size", named "ttl", named "enabled"]

/-- The texts of names, in their order, with commas between them; all must be names. -/
def sortedNames? (keys : List Json) : Option Text :=
  let texts := keys.filterMap fun
    | .string t => some t
    | _ => none
  if texts.length == keys.length then some (Text.join [',', ' '] (texts.mergeSort Text.le))
  else none

/-- Fails if there are keys other than the known ones. -/
def checkKeys (label : String) (known keys : List Json) : Outcome Unit :=
  match keys.filter (fun k => !known.any (Json.sameKey k)) with
  | [] => .ok ()
  | unknown =>
    match sortedNames? unknown with
    | some shown => .error (.badConfig (label.toList ++ shown))
    | none => .error (.misuse .wrongType)

/-- The keys of a value, each once. -/
def distinctKeys (j : Json) : Outcome (List Json) :=
  match j.elements?.bind Json.distinctKeys? with
  | some keys => .ok keys
  | none => .error (.misuse .wrongType)

/-- A value as a table. -/
def tableOf (j : Json) : Outcome Table :=
  match Table.ofJson j with
  | .ok t => .ok t
  | .error misuse => .error (.misuse misuse)

/-- Reads the settings of the cache; a lifetime of null never ends. -/
def readCache (j : Json) : Outcome CacheOptions := do
  let table ← if j.isTruthy then tableOf j else pure []
  checkKeys "Unknown cache keys: " cacheNames table.keys
  let defaults : CacheOptions := {}
  let lifetime :=
    match table.get? (named "ttl") with
    | some .null | none => defaults.lifetime
    | some j => j
  return ⟨(table.get? (named "max_size")).getD defaults.maxSize, lifetime,
    (table.get? (named "enabled")).getD defaults.enabled⟩

/-- Reads a configuration. -/
def ofJson (j : Json) : Outcome Config := do
  checkKeys "Unknown config keys: " names (← distinctKeys j)
  let table ← tableOf j
  let cache ← readCache ((table.get? (named "cache")).getD .null)
  let defaults : Config := {}
  let blocklist ←
    match table.get? (named "blocklist") with
    | some items => distinctKeys items
    | none => pure []
  return ⟨cache, (table.get? (named "strict_rule_names")).getD defaults.strictNames,
    (table.get? (named "variant_groups")).getD defaults.groups,
    (table.get? (named "max_class_length")).getD defaults.maxTokenLength, blocklist⟩

end Config

end UtilityCss

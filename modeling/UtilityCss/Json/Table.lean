import UtilityCss.Failure.Misuse
import UtilityCss.Json.Basic

/-!
# JSON — tables

A theme or a configuration may be given as an object or as a list of pairs, and in pairs the keys
are not only strings.  A table keeps its keys as they were first given, in order; of two equal keys
the first gives the place and the last the value.
-/

namespace UtilityCss

namespace Json

/-- The values that going through a value yields: the items of an array, the characters of a string
and the names of an object. -/
def elements? : Json → Option (List Json)
  | .array items => some items
  | .string t => some (t.map fun c => .string [c])
  | .object members => some (members.map fun (name, _) => .string name)
  | _ => none

/-- Two values are one key. -/
def sameKey (a b : Json) : Bool :=
  match a.key?, b.key? with
  | some k, some l => k == l
  | _, _ => false

/-- The first occurrence of every key, if all values are keys. -/
def distinctKeys? (items : List Json) : Option (List Json) :=
  if items.all (·.key?.isSome) then
    some (items.foldl (fun seen j => if seen.any (sameKey j) then seen else j :: seen) []).reverse
  else none

end Json

/-- A mapping from keys to values, in order. -/
abbrev Table := List (Json × Json)

namespace Table

/-- Sets the value of a key: in place if it is there, else at the end. -/
def set (t : Table) (key value : Json) : Table :=
  match t with
  | [] => [(key, value)]
  | (k, v) :: rest =>
    if Json.sameKey k key then (k, value) :: rest else (k, v) :: set rest key value

/-- The value of a key. -/
def get? (t : Table) (key : Json) : Option Json :=
  (t.find? fun (k, _) => Json.sameKey k key).map Prod.snd

/-- The keys in order. -/
def keys (t : Table) : List Json :=
  t.map Prod.fst

/-- The members of an object, if all keys are names. -/
def members? : Table → Option (List (Text × Json))
  | [] => some []
  | (.string name, value) :: rest => (members? rest).map ((name, value) :: ·)
  | _ :: _ => none

/-- An object as a table. -/
def ofMembers (members : List (Text × Json)) : Table :=
  members.map fun (name, j) => (.string name, j)

/-- A pair that an entry of a table is given by. -/
def pairOf (item : Json) : Except Misuse (Json × Json) :=
  match item.elements? with
  | none => .error .wrongType
  | some [key, value] => if key.key?.isSome then .ok (key, value) else .error .wrongType
  | some _ => .error .badValue

/-- A table from pairs. -/
def ofPairs : List Json → Table → Except Misuse Table
  | [], t => .ok t
  | item :: rest, t =>
    match pairOf item with
    | .error e => .error e
    | .ok (key, value) => ofPairs rest (t.set key value)

/-- A table from a value: an object, or something whose elements are pairs. -/
def ofJson (j : Json) : Except Misuse Table :=
  match j with
  | .object members => .ok (ofMembers members)
  | _ =>
    match j.elements? with
    | some items => ofPairs items []
    | none => .error .wrongType

/-- The text of a table. -/
def inspect (t : Table) : Text :=
  Char.ofNat 123 ::
    Text.join [',', ' '] (t.map fun (k, v) => k.inspect ++ ':' :: ' ' :: v.inspect) ++
    [Char.ofNat 125]

end Table

end UtilityCss

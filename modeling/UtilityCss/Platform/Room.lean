import UtilityCss.Failure.Basic

/-!
# Platform — room

Patterns and values may be nested to any depth, and a text may be asked for that is as wide as any
number.  What reads and writes them runs with a stack and a memory of some size, and ends with a
failure where they do not suffice.  Where that is, is up to the machine.

Apart from that, an integer of more digits than are read is not written either.
-/

namespace UtilityCss

/-- What a machine has room for. -/
class Room where
  /-- The stack holds the reading of a pattern. -/
  readsPattern : Text → Bool
  /-- The stack holds the writing of a value. -/
  writesValue : Json → Bool
  /-- The memory holds a text of that length. -/
  holdsText : Nat → Bool

namespace Json

mutual

/-- No integer in a value has more digits than are written. -/
def isWritable : Json → Bool
  | .number (.int i) => (Text.ofNat i.natAbs).length ≤ Number.maxDigits
  | .number (.float _) | .null | .bool _ | .string _ => true
  | .array items => areWritable items
  | .object members => membersWritable members

/-- No integer in the items of an array has more digits than are written. -/
def areWritable : List Json → Bool
  | [] => true
  | j :: rest => isWritable j && areWritable rest

/-- No integer in the members of an object has more digits than are written. -/
def membersWritable : List (Text × Json) → Bool
  | [] => true
  | (_, j) :: rest => isWritable j && membersWritable rest

end

/-- The text of a value, as far as it can be written; a string is its own text. -/
def shown [Room] (j : Json) : Outcome Text :=
  match j with
  | .string t => .ok t
  | j =>
    if !Room.writesValue j then .error (.misuse .engineLimit)
    else if !j.isWritable then .error (.misuse .badValue)
    else .ok j.inspect

end Json

end UtilityCss

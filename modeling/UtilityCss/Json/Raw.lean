import UtilityCss.Json.Reader
import UtilityCss.Json.Writer

/-!
# JSON — values of raw strings

A text is made of characters, and half of a surrogate pair is none.  A raw string is a row of code
points and may hold such halves, alone or next to one another.  A raw value is a JSON value of raw
strings, and every JSON value is one (`ofJson`).

Raw values are here for their canonical text alone: a half is written by its unit, as each of the
two units of a character beyond the first plane is.
-/

namespace UtilityCss.Json

/-- A string of code points. -/
abbrev Points := List (Fin 0x110000)

namespace Points

/-- The code point of a character. -/
def ofChar (c : Char) : Fin 0x110000 :=
  Fin.ofNat 0x110000 c.toNat

/-- The code points of a text. -/
def ofText (t : Text) : Points :=
  t.map ofChar

/-- Strings are in the order of their code points, a start of a string before the string. -/
def le : Points → Points → Bool
  | [], _ => true
  | _ :: _, [] => false
  | c :: s, d :: t => if c == d then le s t else decide (c < d)

/-- Half of a surrogate pair. -/
def isHalf (code : Fin 0x110000) : Bool :=
  isHighUnit code || isLowUnit code

/-- A code point in a string. -/
def escape (code : Fin 0x110000) : Text :=
  if isHalf code then unitEscape code else escapeChar (Char.ofNat code)

/-- A string. -/
def write (s : Points) : Text :=
  Text.doubleQuote :: s.flatMap escape ++ [Text.doubleQuote]

end Points

/-- A JSON value of raw strings. -/
inductive Raw where
  | null
  | bool (value : Bool)
  | number (value : Number)
  | string (value : Points)
  | array (items : List Raw)
  | object (members : List (Points × Raw))

namespace Raw

mutual

/-- A value as a raw one. -/
def ofJson : Json → Raw
  | .null => .null
  | .bool b => .bool b
  | .number n => .number n
  | .string t => .string (.ofText t)
  | .array items => .array (ofItems items)
  | .object members => .object (ofMembers members)

/-- The items of an array as raw ones. -/
def ofItems : List Json → List Raw
  | [] => []
  | j :: rest => ofJson j :: ofItems rest

/-- The members of an object as raw ones. -/
def ofMembers : List (Text × Json) → List (Points × Raw)
  | [] => []
  | (name, j) :: rest => (.ofText name, ofJson j) :: ofMembers rest

end

/-- An object from its names and the canonical texts of its values. -/
def writeObject (members : List (Points × Text)) : Text :=
  let ordered := members.mergeSort fun a b => Points.le a.1 b.1
  Char.ofNat 123 ::
    Text.join [','] (ordered.map fun (name, value) => name.write ++ [':'] ++ value) ++
      [Char.ofNat 125]

mutual

/-- The canonical text of a raw value: members in the order of their names and no spaces. -/
def canonical : Raw → Text
  | .null => "null".toList
  | .bool true => "true".toList
  | .bool false => "false".toList
  | .number n => writeNumber n
  | .string s => s.write
  | .array items => '[' :: Text.join [','] (canonicalItems items) ++ [']']
  | .object members => writeObject (canonicalMembers members)

/-- The canonical texts of the items of an array. -/
def canonicalItems : List Raw → List Text
  | [] => []
  | r :: rest => canonical r :: canonicalItems rest

/-- The names of the members of an object with the canonical texts of their values. -/
def canonicalMembers : List (Points × Raw) → List (Points × Text)
  | [] => []
  | (name, r) :: rest => (name, canonical r) :: canonicalMembers rest

end

end Raw

end UtilityCss.Json

import UtilityCss.Json.Basic

/-!
# JSON — writing

JSON texts are ASCII: any other character is written as one or two UTF-16 units in hexadecimal.  The
canonical text of a value has the members of objects in the order of their names and no spaces; the
spaced text keeps the order and puts a space after commas and colons.
-/

namespace UtilityCss.Json

/-- The layout of a JSON text. -/
structure Layout where
  comma : Text
  colon : Text
  sorted : Bool

/-- Sorted members and no spaces. -/
def Layout.canonical : Layout := ⟨[','], [':'], true⟩

/-- Members as they are and a space after each comma and colon. -/
def Layout.spaced : Layout := ⟨[',', ' '], [':', ' '], false⟩

/-- A UTF-16 unit in a string. -/
def unitEscape (unit : Nat) : Text :=
  '\\' :: 'u' :: Text.hex 4 unit

/-- A character in a string. -/
def escapeChar (c : Char) : Text :=
  let n := c.toNat
  if n == 34 || n == 92 then ['\\', c]
  else if c == '\n' then ['\\', 'n']
  else if c == '\r' then ['\\', 'r']
  else if c == '\t' then ['\\', 't']
  else if n == 8 then ['\\', 'b']
  else if n == 12 then ['\\', 'f']
  else if 32 ≤ n && n < 127 then [c]
  else if n < 0x10000 then unitEscape n
  else
    let offset := n - 0x10000
    unitEscape (0xD800 + offset / 0x400) ++ unitEscape (0xDC00 + offset % 0x400)

/-- A string. -/
def writeString (t : Text) : Text :=
  Text.doubleQuote :: t.flatMap escapeChar ++ [Text.doubleQuote]

/-- A number; the floats that are not finite have words of their own. -/
def writeNumber : Number → Text
  | .int i => Text.ofInt i
  | .float x =>
    if x.isNaN then "NaN".toList
    else if x.isInf then (if x < 0.0 then "-Infinity".toList else "Infinity".toList)
    else Decimal.shortText x

/-- Members in the order of their names. -/
def sortMembers (members : List (Text × Text)) : List (Text × Text) :=
  members.mergeSort fun a b => Text.le a.1 b.1

/-- An object from its names and the texts of its values. -/
def writeObject (layout : Layout) (members : List (Text × Text)) : Text :=
  let ordered := if layout.sorted then sortMembers members else members
  Char.ofNat 123 ::
    Text.join layout.comma (ordered.map fun (name, value) =>
      writeString name ++ layout.colon ++ value) ++ [Char.ofNat 125]

mutual

/-- The JSON text of a value. -/
def write (layout : Layout) : Json → Text
  | .null => "null".toList
  | .bool true => "true".toList
  | .bool false => "false".toList
  | .number n => writeNumber n
  | .string t => writeString t
  | .array items => '[' :: Text.join layout.comma (writeItems layout items) ++ [']']
  | .object members => writeObject layout (writeMembers layout members)

/-- The JSON texts of the items of an array. -/
def writeItems (layout : Layout) : List Json → List Text
  | [] => []
  | j :: rest => write layout j :: writeItems layout rest

/-- The names of the members of an object with the JSON texts of their values. -/
def writeMembers (layout : Layout) : List (Text × Json) → List (Text × Text)
  | [] => []
  | (name, j) :: rest => (name, write layout j) :: writeMembers layout rest

end

/-- The canonical text of a value. -/
def canonical (j : Json) : Text :=
  write .canonical j

end UtilityCss.Json

import UtilityCss.Number.Basic
import UtilityCss.Text.Quoted

/-!
# JSON — values

Rule files, themes and configurations are JSON values.  An object is a list of members in order, and
its names are distinct: setting a member that is there replaces its value in place.

Besides the type this module holds what the library asks of a value of unknown shape: whether it
counts as true, what it is as a key, and its text.
-/

namespace UtilityCss

/-- A JSON value. -/
inductive Json where
  | null
  | bool (value : Bool)
  | number (value : Number)
  | string (value : Text)
  | array (items : List Json)
  | object (members : List (Text × Json))
  deriving Inhabited

namespace Json

/-- An integer. -/
def int (i : Int) : Json := .number (.int i)

/-- A string constant. -/
def str (s : String) : Json := .string s.toList

/-- Sets a member: in place if the name is there, else at the end. -/
def setMember (name : Text) (value : Json) : List (Text × Json) → List (Text × Json)
  | [] => [(name, value)]
  | (n, v) :: rest => if n == name then (n, value) :: rest else (n, v) :: setMember name value rest

/-- The member of that name. -/
def member? (name : Text) : List (Text × Json) → Option Json
  | [] => none
  | (n, v) :: rest => if n == name then some v else member? name rest

/-- The member of that name, if the value is an object that has it. -/
def get? (j : Json) (name : String) : Option Json :=
  match j with
  | .object members => member? name.toList members
  | _ => none

/-- A value counts as true unless it is null, false, zero or empty. -/
def isTruthy : Json → Bool
  | .null => false
  | .bool b => b
  | .number (.int i) => i != 0
  | .number (.float x) => !(x == 0.0)
  | .string t => !t.isEmpty
  | .array items => !items.isEmpty
  | .object members => !members.isEmpty

/-- The integer that a float is, if it is one. -/
def wholeFloat? (x : Float) : Option Int :=
  if x.isNaN || x.isInf then none
  else
    let v := (Decimal.Binary.ofFloat x).value
    if v.num % v.den == 0 then
      let n : Int := Int.ofNat (v.num / v.den)
      some (if Decimal.isNegative x then -n else n)
    else none

/-- A value as a key: numbers and truth values with one value are one key. -/
inductive Key where
  | null
  | int (value : Int)
  | float (bits : UInt64)
  | text (value : Text)
  deriving DecidableEq

/-- The key that a value is; arrays and objects are none. -/
def key? : Json → Option Key
  | .null => some .null
  | .bool b => some (.int (if b then 1 else 0))
  | .number (.int i) => some (.int i)
  | .number (.float x) =>
    match wholeFloat? x with
    | some i => some (.int i)
    | none => some (.float x.toBits)
  | .string t => some (.text t)
  | .array _ => none
  | .object _ => none

mutual

/-- The text of a value inside of another: strings are quoted. -/
def inspect : Json → Text
  | .null => "None".toList
  | .bool true => "True".toList
  | .bool false => "False".toList
  | .number n => n.text
  | .string t => Text.quoted t
  | .array items => '[' :: Text.join [',', ' '] (inspectItems items) ++ [']']
  | .object members =>
    Char.ofNat 123 :: Text.join [',', ' '] (inspectMembers members) ++ [Char.ofNat 125]

/-- The texts of the items of an array. -/
def inspectItems : List Json → List Text
  | [] => []
  | j :: rest => inspect j :: inspectItems rest

/-- The texts of the members of an object. -/
def inspectMembers : List (Text × Json) → List Text
  | [] => []
  | (name, j) :: rest => (Text.quoted name ++ ':' :: ' ' :: inspect j) :: inspectMembers rest

end

/-- The text of a value: a string is its own text. -/
def display : Json → Text
  | .string t => t
  | j => inspect j

end Json

end UtilityCss

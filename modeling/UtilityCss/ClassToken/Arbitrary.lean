import UtilityCss.ClassToken.Variant
import UtilityCss.Text.Digit

/-!
# Class tokens — arbitrary values and modifiers

An arbitrary value stands in square brackets, as in `w-[17px]` or `[color:red]`, perhaps with a type
hint before a colon.  A modifier is what follows the last slash that leaves a number, a percentage
or a bracketed value up to the end, as in `bg-red-500/80`.
-/

namespace UtilityCss.ClassToken

/-- The first bracketed content that is not empty. -/
def bracketContent? : Text → Option Text
  | [] => none
  | c :: rest =>
    match if c == '[' then payload? rest else none with
    | some (content, _) => some content
    | none => bracketContent? rest

/-- Whether the text holds bracketed content. -/
def hasArbitrary (t : Text) : Bool :=
  (bracketContent? t).isSome

/-- The text without one line feed at its end. -/
def dropLineEnd (t : Text) : Text :=
  match t.reverse with
  | '\n' :: rest => rest.reverse
  | _ => t

/-- Digits, a decimal or percentage of digits and points, or a bracketed content. -/
def isModifier (t : Text) : Bool :=
  let isNumeral := fun c => Text.isDecimal c || c == '.'
  let numeral :=
    !(t.takeWhile isNumeral).isEmpty &&
      (t.dropWhile isNumeral == [] || t.dropWhile isNumeral == ['%'])
  let bracketed :=
    match t with
    | '[' :: rest =>
      match payload? rest with
      | some (_, after) => after.isEmpty
      | none => false
    | _ => false
  numeral || bracketed

/-- What follows the first slash after which only a modifier stands. -/
def modifier? : Text → Option Text
  | [] => none
  | c :: rest =>
    if c == '/' && isModifier (dropLineEnd rest) then some (dropLineEnd rest) else modifier? rest

/-- Spaces for underscores, but not for one after a backslash. -/
def spacesForUnderscores (afterBackslash : Bool) : Text → Text
  | [] => []
  | c :: rest =>
    (if c == '_' && !afterBackslash then ' ' else c) :: spacesForUnderscores (c == '\\') rest

/-- The value that an arbitrary value stands for: underscores are spaces unless escaped. -/
def normalizeArbitrary (t : Text) : Text :=
  spacesForUnderscores false t

/-- A bracketed value with its type hint, if it has one. -/
structure ArbitraryValue where
  type : Option Text
  value : Text
  deriving DecidableEq, Repr

/-- A character of a type hint: a letter or a hyphen, where the letters are compared without case
and so include the dotted and dotless `i`, the long `s` and the Kelvin sign. -/
def isHintChar (c : Char) : Bool :=
  ('a' ≤ c && c ≤ 'z') || ('A' ≤ c && c ≤ 'Z') || c == '-' ||
    c.toNat == 0x130 || c.toNat == 0x131 || c.toNat == 0x17F || c.toNat == 0x212A

/-- What stands before the `]` that ends the text, if it is not empty and of one line. -/
def beforeClosing? (t : Text) : Option Text :=
  match (dropLineEnd t).reverse with
  | ']' :: content =>
    if content.isEmpty || content.contains '\n' then none else some content.reverse
  | _ => none

/-- The type hint before a colon and what follows the colon. -/
def typeHint? (t : Text) : Option (Text × Text) :=
  match t.takeWhile isHintChar, t.dropWhile isHintChar with
  | [], _ => none
  | hint, ':' :: rest => some (hint, rest)
  | _, _ => none

/-- Reads a bracketed value.  A hint that would leave no value is part of the value. -/
def ArbitraryValue.read? : Text → Option ArbitraryValue
  | '[' :: inner =>
    let typed :=
      match typeHint? inner with
      | some (hint, rest) =>
        (beforeClosing? rest).map fun value =>
          ArbitraryValue.mk (some hint) (normalizeArbitrary value)
      | none => none
    match typed with
    | some v => some v
    | none => (beforeClosing? inner).map fun value => ⟨none, normalizeArbitrary value⟩
  | _ => none

end UtilityCss.ClassToken

import UtilityCss.Pattern.Cursor
import UtilityCss.Text.Letter

/-!
# Patterns — escapes

What a character after a backslash stands for: a class of characters, a place in the text, a code
point in hexadecimal or octal, a named character, a group read before, or the character itself.
Letters that stand for nothing are refused.
-/

namespace UtilityCss.Pattern

/-- The class of a letter after a backslash. -/
def Category.ofLetter? : Char → Option Category
  | 'd' => some .digit
  | 'D' => some .notDigit
  | 's' => some .space
  | 'S' => some .notSpace
  | 'w' => some .word
  | 'W' => some .notWord
  | _ => none

/-- The place of a letter after a backslash. -/
def Place.ofLetter? : Char → Option Place
  | 'A' => some .textStart
  | 'b' => some .boundary
  | 'B' => some .noBoundary
  | 'Z' => some .textEnd
  | _ => none

/-- The control character of a letter after a backslash, or the backslash itself. -/
def controlCode? : Char → Option Nat
  | 'a' => some 7
  | 'b' => some 8
  | 'f' => some 12
  | 'n' => some 10
  | 'r' => some 13
  | 't' => some 9
  | 'v' => some 11
  | '\\' => some 92
  | _ => none

/-- A character of the names of characters. -/
def isNameChar (c : Char) : Bool :=
  Text.isAsciiLetter c || Text.isAsciiDigit c || c == ' ' || c == '-'

/-- The names of characters, which a standard fixes. -/
class Names where
  /-- The code point of the character of a name, in any case. -/
  code? : Text → Option Nat
  /-- Names are made of letters, digits, spaces and hyphens. -/
  isNameChar_of_code? {name : Text} {code : Nat} : code? name = some code → name.all isNameChar

/-- An octal digit. -/
def isOctal (c : Char) : Bool :=
  '0' ≤ c && c ≤ '7'

/-- A hexadecimal digit. -/
def isHex (c : Char) : Bool :=
  (Text.hexValue? c).isSome

/-- The value of digits in a base. -/
def valueIn (base : Nat) (digits : Text) : Nat :=
  digits.foldl (fun n c => base * n + (Text.hexValue? c).getD 0) 0

/-- The bound of the values that are examined as code points: those of a signed 32-bit word. -/
def codeBound : Nat :=
  0x80000000

namespace Reading

/-- Fails because of an escape that has just been taken. -/
def failEscape (problem : Text → Problem) (escape : Text) : Reading α :=
  failBack (problem escape) escape.length

/-- The code point of exactly `count` hexadecimal digits after `start`.  A value beyond the code
points is no escape; one beyond the values that are examined at all ends the reading. -/
def hexEscape (start : Text) (count : Nat) : Reading Nat := do
  let digits ← takeUpTo isHex count
  let escape := start ++ digits
  if digits.length < count then failEscape .incompleteEscape escape
  else
    let code := valueIn 16 digits
    if code ≥ codeBound then throw .codeTooLarge
    else if code > 0x10FFFF then failEscape .badEscape escape
    else return code

variable [Names]

/-- The code point of a character name in braces. -/
def namedEscape : Reading Nat := do
  if ← accept (Char.ofNat 123) then
    let name ← name (Char.ofNat 125) "character name"
    match Names.code? name with
    | some code => return code
    | none => failBack (.unknownCharacterName name) (name.length + 4)
  else failBack .missingBrace 0

/-- An octal escape is at most 0o377. -/
def octalCode (digits : Text) : Reading Nat := do
  let code := valueIn 8 digits
  if code > 0o377 then failEscape .octalTooLarge ('\\' :: digits) else return code

/-- The escapes for one code point that mean the same inside and outside of a set, if `c` opens one.
Digits are left out. -/
def codeEscape? (c : Char) : Reading (Option Nat) := do
  if c == 'x' then return some (← hexEscape ['\\', c] 2)
  else if c == 'u' then return some (← hexEscape ['\\', c] 4)
  else if c == 'U' then return some (← hexEscape ['\\', c] 8)
  else if c == 'N' then return some (← namedEscape)
  else return none

/-- A character that stands for itself after a backslash: any but an ASCII letter. -/
def plainEscape (c : Char) : Reading Nat :=
  if Text.isAsciiLetter c then failEscape .badEscape ['\\', c] else return c.toNat

/-- What `\c` stands for in a set. -/
def setEscape (c : Char) : Reading SetItem := do
  match controlCode? c, Category.ofLetter? c with
  | some code, _ => return .code code
  | none, some category => return .category category
  | none, none =>
    match ← codeEscape? c with
    | some code => return .code code
    | none =>
      if isOctal c then return .code (← octalCode (c :: (← takeUpTo isOctal 2)))
      else if Text.isAsciiDigit c then failEscape .badEscape ['\\', c]
      else return .code (← plainEscape c)

/-- A reference to a group by the digits of its number, which have just been taken. -/
def groupReference (digits : Text) : Reading Item := do
  let group := Text.digitsValue digits
  if group < (← groups) then
    match ← width? group with
    | none => failBack .openGroup (digits.length + 1)
    | some width =>
      checkLookBehind group
      return .backref group width
  else failBack (.unknownGroup group) digits.length

/-- An escape that opens with a digit other than zero: three octal digits are a code point, any
other one or two digits refer to a group. -/
def digitEscape (c : Char) : Reading Item := do
  match ← takeUpTo Text.isAsciiDigit 1 with
  | [d] =>
    if isOctal c && isOctal d then
      match ← takeUpTo isOctal 1 with
      | [e] => return .code (← octalCode [c, d, e])
      | _ => groupReference [c, d]
    else groupReference [c, d]
  | _ => groupReference [c]

/-- What `\c` stands for outside of a set. -/
def itemEscape (c : Char) : Reading Item := do
  match Place.ofLetter? c, Category.ofLetter? c, controlCode? c with
  | some place, _, _ => return .place place
  | none, some category, _ => return .set false [.category category]
  | none, none, some code => return .code code
  | none, none, none =>
    match ← codeEscape? c with
    | some code => return .code code
    | none =>
      if c == '0' then return .code (valueIn 8 (← takeUpTo isOctal 2))
      else if Text.isAsciiDigit c then digitEscape c
      else return .code (← plainEscape c)

end Reading

end UtilityCss.Pattern

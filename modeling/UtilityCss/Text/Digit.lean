import UtilityCss.Text.Bounds

/-!
# Text — digits

Decimal digits of any script come in runs of ten that start at their zero, so a table of the zeros
gives both the class and the value.  `isDigit` is wider: it also takes superscripts, circled digits
and their like, which stand for a digit but do not take part in positional notation.
-/

namespace UtilityCss.Text

/-- The zeros of the scripts of Unicode 14, in order. -/
def decimalZeros : Array Nat := #[
  48, 1632, 1776, 1984, 2406, 2534, 2662, 2790, 2918, 3046, 3174, 3302, 3430, 3558, 3664, 3792,
  3872, 4160, 4240, 6112, 6160, 6470, 6608, 6784, 6800, 6992, 7088, 7232, 7248, 42528, 43216,
  43264, 43472, 43504, 43600, 44016, 65296, 66720, 68912, 69734, 69872, 69942, 70096, 70384,
  70736, 70864, 71248, 71360, 71472, 71904, 72016, 72784, 73040, 73120, 92768, 92864, 93008,
  120782, 120792, 120802, 120812, 120822, 123200, 123632, 125264, 130032]

/-- The bounds of the digits that are not decimal. -/
def looseDigitBounds : Array Nat := #[
  178, 180, 185, 186, 4969, 4978, 6618, 6619, 8304, 8305, 8308, 8314, 8320, 8330, 9312, 9321,
  9332, 9341, 9352, 9361, 9450, 9451, 9461, 9470, 9471, 9472, 10102, 10111, 10112, 10121, 10122,
  10131, 68160, 68164, 69216, 69225, 69714, 69723, 127232, 127243]

/-- The value of a decimal digit of any script. -/
def decimalValue? (c : Char) : Option Nat :=
  if c.toNat < 128 then
    if '0' ≤ c && c ≤ '9' then some (c.toNat - '0'.toNat) else none
  else
    let i := countUpTo (fun i => decimalZeros.getD i 0) c.toNat 0 decimalZeros.size
    if i == 0 then none
    else
      let value := c.toNat - decimalZeros.getD (i - 1) 0
      if value < 10 then some value else none

/-- A decimal digit of any script. -/
def isDecimal (c : Char) : Bool :=
  (decimalValue? c).isSome

/-- An ASCII digit. -/
def isAsciiDigit (c : Char) : Bool :=
  '0' ≤ c && c ≤ '9'

/-- The value of a list of ASCII digits, the most significant first. -/
def digitsValue (digits : Text) : Nat :=
  digits.foldl (fun n c => 10 * n + (c.toNat - 48)) 0

/-- A digit in the wide sense: decimal, superscript, circled and so on. -/
def isDigit (c : Char) : Bool :=
  if c.toNat < 128 then isAsciiDigit c
  else isDecimal c || withinBounds looseDigitBounds c.toNat

end UtilityCss.Text

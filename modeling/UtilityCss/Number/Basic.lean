import UtilityCss.Number.Decimal

/-!
# Number — integers and floats

A number of a document is an unbounded integer or a float.  Integers are added and subtracted
exactly; as soon as a float takes part, the arithmetic is that of floats.  Numbers are compared by
their values, an integer and a float exactly, without rounding the integer.
-/

namespace UtilityCss

/-- An integer or a float. -/
inductive Number where
  | int (value : Int)
  | float (value : Float)
  deriving Inhabited

namespace Number

/-- Integers with more digits are neither read nor written. -/
def maxDigits : Nat := 4300

/-- The float nearest to the number. -/
def toFloat : Number → Float
  | .int i => if i < 0 then -(Decimal.toFloat i.natAbs 0) else Decimal.toFloat i.natAbs 0
  | .float x => x

/-- The sum. -/
def add : Number → Number → Number
  | .int i, .int j => .int (i + j)
  | a, b => .float (a.toFloat + b.toFloat)

/-- The difference. -/
def sub : Number → Number → Number
  | .int i, .int j => .int (i - j)
  | a, b => .float (a.toFloat - b.toFloat)

/-- The order of numbers; a float that is not a number is in no relation. -/
def le : Number → Number → Bool
  | .int i, .int j => i ≤ j
  | .int i, .float x =>
    if x.isNaN then false
    else if x.isInf then !Decimal.isNegative x
    else i ≤ Decimal.floor x
  | .float x, .int j =>
    if x.isNaN then false
    else if x.isInf then Decimal.isNegative x
    else Decimal.ceil x ≤ j
  | .float x, .float y => x ≤ y

/-- Neither an integer nor a finite float. -/
def isInfinite : Number → Bool
  | .int _ => false
  | .float x => x.isInf

/-- The integer's digits, or the shortest text of the float. -/
def text : Number → Text
  | .int i => Text.ofInt i
  | .float x => Decimal.shortText x

end Number

end UtilityCss

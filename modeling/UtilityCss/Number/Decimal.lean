import UtilityCss.Text.Basic

/-!
# Number — decimal texts of floats

A finite float is `mantissa · 2 ^ exponent`, and its text has the fewest digits that read back: for
one digit, two, and so on, the two neighbours of the value on that decimal grid are tried against
the interval of reals that round to the value.  All arithmetic is exact, on natural numbers.

`shortText` is that text in the layout of the library's documents; `fixedText` has a fixed number of
places, rounded from the exact value with ties to even.
-/

namespace UtilityCss.Decimal

/-- A power of two. -/
def twoTo (exponent : Nat) : Nat :=
  Nat.pow 2 exponent

/-- A power of ten. -/
def tenTo (exponent : Nat) : Nat :=
  Nat.pow 10 exponent

/-- The size of a finite float: `mantissa · 2 ^ exponent`.  `narrow` says that the gap below the
value is half the gap above it. -/
structure Binary where
  mantissa : Nat
  exponent : Int
  narrow : Bool

/-- The sign bit of a float. -/
def isNegative (x : Float) : Bool :=
  x.toBits.toNat / twoTo 63 == 1

/-- The size of a finite float. -/
def Binary.ofFloat (x : Float) : Binary :=
  let bits := x.toBits.toNat
  let fraction := bits % twoTo 52
  let biased := bits / twoTo 52 % twoTo 11
  if biased == 0 then ⟨fraction, -1074, false⟩
  else ⟨fraction + twoTo 52, Int.ofNat biased - 1075, fraction == 0 && biased > 1⟩

/-- A fraction of natural numbers. -/
structure Ratio where
  num : Nat
  den : Nat

namespace Ratio

/-- `a < b`, for positive denominators. -/
def lt (a b : Ratio) : Bool := a.num * b.den < b.num * a.den

/-- `a ≤ b`, for positive denominators. -/
def le (a b : Ratio) : Bool := a.num * b.den ≤ b.num * a.den

/-- `digits · 10 ^ place`. -/
def ofDecimal (digits : Nat) (place : Int) : Ratio :=
  if 0 ≤ place then ⟨digits * tenTo place.toNat, 1⟩ else ⟨digits, tenTo (-place).toNat⟩

/-- The greatest natural number at most `r / 10 ^ place`. -/
def floorAt (r : Ratio) (place : Int) : Nat :=
  if 0 ≤ place then r.num / (r.den * tenTo place.toNat) else r.num * tenTo (-place).toNat / r.den

/-- The distance of two fractions. -/
def distance (a b : Ratio) : Ratio :=
  let x := a.num * b.den
  let y := b.num * a.den
  ⟨(x - y) + (y - x), a.den * b.den⟩

/-- The nearest natural number, an even one on a tie. -/
def round (r : Ratio) : Nat :=
  let low := r.num / r.den
  let twice := 2 * (r.num % r.den)
  if twice < r.den then low
  else if twice > r.den then low + 1
  else if low % 2 == 0 then low else low + 1

end Ratio

namespace Binary

/-- `quarters / 4 · 2 ^ exponent`. -/
def scaled (b : Binary) (quarters : Nat) : Ratio :=
  if 0 ≤ b.exponent then ⟨quarters * twoTo b.exponent.toNat, 4⟩
  else ⟨quarters, 4 * twoTo (-b.exponent).toNat⟩

/-- The exact value. -/
def value (b : Binary) : Ratio := b.scaled (4 * b.mantissa)

/-- The greatest natural number at most the value. -/
def floor (b : Binary) : Nat :=
  b.value.num / b.value.den

/-- The least natural number at least the value. -/
def ceil (b : Binary) : Nat :=
  (b.value.num + b.value.den - 1) / b.value.den

/-- Whether a fraction rounds to the value: it is between the middles of the gaps around it, ends
included iff the mantissa is even. -/
def holds (b : Binary) (r : Ratio) : Bool :=
  let low := b.scaled (4 * b.mantissa - if b.narrow then 1 else 2)
  let high := b.scaled (4 * b.mantissa + 2)
  if b.mantissa % 2 == 0 then low.le r && r.le high else low.lt r && r.lt high

/-- The number of places of a positive fraction before its point, negative for a fraction below a
tenth: `r < 10 ^ magnitude r`, and no smaller exponent will do. -/
def magnitude (r : Ratio) : Int :=
  let whole := r.num / r.den
  if whole > 0 then (Nat.toDigits 10 whole).length
  else
    let rec go : Nat → Nat → Int
      | 0, shift => -(shift : Int)
      | fuel + 1, shift =>
        if r.num * tenTo (shift + 1) < r.den then go fuel (shift + 1) else -(shift : Int)
    go 400 0

/-- The decimal with `count` digits that reads back, if there is one: `digits · 10 ^ place`. -/
def decimalWith? (b : Binary) (size : Int) (count : Nat) : Option (Nat × Int) :=
  let place := size - count
  let low := b.value.floorAt place
  let below := Ratio.ofDecimal low place
  let above := Ratio.ofDecimal (low + 1) place
  let pick := fun digits => some (digits, place)
  match b.holds below, b.holds above with
  | true, false => pick low
  | false, true => pick (low + 1)
  | false, false => none
  | true, true =>
    let left := b.value.distance below
    let right := b.value.distance above
    if left.lt right then pick low
    else if right.lt left then pick (low + 1)
    else if low % 2 == 0 then pick low else pick (low + 1)

/-- The shortest decimal that reads back; seventeen digits always do. -/
def shortest (b : Binary) : Nat × Int :=
  let size := magnitude b.value
  let rec go : Nat → Nat → Nat × Int
    | 0, _ => (b.mantissa, b.exponent)
    | fuel + 1, count =>
      match b.decimalWith? size count with
      | some found => found
      | none => go fuel (count + 1)
  go 17 1

end Binary

/-- The greatest integer at most a finite float. -/
def floor (x : Float) : Int :=
  if isNegative x then -(Binary.ofFloat x).ceil else (Binary.ofFloat x).floor

/-- The least integer at least a finite float. -/
def ceil (x : Float) : Int :=
  if isNegative x then -(Binary.ofFloat x).floor else (Binary.ofFloat x).ceil

/-- A decimal without zeros at its end. -/
def stripZeros : Nat → Nat × Int → Nat × Int
  | 0, d => d
  | fuel + 1, (digits, place) =>
    if digits != 0 && digits % 10 == 0 then stripZeros fuel (digits / 10, place + 1)
    else (digits, place)

/-- The exponent of the scientific notation: a sign and at least two digits. -/
def exponentText (e : Int) : Text :=
  let digits := Text.ofNat e.natAbs
  'e' :: (if e < 0 then '-' else '+') :: (if digits.length < 2 then '0' :: digits else digits)

/-- The layout of `digits · 10 ^ place`: positional, with at least one place after the point, from
10⁻⁴ up to 10¹⁶, and scientific outside of it. -/
def layout (digits : Nat) (place : Int) : Text :=
  let shown := Text.ofNat digits
  let point : Int := shown.length + place
  if point ≤ -4 || point > 16 then
    match shown with
    | [] => []
    | [only] => only :: exponentText (point - 1)
    | first :: rest => first :: '.' :: rest ++ exponentText (point - 1)
  else if point ≤ 0 then '0' :: '.' :: List.replicate (-point).toNat '0' ++ shown
  else if place ≥ 0 then shown ++ List.replicate place.toNat '0' ++ ['.', '0']
  else shown.take point.toNat ++ '.' :: shown.drop point.toNat

/-- The text of a float with the fewest digits that read back. -/
def shortText (x : Float) : Text :=
  if x.isNaN then "nan".toList
  else
    let size :=
      if x.isInf then "inf".toList
      else
        let b := Binary.ofFloat x
        if b.mantissa == 0 then "0.0".toList
        else
          let (digits, place) := stripZeros 20 b.shortest
          layout digits place
    if isNegative x then '-' :: size else size

/-- The text of a float with `places` places after the point. -/
def fixedText (places : Nat) (x : Float) : Text :=
  if x.isNaN then "nan".toList
  else
    let size :=
      if x.isInf then "inf".toList
      else
        let v := (Binary.ofFloat x).value
        let n := Ratio.round ⟨v.num * tenTo places, v.den⟩
        let fraction := Text.ofNat (n % tenTo places)
        Text.ofNat (n / tenTo places) ++ '.' ::
          (List.replicate (places - fraction.length) '0' ++ fraction)
    if isNegative x then '-' :: size else size

/-- The float nearest to `digits · 10 ^ place`; beyond the range of floats, infinity or zero. -/
def toFloat (digits : Nat) (place : Int) : Float :=
  let size : Int := (Text.ofNat digits).length + place
  if digits == 0 || size < -400 then 0.0
  else if size > 400 then 1.0 / 0.0
  else if place < 0 then Float.ofScientific digits true (-place).toNat
  else Float.ofScientific digits false place.toNat

end UtilityCss.Decimal

import UtilityCss.Number.Basic
import UtilityCss.Text.Blank
import UtilityCss.Text.Digit

/-!
# Number — reading numbers that people type

Command-line options and group numbers are read leniently: blanks around the number, a sign, digits
of any script and single underscores between digits are all accepted.  `readInt?` reads an integer
and `readFloat?` a float, which may also be written `inf`, `infinity` or `nan`.
-/

namespace UtilityCss.Number

/-- A blank around a number: the information separators are none. -/
def isPadding (c : Char) : Bool :=
  if c.toNat < 127 then Text.isAsciiBlank c else Text.isBlank c

/-- The text without its padding. -/
def unpad (t : Text) : Text :=
  ((t.dropWhile isPadding).reverse.dropWhile isPadding).reverse

/-- Digits of any script as ASCII digits. -/
def plainDigits (t : Text) : Text :=
  t.map fun c =>
    match Text.decimalValue? c with
    | some d => Char.ofNat (48 + d)
    | none => c

/-- The text without its underscores, if each of them stands between two digits. -/
def dropUnderscores? : Text → Option Text
  | [] => some []
  | c :: '_' :: d :: rest =>
    if Text.isAsciiDigit c && Text.isAsciiDigit d then (dropUnderscores? (d :: rest)).map (c :: ·)
    else none
  | c :: rest => if c == '_' then none else (dropUnderscores? rest).map (c :: ·)

/-- A sign at the start, if any, and the rest. -/
def splitSign : Text → Bool × Text
  | '-' :: rest => (true, rest)
  | '+' :: rest => (false, rest)
  | t => (false, t)

/-- Reads an integer. -/
def readInt? (t : Text) : Option Int :=
  let (negative, body) := splitSign (plainDigits (unpad t))
  match dropUnderscores? body with
  | some digits =>
    if digits.isEmpty || !digits.all Text.isAsciiDigit || digits.length > maxDigits then none
    else
      let n : Int := Text.digitsValue digits
      some (if negative then -n else n)
  | none => none

/-- The exponent after the letter `e`: a sign and at least one digit. -/
def readExponent? (t : Text) : Option Int :=
  let (negative, digits) := splitSign t
  if digits.isEmpty || !digits.all Text.isAsciiDigit then none
  else
    let n : Int := Text.digitsValue digits
    some (if negative then -n else n)

/-- Reads an unsigned decimal: digits with at most one point, then perhaps an exponent. -/
def readDecimal? (t : Text) : Option Float :=
  let whole := t.takeWhile Text.isAsciiDigit
  let afterWhole := t.dropWhile Text.isAsciiDigit
  let (fraction, rest) :=
    match afterWhole with
    | '.' :: r => (r.takeWhile Text.isAsciiDigit, r.dropWhile Text.isAsciiDigit)
    | r => ([], r)
  let digits := whole ++ fraction
  let exponent? :=
    match rest with
    | [] => some 0
    | 'e' :: r => readExponent? r
    | 'E' :: r => readExponent? r
    | _ => none
  match exponent? with
  | some e =>
    if digits.isEmpty then none
    else some (Decimal.toFloat (Text.digitsValue digits) (e - fraction.length))
  | none => none

/-- Reads a float. -/
def readFloat? (t : Text) : Option Float :=
  match dropUnderscores? (plainDigits (unpad t)) with
  | none => none
  | some plain =>
    let (negative, body) := splitSign plain
    let word := body.map Char.toLower
    let size? :=
      if word == "inf".toList || word == "infinity".toList then some (1.0 / 0.0)
      else if word == "nan".toList then some (0.0 / 0.0)
      else readDecimal? body
    size?.map fun x => if negative then -x else x

end UtilityCss.Number

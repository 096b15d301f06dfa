/-!
# Text — the text type

A text is a list of characters, so that a scanner is a recursion on the text it reads.  Surrogates
are no characters, and no text has any; where they matter, a text is taken as the list of its code
points (`Json.Raw`).  This module holds the few operations that all areas share: numbers in decimal
digits, joining and prefixes.
-/

namespace UtilityCss

/-- What the library reads and writes, one character at a time. -/
abbrev Text := List Char

namespace Text

/-- A number in decimal digits. -/
def ofNat (n : Nat) : Text :=
  Nat.toDigits 10 n

/-- A number in decimal digits, with a sign if it is negative. -/
def ofInt : Int → Text
  | .ofNat n => ofNat n
  | .negSucc n => '-' :: ofNat (n + 1)

/-- The texts one after the other, with `separator` between any two. -/
def join (separator : Text) : List Text → Text
  | [] => []
  | [last] => last
  | t :: u :: rest => t ++ separator ++ join separator (u :: rest)

/-- The rest of the text after a start that it must have. -/
def dropStart? : Text → Text → Option Text
  | [], t => some t
  | _ :: _, [] => none
  | c :: start, d :: t => if c == d then dropStart? start t else none

/-- The text starts with `start`. -/
def startsWith (t start : Text) : Bool :=
  (dropStart? start t).isSome

/-- The place of the first occurrence of `part`, counted from zero. -/
def indexOf? (part : Text) : Text → Option Nat
  | [] => if part.isEmpty then some 0 else none
  | c :: t => if startsWith (c :: t) part then some 0 else (indexOf? part t).map (· + 1)

/-- The first occurrence of each item, in order. -/
def distinct [BEq α] : List α → List α
  | items => (items.foldl (fun seen x => if seen.contains x then seen else x :: seen) []).reverse

/-- The lower-case hexadecimal digits of `n`, at least `width` of them. -/
def hex (width n : Nat) : Text :=
  let digits := Nat.toDigits 16 n
  List.replicate (width - digits.length) '0' ++ digits

/-- The value of a hexadecimal digit of either case. -/
def hexValue? (c : Char) : Option Nat :=
  if '0' ≤ c && c ≤ '9' then some (c.toNat - '0'.toNat)
  else if 'a' ≤ c && c ≤ 'f' then some (c.toNat - 'a'.toNat + 10)
  else if 'A' ≤ c && c ≤ 'F' then some (c.toNat - 'A'.toNat + 10)
  else none

/-- Texts are in the order of their code points, a start of a text before the text. -/
def le : Text → Text → Bool
  | [], _ => true
  | _ :: _, [] => false
  | c :: s, d :: t => if c == d then le s t else decide (c < d)

end Text

end UtilityCss

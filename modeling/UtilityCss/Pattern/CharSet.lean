import UtilityCss.Pattern.Tree
import UtilityCss.Text.Blank
import UtilityCss.Text.Case
import UtilityCss.Text.Digit
import UtilityCss.Text.Word

/-!
# Patterns — which characters an item matches

Classes are those of Unicode or of ASCII.  With the flag to ignore case a character is compared by
its lower case, and two letters with one upper case are the same; in ASCII only the letters A to Z
have a lower case.
-/

namespace UtilityCss.Pattern

/-- How characters are compared. -/
inductive Fold where
  | exact
  | ascii
  | unicode
  deriving DecidableEq, Repr

/-- The comparison under some flags. -/
def Flags.fold (f : Flags) : Fold :=
  if !f.ignoreCase then .exact else if f.unicode then .unicode else .ascii

namespace Fold

/-- What a code point is compared by. -/
def lower : Fold → Nat → Nat
  | .exact, code => code
  | .ascii, code => Text.lowerAscii code
  | .unicode, code => Text.lowerCode code

/-- The other code points that a lower-case one is the same as. -/
def others : Fold → Nat → List Nat
  | .unicode, code => Text.companions code
  | _, _ => []

/-- The code points with a lower case. -/
def sources : Fold → Nat → List Nat
  | .exact, code => [code]
  | .ascii, code =>
    if 97 ≤ code && code ≤ 122 then [code, code - 32]
    else if Text.isAsciiCased code then [] else [code]
  | .unicode, code => Text.lowerSources code

/-- A code point, read in the text, is the same as one of the pattern. -/
def same (fold : Fold) (code read : Nat) : Bool :=
  let low := fold.lower read
  let target := fold.lower code
  low == target || (fold.others target).contains low

/-- The end of the code points whose case is folded in a set. -/
def setBound : Nat := 0x10000

/-- A member of a set is the same as a code point of the text; beyond the bound it must be the lower
case itself. -/
def sameInSet (fold : Fold) (code read : Nat) : Bool :=
  if code < setBound || fold == .exact then fold.same code read else fold.lower read == code

/-- A range of a set holds a code point of the text or one that is the same. -/
def inRange (fold : Fold) (low high read : Nat) : Bool :=
  match fold with
  | .exact => low ≤ read && read ≤ high
  | _ =>
    let code := fold.lower read
    let within := fun n => low ≤ n && n ≤ high
    let folded := fun n => within n && n < setBound
    (fold.sources code).any folded ||
      (fold.others code).any (fun n => (fold.sources n).any folded) ||
      (high ≥ setBound && (within code || within (Text.upperCode code)))

end Fold

/-- A character of a class, of Unicode or of ASCII only. -/
def Category.holds (unicode : Bool) : Category → Char → Bool
  | .digit, c => if unicode then Text.isDecimal c else Text.isAsciiDigit c
  | .notDigit, c => !(if unicode then Text.isDecimal c else Text.isAsciiDigit c)
  | .space, c => if unicode then Text.isBlank c else Text.isAsciiBlank c
  | .notSpace, c => !(if unicode then Text.isBlank c else Text.isAsciiBlank c)
  | .word, c => if unicode then Text.isWord c else Text.isAsciiWord c
  | .notWord, c => !(if unicode then Text.isWord c else Text.isAsciiWord c)

/-- A member of a set holds a character. -/
def SetItem.holds (f : Flags) : SetItem → Char → Bool
  | .code n, c => f.fold.sameInSet n c.toNat
  | .range low high, c => f.fold.inRange low high c.toNat
  | .category kind, c => kind.holds f.unicode c

end UtilityCss.Pattern

import UtilityCss.Platform.Basic
import UtilityCss.Text.Letter

/-!
# Platform — the plain platform

The platform that the program runs on by itself: it knows the names of common characters, texts have
no attributes, and there is room for patterns and values of any depth.
-/

namespace UtilityCss

namespace Pattern

/-- The names of the ASCII characters that are neither letters nor control characters. -/
def asciiNames : List (String × Nat) := [
  ("SPACE", 0x20), ("EXCLAMATION MARK", 0x21), ("QUOTATION MARK", 0x22), ("NUMBER SIGN", 0x23),
  ("DOLLAR SIGN", 0x24), ("PERCENT SIGN", 0x25), ("AMPERSAND", 0x26), ("APOSTROPHE", 0x27),
  ("LEFT PARENTHESIS", 0x28), ("RIGHT PARENTHESIS", 0x29), ("ASTERISK", 0x2A),
  ("PLUS SIGN", 0x2B), ("COMMA", 0x2C), ("HYPHEN-MINUS", 0x2D), ("FULL STOP", 0x2E),
  ("SOLIDUS", 0x2F), ("DIGIT ZERO", 0x30), ("DIGIT ONE", 0x31), ("DIGIT TWO", 0x32),
  ("DIGIT THREE", 0x33), ("DIGIT FOUR", 0x34), ("DIGIT FIVE", 0x35), ("DIGIT SIX", 0x36),
  ("DIGIT SEVEN", 0x37), ("DIGIT EIGHT", 0x38), ("DIGIT NINE", 0x39), ("COLON", 0x3A),
  ("SEMICOLON", 0x3B), ("LESS-THAN SIGN", 0x3C), ("EQUALS SIGN", 0x3D),
  ("GREATER-THAN SIGN", 0x3E), ("QUESTION MARK", 0x3F), ("COMMERCIAL AT", 0x40),
  ("LEFT SQUARE BRACKET", 0x5B), ("REVERSE SOLIDUS", 0x5C), ("RIGHT SQUARE BRACKET", 0x5D),
  ("CIRCUMFLEX ACCENT", 0x5E), ("LOW LINE", 0x5F), ("GRAVE ACCENT", 0x60),
  ("LEFT CURLY BRACKET", 0x7B), ("VERTICAL LINE", 0x7C), ("RIGHT CURLY BRACKET", 0x7D),
  ("TILDE", 0x7E), ("NO-BREAK SPACE", 0xA0), ("COPYRIGHT SIGN", 0xA9), ("DEGREE SIGN", 0xB0),
  ("MICRO SIGN", 0xB5), ("MIDDLE DOT", 0xB7), ("LATIN SMALL LETTER SHARP S", 0xDF),
  ("EN DASH", 0x2013), ("EM DASH", 0x2014), ("BULLET", 0x2022), ("HORIZONTAL ELLIPSIS", 0x2026),
  ("KELVIN SIGN", 0x212A)]

/-- The code point of a character name, in any case.  Only common characters are known. -/
def namedCode? (name : Text) : Option Nat :=
  let upper := name.map Char.toUpper
  if !name.all isNameChar then none
  else
    match Text.dropStart? "LATIN SMALL LETTER ".toList upper,
        Text.dropStart? "LATIN CAPITAL LETTER ".toList upper with
    | some [c], _ => if Text.isAsciiLetter c then some (c.toNat + 32) else none
    | _, some [c] => if Text.isAsciiLetter c then some c.toNat else none
    | _, _ => asciiNames.lookup (String.ofList upper)

theorem isNameChar_of_namedCode? {name : Text} {code : Nat} (h : namedCode? name = some code) :
    name.all isNameChar := by
  rw [namedCode?] at h
  split at h
  · cases h
  next hname => simpa using hname

end Pattern

/-- Texts are not longer than this. -/
def maxTextLength : Nat := 1099511627776

/-- The plain platform. -/
instance : Platform where
  code? := Pattern.namedCode?
  isNameChar_of_code? := Pattern.isNameChar_of_namedCode?
  Object := Empty
  attributeOf _ _ := .error .noAttribute
  itemOf o _ := o.elim
  convert _ o := o.elim
  format o _ := o.elim
  readsPattern _ := true
  writesValue _ := true
  holdsText n := n ≤ maxTextLength

end UtilityCss

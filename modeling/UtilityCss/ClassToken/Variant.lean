import UtilityCss.ClassList.Split
import UtilityCss.Text.Word

/-!
# Class tokens — variants

A variant is a name such as `hover`, `2xl` or `max-lg`, perhaps with a payload in square brackets,
or a payload alone; it may start with `@` and may end with a slash and the name of a group.  A
chain is one or more variants joined by single colons.

A variant is also accepted with one line feed after it.
-/

namespace UtilityCss.ClassToken

/-- A character of a name: a word character or a hyphen. -/
def isNameChar (c : Char) : Bool :=
  Text.isWord c || c == '-'

/-- Nothing, or one line feed. -/
def isLineEnd (t : Text) : Bool :=
  t == [] || t == ['\n']

/-- The payload up to the first `]`, which must not be empty, and what follows the `]`; the text
starts after the `[`. -/
def payload? (t : Text) : Option (Text × Text) :=
  match t.takeWhile (· != ']'), t.dropWhile (· != ']') with
  | [], _ => none
  | content, _ :: rest => some (content, rest)
  | _, [] => none

/-- The end of a variant: perhaps a slash and a name, then nothing or a line feed. -/
def isVariantEnd : Text → Bool
  | '/' :: rest => !(rest.takeWhile isNameChar).isEmpty && isLineEnd (rest.dropWhile isNameChar)
  | t => isLineEnd t

/-- A payload and the end of a variant; the text starts after the `[`. -/
def isPayloadEnd (t : Text) : Bool :=
  match payload? t with
  | some (_, rest) => isVariantEnd rest
  | none => false

/-- What may follow the name of a variant: perhaps a payload, and the end. -/
def isNameEnd : Text → Bool
  | '[' :: rest => isPayloadEnd rest
  | t => isVariantEnd t

/-- A variant without the `@` it may start with. -/
def isPlainVariant : Text → Bool
  | [] => false
  | '[' :: rest => isPayloadEnd rest
  | c :: rest => Text.isAsciiAlphanumeric c && isNameEnd (rest.dropWhile isNameChar)

/-- A variant. -/
def isVariant : Text → Bool
  | '@' :: rest => isPlainVariant rest
  | t => isPlainVariant t

/-- One or more variants joined by single colons. -/
def isVariantChain (t : Text) : Bool :=
  let parts := ClassList.splitOn [':'] t
  !parts.isEmpty && Text.join [':'] parts == t && parts.all isVariant

end UtilityCss.ClassToken

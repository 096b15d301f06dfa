import UtilityCss.Text.Printable

/-!
# Text — quoted texts

A quoted text stands between two marks: apostrophes, unless the text holds an apostrophe and no
double quote.  The mark and the backslash are written after a backslash, line feed, carriage return
and tab by their letters, and what may not stand for itself by its code point in hexadecimal.
-/

namespace UtilityCss.Text

/-- The apostrophe. -/
def apostrophe : Char := Char.ofNat 39

/-- The double quote. -/
def doubleQuote : Char := Char.ofNat 34

/-- The mark that a quoted text stands between. -/
def quoteMark (t : Text) : Char :=
  if t.contains apostrophe && !t.contains doubleQuote then doubleQuote else apostrophe

/-- A character by its code point: two, four or eight hexadecimal digits, as few as will do. -/
def codeEscape (c : Char) : Text :=
  let n := c.toNat
  if n < 0x100 then '\\' :: 'x' :: hex 2 n
  else if n < 0x10000 then '\\' :: 'u' :: hex 4 n
  else '\\' :: 'U' :: hex 8 n

/-- What stands for a character between two marks, where `plain` says which may stand for
themselves. -/
def quoteChar (plain : Char → Bool) (mark c : Char) : Text :=
  if c == mark || c == '\\' then ['\\', c]
  else if c == '\n' then ['\\', 'n']
  else if c == '\r' then ['\\', 'r']
  else if c == '\t' then ['\\', 't']
  else if plain c then [c]
  else codeEscape c

/-- The text between two marks. -/
def quoteWith (plain : Char → Bool) (t : Text) : Text :=
  let mark := quoteMark t
  mark :: t.flatMap (quoteChar plain mark) ++ [mark]

/-- The quoted text in which printable characters stand for themselves. -/
def quoted (t : Text) : Text :=
  quoteWith isPrintable t

/-- The quoted text in ASCII. -/
def asciiQuoted (t : Text) : Text :=
  quoteWith (fun c => c.toNat < 128 && isPrintable c) t

end UtilityCss.Text

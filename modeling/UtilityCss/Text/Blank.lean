import UtilityCss.Text.Basic

/-!
# Text — blanks and words

Blanks separate the tokens of a class list.  `words` is the list of the maximal runs without a
blank; `trim` takes the blanks off both ends.
-/

namespace UtilityCss.Text

/-- The blank characters of Unicode: the ASCII ones with the four information separators, the next
line, the no-break space and the space separators. -/
def isBlank (c : Char) : Bool :=
  let n := c.toNat
  (9 ≤ n && n ≤ 13) || (28 ≤ n && n ≤ 32) || n == 0x85 || n == 0xA0 || n == 0x1680 ||
    (0x2000 ≤ n && n ≤ 0x200A) || n == 0x2028 || n == 0x2029 || n == 0x202F || n == 0x205F ||
    n == 0x3000

/-- The ASCII blanks: tab, line feed, vertical tab, form feed, carriage return and space. -/
def isAsciiBlank (c : Char) : Bool :=
  (9 ≤ c.toNat && c.toNat ≤ 13) || c.toNat == 32

/-- Puts a piece before the pieces, unless it is empty. -/
def attach (piece : Text) (pieces : List Text) : List Text :=
  if piece.isEmpty then pieces else piece :: pieces

/-- The word that the text opens with, empty if it opens with a blank, and the words after it. -/
def cutWords : Text → Text × List Text
  | [] => ([], [])
  | c :: rest =>
    let (word, later) := cutWords rest
    if isBlank c then ([], attach word later) else (c :: word, later)

/-- The maximal runs without a blank, in order. -/
def words (t : Text) : List Text :=
  let (word, later) := cutWords t
  attach word later

/-- The text without the blanks it starts with. -/
def trimStart (t : Text) : Text :=
  t.dropWhile isBlank

/-- The text without the blanks it ends with. -/
def trimEnd (t : Text) : Text :=
  (t.reverse.dropWhile isBlank).reverse

/-- The text without the blanks at its ends. -/
def trim (t : Text) : Text :=
  trimEnd (trimStart t)

end UtilityCss.Text

import UtilityCss.Text.Blank

/-!
# Class lists — splitting at the top level

A class list nests: square brackets hold arbitrary values and parentheses hold groups, and what
stands inside of either is not split.  The depth is raised by `[` and `(`, lowered by `]` and `)`
and never negative, whatever the brackets match.

`splitOn` cuts at a delimiter and `splitList` at blanks; both drop empty pieces.  `breakColon?`
finds the first colon at depth zero, where a backslash hides the character after it.
-/

namespace UtilityCss.ClassList

/-- A character that raises the depth. -/
def isOpener (c : Char) : Bool :=
  c == '[' || c == '('

/-- A character that lowers the depth. -/
def isCloser (c : Char) : Bool :=
  c == ']' || c == ')'

/-- The depth after a character. -/
def depthAfter (depth : Nat) (c : Char) : Nat :=
  if isOpener c then depth + 1 else if isCloser c then depth - 1 else depth

/-- The piece that the text opens with and the pieces after it, where `isCut` says which characters
cut at depth zero.  The first piece may be empty, the others are not. -/
def cutTop (isCut : Char → Bool) : Nat → Text → Text × List Text
  | _, [] => ([], [])
  | depth, c :: rest =>
    if isCut c && depth == 0 then
      let (piece, later) := cutTop isCut 0 rest
      ([], Text.attach piece later)
    else
      let (piece, later) := cutTop isCut (depthAfter depth c) rest
      (c :: piece, later)

/-- The pieces between the top-level characters that cut, without the empty ones. -/
def splitTop (isCut : Char → Bool) (t : Text) : List Text :=
  let (piece, later) := cutTop isCut 0 t
  Text.attach piece later

/-- The pieces of a text between the top-level occurrences of a delimiter.  Only a delimiter of one
character that is no bracket ever cuts. -/
def splitOn (delimiter t : Text) : List Text :=
  splitTop (fun c => [c] == delimiter && !isOpener c && !isCloser c) t

/-- The pieces of a class list between top-level blanks: a group is kept whole. -/
def splitList (t : Text) : List Text :=
  splitTop Text.isBlank t

/-- What stands before and after the first colon at depth zero, starting at the given depth. -/
def breakColonAt? : Nat → Text → Option (Text × Text)
  | _, [] => none
  | _, ['\\'] => none
  | depth, '\\' :: c :: rest =>
    (breakColonAt? depth rest).map fun (head, tail) => ('\\' :: c :: head, tail)
  | depth, c :: rest =>
    if c == ':' && depth == 0 then some ([], rest)
    else (breakColonAt? (depthAfter depth c) rest).map fun (head, tail) => (c :: head, tail)

/-- What stands before and after the first colon outside of all brackets. -/
def breakColon? (t : Text) : Option (Text × Text) :=
  breakColonAt? 0 t

/-- The place of the first colon outside of all brackets. -/
def topColon? (t : Text) : Option Nat :=
  (breakColon? t).map (·.1.length)

/-- A text is put back together from the two sides of its colon. -/
theorem eq_of_breakColonAt? {depth : Nat} {t head tail : Text}
    (h : breakColonAt? depth t = some (head, tail)) : t = head ++ ':' :: tail := by
  fun_induction breakColonAt? depth t generalizing head with
  | case1 => simp at h
  | case2 => simp at h
  | case3 depth c rest ih =>
    simp only [Option.map_eq_some_iff, Prod.mk.injEq, Prod.exists] at h
    obtain ⟨a, b, hab, rfl, rfl⟩ := h
    simp [ih hab]
  | case4 depth c rest _ _ hc =>
    simp only [Option.some.injEq, Prod.mk.injEq] at h
    obtain ⟨rfl, rfl⟩ := h
    simp_all
  | case5 depth c rest _ _ _ ih =>
    simp only [Option.map_eq_some_iff, Prod.mk.injEq, Prod.exists] at h
    obtain ⟨a, b, hab, rfl, rfl⟩ := h
    simp [ih hab]

/-- What stands after the colon is shorter than the text. -/
theorem length_lt_of_breakColon? {t head tail : Text} (h : breakColon? t = some (head, tail)) :
    tail.length < t.length := by
  have := eq_of_breakColonAt? h
  simp [this]
  omega

end UtilityCss.ClassList

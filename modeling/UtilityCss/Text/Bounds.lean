import UtilityCss.Text.Basic

/-!
# Text — classes given by bounds

A class of code points is written as the ascending list of the places where membership changes: the
first bound starts the class, the second ends it (and is not of it), and so on.  A code point is a
member iff the number of bounds up to it is odd.
-/

namespace UtilityCss.Text

/-- How many of the ascending values `value 0`, …, `value (hi - 1)` are at most `code`, if those
below `lo` are and those from `hi` on are not. -/
def countUpTo (value : Nat → Nat) (code lo hi : Nat) : Nat :=
  if lo < hi then
    let mid := (lo + hi) / 2
    if value mid ≤ code then countUpTo value code (mid + 1) hi else countUpTo value code lo mid
  else lo
termination_by hi - lo

/-- Membership in the class with the given bounds. -/
def withinBounds (bounds : Array Nat) (code : Nat) : Bool :=
  countUpTo (fun i => bounds.getD i 0) code 0 bounds.size % 2 == 1

end UtilityCss.Text

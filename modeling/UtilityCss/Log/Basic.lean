import UtilityCss.Text.Basic

/-!
# Log — messages

What the library reports while it works.  A message names the area it comes from; who prints the log
decides which levels are shown and in what form.
-/

namespace UtilityCss.Log

/-- How important a message is. -/
inductive Level where
  | debug
  | warning
  deriving DecidableEq, Repr

/-- Where a message comes from. -/
inductive Area where
  | classToken
  | classList
  | template
  | registry
  | cache
  | compiler
  deriving DecidableEq, Repr

/-- A message. -/
structure Entry where
  level : Level
  area : Area
  message : Text
  deriving DecidableEq, Repr

end UtilityCss.Log

namespace UtilityCss

/-- Messages in the order in which they were reported. -/
abbrev Log := List Log.Entry

end UtilityCss

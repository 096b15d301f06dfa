/-!
# Failures — misuse

What goes wrong when a value is not of the shape that an operation needs.
-/

namespace UtilityCss

/-- A misuse of the library, or data of a shape that it cannot work with. -/
inductive Misuse where
  /-- A value is of a type that does not support what is asked of it. -/
  | wrongType
  /-- A value has the right type and cannot be used. -/
  | badValue
  /-- A key is not there. -/
  | missingKey
  /-- A place in a sequence is not there. -/
  | missingIndex
  /-- A value has no attribute of that name. -/
  | missingAttribute
  /-- A number is out of range. -/
  | outOfRange
  /-- A pattern is malformed. -/
  | malformedPattern
  /-- A file is no UTF-8. -/
  | undecodable
  /-- What is asked for is beyond the limits of the engine, or of its stack or memory. -/
  | engineLimit
  deriving DecidableEq, Repr

end UtilityCss

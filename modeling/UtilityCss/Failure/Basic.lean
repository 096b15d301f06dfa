import UtilityCss.Failure.Misuse
import UtilityCss.Json.Basic

/-!
# Failures

Why an operation of the library gives no result.  Only registration and configuration fail with a
message of their own; data that is of the wrong shape elsewhere is a misuse, known by its kind.
-/

namespace UtilityCss

/-- What has caused a failure. -/
inductive Cause where
  | malformedPattern
  | badValue
  | malformedDocument
  | missingFile
  | directory
  | badConfig
  deriving DecidableEq, Repr

/-- Why an operation gives no result. -/
inductive Failure where
  /-- The pattern of a rule is malformed. -/
  | invalidRule (source message : Text)
  /-- A strict registry has a rule of that name. -/
  | duplicateRule (name : Json)
  /-- A configuration is malformed. -/
  | badConfig (message : Text)
  /-- A rule document is malformed, at one of its rules if there is an index. -/
  | badDocument (message : Text) (index : Option Int) (cause : Option Cause)
  | misuse (kind : Misuse)

/-- The result of an operation that may fail. -/
abbrev Outcome (α : Type) := Except Failure α

namespace Failure

/-- The words for a failure; a misuse has none. -/
def message : Failure → Text
  | .invalidRule _ message => message
  | .duplicateRule name => "Rule ".toList ++ name.inspect ++ " is already registered".toList
  | .badConfig message => message
  | .badDocument message none _ => message
  | .badDocument message (some index) _ =>
    "rules[".toList ++ Text.ofInt index ++ "]: ".toList ++ message
  | .misuse _ => []

/-- What has caused a failure. -/
def cause? : Failure → Option Cause
  | .invalidRule _ _ => some .malformedPattern
  | .badDocument _ _ cause => cause
  | _ => none

/-- Whether a failure has a message of its own. -/
def isReported : Failure → Bool
  | .misuse _ => false
  | _ => true

end Failure

end UtilityCss

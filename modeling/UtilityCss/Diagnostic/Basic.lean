import UtilityCss.Text.Basic

/-!
# Diagnostics

A finding about a class token that has produced no declarations.
-/

namespace UtilityCss

/-- How serious a finding is. -/
inductive Severity where
  | error
  | warning
  | info
  deriving DecidableEq, Repr

/-- The word for a severity. -/
def Severity.word : Severity → String
  | .error => "ERROR"
  | .warning => "WARNING"
  | .info => "INFO"

/-- A finding about a class token. -/
structure Diagnostic where
  /-- The kind of finding. -/
  code : Text
  severity : Severity
  message : Text
  /-- The token it is about. -/
  token : Option Text := none
  /-- What may be done about it. -/
  fix : Option Text := none
  deriving DecidableEq, Repr

namespace Diagnostic

/-- The finding is an error. -/
def isError (d : Diagnostic) : Bool :=
  d.severity == .error

/-- The finding is a warning. -/
def isWarning (d : Diagnostic) : Bool :=
  d.severity == .warning

/-- The finding on one line, with its token unless that is empty. -/
def text (d : Diagnostic) : Text :=
  let place :=
    match d.token with
    | some (c :: token) => " [token=".toList ++ c :: token ++ [']']
    | _ => []
  d.severity.word.toList ++ place ++ ": ".toList ++ d.message

end Diagnostic

end UtilityCss

import UtilityCss.Handler.Basic
import UtilityCss.Pattern.Anchor

/-!
# Rules

A rule claims the utilities that its pattern matches as a whole, and its handler makes declarations
of the captures.  Compiling a rule reads its pattern between anchors and gives it a name and the
word to look it up by.
-/

namespace UtilityCss

namespace Pattern

variable [Names]

/-- A fault of a pattern that is read on its own. -/
def Fault.misuse : Fault → Misuse
  | .malformed _ _ => .malformedPattern
  | .countTooLarge => .outOfRange
  | .codeTooLarge => .outOfRange
  | .countTooLong => .badValue
  | .mixedModes => .badValue
  | .lookBehindTooFar => .engineLimit

/-- A fault of the anchored pattern of a rule. -/
def Fault.failure (source : Text) (flags : Flags) : Fault → Failure
  | .malformed problem position =>
    .invalidRule source ("Invalid rule pattern ".toList ++ Text.quoted source ++ ": ".toList ++
      problem.placed (anchoredText source flags) position)
  | fault => .misuse fault.misuse

/-- The pattern of a rule.  With flags set from outside it must be well-formed on its own, and the
flags it sets for itself hold from the start. -/
def ofRule (source : Text) (flags : Option Flags) : Outcome Pattern := do
  let given ← match flags with
    | none => pure ({} : Flags)
    | some flags =>
      match ofText source flags with
      | .ok alone => pure alone.flags
      | .error fault => throw (.misuse fault.misuse)
  match anchor source given with
  | .ok pattern => return pattern
  | .error fault => throw (fault.failure source given)

end Pattern

/-- A rule as it is registered. -/
structure Rule where
  /-- The text of the pattern. -/
  source : Text
  /-- Flags set from outside; with them the pattern has been read before. -/
  flags : Option Pattern.Flags := none
  handler : Option Handler := none
  /-- Rules of higher priority are tried first. -/
  priority : Int := 0
  layer : Text := "utilities".toList
  /-- The name; a value that does not count as true is no name. -/
  name : Json := .null

/-- A rule that is ready to match. -/
structure CompiledRule where
  rule : Rule
  /-- The name that it is registered under. -/
  name : Json
  pattern : Pattern
  /-- The word that the pattern starts with. -/
  word : Option Text

namespace Rule

/-- The name that a rule is registered under. -/
def resolvedName (r : Rule) : Json :=
  if r.name.isTruthy then r.name else .string (Pattern.defaultName r.source)

/-- Makes a rule ready to match, if there is room to read its pattern. -/
def compile [Platform] (r : Rule) : Outcome CompiledRule :=
  if !Room.readsPattern (Pattern.anchoredText r.source (r.flags.getD {})) then
    .error (.misuse .engineLimit)
  else
    match Pattern.ofRule r.source r.flags with
    | .error failure => .error failure
    | .ok pattern => .ok ⟨r, r.resolvedName, pattern, Pattern.literalWord? r.source⟩

end Rule

/-- A utility that a rule has claimed. -/
structure Match where
  rule : CompiledRule
  utility : Text
  /-- What the groups have matched. -/
  groups : List (Option Text)

namespace CompiledRule

/-- The match of a utility, if the rule claims it. -/
def match? (r : CompiledRule) (utility : Text) : Option Match :=
  (r.pattern.fullMatch? utility).map fun groups => ⟨r, utility, groups⟩

end CompiledRule

namespace Match

/-- The utility and the groups; a group that took no part is empty. -/
def captures (m : Match) : List Text :=
  m.utility :: m.groups.map (·.getD [])

/-- The declarations that the rule makes under a theme, and what is reported. -/
def generate [Platform] (m : Match) (theme : Theme) : Outcome (Option Declarations) × Log :=
  match m.rule.rule.handler with
  | none => (.ok none, [])
  | some handler => handler.generate m.captures theme

end Match

end UtilityCss

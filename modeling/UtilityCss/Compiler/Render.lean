import UtilityCss.Compiler.Resolve
import UtilityCss.Diagnostic.Basic
import UtilityCss.Event.Basic

/-!
# Compilers — rendering resolved tokens

Every resolved token comes to one of three things: a rule of the style sheet, a finding that no rule
claims it, or a finding that its rule makes no declarations.
-/

namespace UtilityCss

/-- What writes the rule for a token. -/
abbrev Renderer := ClassToken → Declarations → Text

/-- What a compiler reports while it works. -/
structure Effects where
  events : List Event := []
  log : Log := []

namespace Effects

/-- First the one, then the other. -/
def append (a b : Effects) : Effects :=
  ⟨a.events ++ b.events, a.log ++ b.log⟩

instance : Append Effects := ⟨append⟩

/-- A single event. -/
def event (e : Event) : Effects := ⟨[e], []⟩

/-- Messages without events. -/
def logged (log : Log) : Effects := ⟨[], log⟩

end Effects

namespace ResolvedToken

/-- What a token comes to. -/
inductive Rendering where
  /-- A rule of the style sheet. -/
  | css (text : Text)
  /-- A finding. -/
  | finding (diagnostic : Diagnostic)

/-- The finding that no rule claims a token. -/
def unresolved (t : ClassToken) : Diagnostic :=
  ⟨"unresolved".toList, .warning,
    "No rule matches utility ".toList ++ Text.quoted t.utility ++ ['.'], some t.original,
    some "Check the spelling or register a rule for it.".toList⟩

/-- The finding that a rule makes no declarations for a token. -/
def empty (t : ClassToken) (rule : CompiledRule) : Diagnostic :=
  ⟨"empty".toList, .info,
    "Rule ".toList ++ rule.name.inspect ++ " produced no declarations for ".toList ++
      Text.quoted t.utility ++ ['.'], some t.original, none⟩

/-- What is reported about a token that no rule claims. -/
def unresolvedEffects (t : ClassToken) : Effects :=
  ⟨[.tokenUnresolved t.original t.utility],
    [⟨.warning, .compiler, "No rule matches ".toList ++ Text.quoted t.original⟩]⟩

/-- The declarations of a token: the values are negated if the token is negative. -/
def declared (t : ClassToken) (declarations : Declarations) : Declarations :=
  if t.negative then declarations.map fun (name, value) => (name, Selector.negate value)
  else declarations

variable [Platform]

/-- Renders a resolved token under a theme. -/
def render (renderer : Renderer) (theme : Theme) (item : ResolvedToken) :
    Outcome Rendering × Effects :=
  match item.claim with
  | none => (.ok (.finding (unresolved item.token)), unresolvedEffects item.token)
  | some found =>
    let (result, log) := found.generate theme
    let rendering := result.map fun
      | some (d :: ds) => .css (renderer item.token (declared item.token (d :: ds)))
      | _ => .finding (empty item.token found.rule)
    (rendering, .logged log)

/-- Renders resolved tokens, up to the first whose handler fails. -/
def renderAll (renderer : Renderer) (theme : Theme) :
    List ResolvedToken → Outcome (List Rendering) × Effects
  | [] => (.ok [], {})
  | item :: rest =>
    match item.render renderer theme with
    | (.error failure, effects) => (.error failure, effects)
    | (.ok rendering, effects) =>
      let (result, later) := renderAll renderer theme rest
      (result.map (rendering :: ·), effects ++ later)

/-- The rules of the style sheet among renderings. -/
def cssOf (renderings : List Rendering) : List Text :=
  renderings.filterMap fun
    | .css text => some text
    | .finding _ => none

/-- The findings among renderings. -/
def findingsOf (renderings : List Rendering) : List Diagnostic :=
  renderings.filterMap fun
    | .css _ => none
    | .finding d => some d

end ResolvedToken

end UtilityCss

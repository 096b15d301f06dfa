import UtilityCss.ClassList.Group
import UtilityCss.Config.Basic
import UtilityCss.Registry.Basic

/-!
# Compilers — resolving class strings

A class string is cut into tokens, and for every token the rule is looked up that claims its
utility.  Nothing is lost on the way: a token that no rule claims is kept without one.
-/

namespace UtilityCss

/-- A token with the match of the rule that claims its utility, if there is one. -/
structure ResolvedToken where
  token : ClassToken
  claim : Option Match

namespace Config

/-- The greatest integer that is not above a float. -/
def floor? (x : Float) : Option Int :=
  Json.wholeFloat? x.floor

/-- The limit on the length of tokens. -/
def tokenLimit (c : Config) : Except Misuse ClassToken.Limit :=
  match c.maxTokenLength with
  | .bool b => .ok (.atMost (if b then 1 else 0))
  | .number (.int i) => .ok (.atMost i)
  | .number (.float x) =>
    match floor? x with
    | some i => .ok (.atMost i)
    | none => .ok (if x < 0.0 then .atMost (-1) else .unlimited)
  | _ => .error .wrongType

/-- The message about a group that is never closed. -/
def unclosedLog (text : Text) : Log :=
  match ClassList.unclosedStart? text with
  | some start =>
    [⟨.warning, .classList, "Unclosed variant group at offset ".toList ++ Text.ofNat start ++
      "; leaving it unexpanded".toList⟩]
  | none => []

/-- The message about a token that is too long. -/
def tooLongLog (limit : ClassToken.Limit) (token : Text) : Log :=
  match limit with
  | .atMost n =>
    if limit.allows token.length then []
    else
      [⟨.warning, .classToken, "Class name exceeds max length (".toList ++ Text.ofInt n ++
        "), leaving it unresolved".toList⟩]
  | .unlimited => []

/-- The tokens of a class string, and what is reported about them. -/
def tokens (c : Config) (text : Text) : Outcome (List ClassToken) × Log :=
  let groups := c.groups.isTruthy
  let words := Text.words (if groups then ClassList.expandText text else text)
  let unclosed := if groups then unclosedLog text else []
  match c.tokenLimit with
  | .ok limit =>
    (.ok (words.map (ClassToken.read · limit)), unclosed ++ words.flatMap (tooLongLog limit))
  | .error misuse => (if words.isEmpty then .ok [] else .error (.misuse misuse), unclosed)

end Config

namespace Registry

/-- Looks up the rules that claim tokens, one after the other. -/
def resolve (r : Registry) : List ClassToken → List ResolvedToken × Registry × Log
  | [] => ([], r, [])
  | token :: rest =>
    let (claim, r, log) := r.claim token.utility
    let (resolved, r, later) := resolve r rest
    (⟨token, claim⟩ :: resolved, r, log ++ later)

end Registry

end UtilityCss

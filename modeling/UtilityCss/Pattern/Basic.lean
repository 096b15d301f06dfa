import UtilityCss.Pattern.Matching
import UtilityCss.Pattern.Reader

/-!
# Patterns — the type

A pattern is read once and matched against whole texts.  `Pattern.ofText` reads it and refuses what
the engine cannot run; `Pattern.fullMatch?` gives what the groups have matched.
-/

namespace UtilityCss

/-- A pattern that has been read. -/
structure Pattern where
  /-- The pattern as it is written. -/
  source : Text
  /-- The flags it was given and those it sets for itself. -/
  flags : Pattern.Flags
  /-- The number of its groups. -/
  groups : Nat
  items : List Pattern.Item

namespace Pattern

/-- Look-behinds are not wider than this. -/
def lookBehindLimit : Nat := 4294967295

/-- What is wrong with a look-behind of some width. -/
def lookBehindProblem? (w : Width) : Option Problem :=
  if w.low > lookBehindLimit then some .wideLookBehind
  else if w.low != w.high then some .variableLookBehind
  else none

mutual

/-- The first problem that an item has although it can be read. -/
def Item.problem? (flags : Flags) : Item → Option Problem
  | .repeated greed _ _ body =>
    if flags.template then some (.templateRepeat greed) else problemIn? flags body
  | .group _ _ _ body | .atomic body => problemIn? flags body
  | .branch choices => problemInChoices? flags choices
  | .look ahead _ body =>
    (if ahead then none else lookBehindProblem? (widthOf body)).or (problemIn? flags body)
  | .conditional _ yes none => problemIn? flags yes
  | .conditional _ yes (some no) => (problemIn? flags yes).or (problemIn? flags no)
  | .code _ | .notCode _ | .any | .set _ _ | .place _ | .backref _ _ => none

/-- The first problem of a list of items. -/
def problemIn? (flags : Flags) : List Item → Option Problem
  | [] => none
  | item :: rest => (item.problem? flags).or (problemIn? flags rest)

/-- The first problem of a choice. -/
def problemInChoices? (flags : Flags) : List (List Item) → Option Problem
  | [] => none
  | choice :: rest => (problemIn? flags choice).or (problemInChoices? flags rest)

end

mutual

/-- How far the look-behinds of an item go back. -/
def Item.reach : Item → Nat
  | .repeated _ _ _ body | .group _ _ _ body | .atomic body => reachOf body
  | .branch choices => reachOfChoices choices
  | .look ahead _ body => max (if ahead then 0 else (widthOf body).low) (reachOf body)
  | .conditional _ yes none => reachOf yes
  | .conditional _ yes (some no) => max (reachOf yes) (reachOf no)
  | .code _ | .notCode _ | .any | .set _ _ | .place _ | .backref _ _ => 0

/-- How far the look-behinds of a list of items go back. -/
def reachOf : List Item → Nat
  | [] => 0
  | item :: rest => max item.reach (reachOf rest)

/-- How far the look-behinds of a choice go back. -/
def reachOfChoices : List (List Item) → Nat
  | [] => 0
  | choice :: rest => max (reachOf choice) (reachOfChoices rest)

end

/-- A look-behind may not go back this far. -/
def reachBound : Nat := 2147483648

variable [Names]

/-- Reads a pattern with flags set from outside. -/
def ofText (source : Text) (flags : Flags) : Except Fault Pattern :=
  match read source flags with
  | .error fault => .error fault
  | .ok (final, groups, items) =>
    match problemIn? final items with
    | some problem => .error (.malformed problem none)
    | none =>
      if reachOf items ≥ reachBound then .error .lookBehindTooFar
      else .ok ⟨source, final, groups, items⟩

/-- A way to match a whole text from the start, the first in the order of the pattern. -/
def run? (p : Pattern) (t : Text) : Option Spot :=
  let subject := t.toArray
  runItems subject p.flags p.items (Spot.origin p.groups) fun s =>
    if s.position == subject.size then some s else none

/-- What the groups have matched, first to last; a group that took no part has nothing. -/
def captured (p : Pattern) (t : Text) (s : Spot) : List (Option Text) :=
  (List.range p.groups).map fun i =>
    (s.span? (i + 1)).map fun (low, high) => (t.take high).drop low

/-- What the groups have matched, if the pattern matches the whole text. -/
def fullMatch? (p : Pattern) (t : Text) : Option (List (Option Text)) :=
  (p.run? t).map (p.captured t)

end Pattern

end UtilityCss

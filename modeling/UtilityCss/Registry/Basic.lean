import UtilityCss.Log.Basic
import UtilityCss.Rule.Basic

/-!
# Registry

The rules that claim utilities.  Rules are tried in the order of falling priority, and those of one
priority in the order of registration.  A rule that is registered under the name of another takes
its place in that order; a strict registry refuses it if it brings the name itself.

Two things make looking up faster.  The index holds the rules in their order, and for every word
that a pattern starts with the rules that do; a utility that starts with such a word is looked up
among these alone.  The memo holds the answers that have been given.  Both are dropped when the
rules change.  `choose` is what is looked up, without either.
-/

namespace UtilityCss

namespace Registry

/-- The rules in the order in which they are tried. -/
def inOrder (rules : List CompiledRule) : List CompiledRule :=
  rules.mergeSort fun a b => decide (b.rule.priority ≤ a.rule.priority)

/-- The first of some rules that claims a utility. -/
def firstMatch? (rules : List CompiledRule) (utility : Text) : Option Match :=
  rules.findSome? (·.match? utility)

/-- The rules that a utility is looked up among: those that start with its word, if it has one that
a rule starts with, or all of them. -/
def candidates (rules : List CompiledRule) (utility : Text) : List CompiledRule :=
  match Pattern.leadingWord? utility with
  | none => inOrder rules
  | some word =>
    let sharing := (inOrder rules).filter (·.word == some word)
    if sharing.isEmpty then inOrder rules else sharing

/-- The rule that claims a utility. -/
def choose (rules : List CompiledRule) (utility : Text) : Option Match :=
  firstMatch? (candidates rules utility) utility

/-- The rules in order, and by the word that they start with. -/
structure Index where
  sorted : List CompiledRule
  buckets : List (Text × List CompiledRule)

/-- Puts a rule into the bucket of its word. -/
def insertBucket (buckets : List (Text × List CompiledRule)) (word : Text) (r : CompiledRule) :
    List (Text × List CompiledRule) :=
  match buckets with
  | [] => [(word, [r])]
  | (w, rs) :: rest =>
    if w == word then (w, rs ++ [r]) :: rest else (w, rs) :: insertBucket rest word r

/-- The index of some rules. -/
def Index.ofRules (rules : List CompiledRule) : Index :=
  let sorted := inOrder rules
  let buckets := sorted.foldl (fun buckets r =>
    match r.word with
    | some word => insertBucket buckets word r
    | none => buckets) []
  ⟨sorted, buckets⟩

/-- The rules that a utility is looked up among. -/
def Index.candidates (index : Index) (utility : Text) : List CompiledRule :=
  match (Pattern.leadingWord? utility).bind fun word => index.buckets.lookup word with
  | some rules => rules
  | none => index.sorted

end Registry

/-- Rules with their names, which are distinct, in the order of registration. -/
structure Registry where
  /-- Whether a rule may not bring a name that is taken. -/
  strict : Bool := false
  rules : List CompiledRule := []
  index : Option Registry.Index := none
  /-- The answers that have been given. -/
  memo : List (Text × Option Match) := []

namespace Registry

/-- The rule of a name. -/
def find? (r : Registry) (name : Json) : Option CompiledRule :=
  r.rules.find? fun rule => Json.sameKey rule.name name

/-- Whether there is a rule of a name. -/
def has (r : Registry) (name : Json) : Bool :=
  (r.find? name).isSome

/-- Puts a rule in the place of the one with its name, or at the end. -/
def put (rules : List CompiledRule) (new : CompiledRule) : List CompiledRule :=
  match rules with
  | [] => [new]
  | rule :: rest =>
    if Json.sameKey rule.name new.name then new :: rest else rule :: put rest new

/-- The same registry with other rules. -/
def withRules (r : Registry) (rules : List CompiledRule) : Registry :=
  { r with rules, index := none, memo := [] }

/-- The message about a rule that has been registered. -/
def registeredEntry (rule : CompiledRule) : Log.Entry :=
  ⟨.debug, .registry, "Registered rule ".toList ++ rule.name.display ++ " (priority=".toList ++
    Text.ofInt rule.rule.priority ++ ", prefix=".toList ++ rule.word.getD "None".toList ++ [')']⟩

/-- A rule is refused if its name is no key, or is taken in a strict registry. -/
def refused? (r : Registry) (rule : Rule) : Option Failure :=
  if rule.resolvedName.key?.isNone then some (.misuse .wrongType)
  else if r.strict && rule.name.isTruthy && r.has rule.name then some (.duplicateRule rule.name)
  else none

variable [Platform]

/-- Registers a rule. -/
def add (r : Registry) (rule : Rule) : Outcome CompiledRule × Registry × Log :=
  match rule.compile with
  | .error failure => (.error failure, r, [])
  | .ok compiled =>
    match r.refused? rule with
    | some failure => (.error failure, r, [])
    | none => (.ok compiled, r.withRules (put r.rules compiled), [registeredEntry compiled])

/-- Registers rules one after the other, up to the first that is refused. -/
def addAll (r : Registry) : List Rule → Outcome Unit × Registry × Log
  | [] => (.ok (), r, [])
  | rule :: rest =>
    match r.add rule with
    | (.error failure, r, log) => (.error failure, r, log)
    | (.ok _, r, log) =>
      let (result, r, later) := addAll r rest
      (result, r, log ++ later)

/-- Removes the rule of a name; whether there was one. -/
def remove (r : Registry) (name : Json) : Bool × Registry :=
  if r.has name then
    (true, r.withRules (r.rules.filter fun rule => !Json.sameKey rule.name name))
  else (false, r)

/-- Removes all rules; whether there were any. -/
def clear (r : Registry) : Bool × Registry :=
  (!r.rules.isEmpty, r.withRules [])

/-- The message about an index that has been made. -/
def indexedEntry (index : Index) : Log.Entry :=
  ⟨.debug, .registry, "Rebuilt rule index: ".toList ++ Text.ofNat index.sorted.length ++
    " rules, ".toList ++ Text.ofNat index.buckets.length ++ " prefixes".toList⟩

/-- The index, made if there is none. -/
def indexed (r : Registry) : Index × Registry × Log :=
  match r.index with
  | some index => (index, r, [])
  | none =>
    let index := Index.ofRules r.rules
    (index, { r with index := some index }, [indexedEntry index])

/-- The rule that claims a utility. -/
def claim (r : Registry) (utility : Text) : Option Match × Registry × Log :=
  match r.memo.lookup utility with
  | some answer => (answer, r, [])
  | none =>
    let (index, r, log) := r.indexed
    let answer := firstMatch? (index.candidates utility) utility
    (answer, { r with memo := (utility, answer) :: r.memo }, log)

end Registry

end UtilityCss

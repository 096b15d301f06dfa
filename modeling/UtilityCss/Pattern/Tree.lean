import UtilityCss.Text.Basic

/-!
# Patterns — the tree of a pattern as it is written

A pattern is a list of items, and groups, repeats and look-arounds hold lists of their own.  Flags
are not resolved here: an item says what stands in the pattern, and the flags in force say what it
matches.  Characters are code points, since a pattern may name one that is no character.
-/

namespace UtilityCss.Pattern

/-- A flag of a pattern, by its letter: `i`, `L`, `m`, `s`, `x`, `a`, `t`, `u`. -/
inductive Flag where
  | ignoreCase
  | locale
  | multiLine
  | dotAll
  | verbose
  | ascii
  | template
  | unicode
  deriving DecidableEq, Repr

/-- The flag of a letter. -/
def Flag.ofLetter? : Char → Option Flag
  | 'i' => some .ignoreCase
  | 'L' => some .locale
  | 'm' => some .multiLine
  | 's' => some .dotAll
  | 'x' => some .verbose
  | 'a' => some .ascii
  | 't' => some .template
  | 'u' => some .unicode
  | _ => none

/-- The flags that choose an alphabet; only one of them may be set. -/
def Flag.isMode : Flag → Bool
  | .locale | .ascii | .unicode => true
  | _ => false

/-- A set of flags. -/
structure Flags where
  ignoreCase : Bool := false
  multiLine : Bool := false
  dotAll : Bool := false
  verbose : Bool := false
  ascii : Bool := false
  unicode : Bool := false
  locale : Bool := false
  template : Bool := false
  deriving DecidableEq, Repr, Inhabited

namespace Flags

/-- The set with one flag more. -/
def add (f : Flags) : Flag → Flags
  | .ignoreCase => { f with ignoreCase := true }
  | .locale => { f with locale := true }
  | .multiLine => { f with multiLine := true }
  | .dotAll => { f with dotAll := true }
  | .verbose => { f with verbose := true }
  | .ascii => { f with ascii := true }
  | .template => { f with template := true }
  | .unicode => { f with unicode := true }

/-- The flags of either set. -/
def union (f g : Flags) : Flags :=
  ⟨f.ignoreCase || g.ignoreCase, f.multiLine || g.multiLine, f.dotAll || g.dotAll,
    f.verbose || g.verbose, f.ascii || g.ascii, f.unicode || g.unicode, f.locale || g.locale,
    f.template || g.template⟩

/-- The flags of the first set that are not of the second. -/
def diff (f g : Flags) : Flags :=
  ⟨f.ignoreCase && !g.ignoreCase, f.multiLine && !g.multiLine, f.dotAll && !g.dotAll,
    f.verbose && !g.verbose, f.ascii && !g.ascii, f.unicode && !g.unicode, f.locale && !g.locale,
    f.template && !g.template⟩

/-- No flag at all. -/
def isEmpty (f : Flags) : Bool :=
  f == {}

/-- No flag of one set is of the other. -/
def disjoint (f g : Flags) : Bool :=
  f.diff g == f

/-- The flags inside of a group that adds some and removes others.  An added alphabet replaces the
one in force. -/
def inside (f added removed : Flags) : Flags :=
  let base := if added.ascii || added.unicode || added.locale then
      { f with ascii := false, unicode := false, locale := false }
    else f
  (base.union added).diff removed

end Flags

/-- A class of characters that has an escape of its own. -/
inductive Category where
  | digit
  | notDigit
  | space
  | notSpace
  | word
  | notWord
  deriving DecidableEq, Repr

/-- A member of a character set. -/
inductive SetItem where
  | code (code : Nat)
  | range (low high : Nat)
  | category (category : Category)
  deriving DecidableEq, Repr

/-- A place in the text that an item may ask for. -/
inductive Place where
  /-- `^` -/
  | start
  /-- `$` -/
  | finish
  /-- `\A` -/
  | textStart
  /-- `\Z` -/
  | textEnd
  /-- `\b` -/
  | boundary
  /-- `\B` -/
  | noBoundary
  deriving DecidableEq, Repr

/-- How a repeat looks for its count: as many as possible, as few as possible, or as many as
possible without ever giving one back. -/
inductive Greed where
  | greedy
  | lazy
  | possessive
  deriving DecidableEq, Repr

/-- The least and the greatest number of characters that something matches. -/
structure Width where
  low : Nat
  high : Nat
  deriving DecidableEq, Repr, Inhabited

/-- An item of a pattern. -/
inductive Item where
  | code (code : Nat)
  | notCode (code : Nat)
  | any
  | set (negated : Bool) (members : List SetItem)
  | place (place : Place)
  /-- A reference to a group, with the width of the group. -/
  | backref (group : Nat) (width : Width)
  | repeated (greed : Greed) (min : Nat) (max : Option Nat) (body : List Item)
  /-- A group; one without a number captures nothing. -/
  | group (number : Option Nat) (added removed : Flags) (body : List Item)
  | branch (choices : List (List Item))
  | look (ahead negated : Bool) (body : List Item)
  | atomic (body : List Item)
  | conditional (group : Nat) (yes : List Item) (no : Option (List Item))
  deriving Inhabited

namespace Width

/-- Widths are not counted beyond this. -/
def limit : Nat := 0x10000000000000000

/-- One after the other. -/
def add (v w : Width) : Width := ⟨min (v.low + w.low) limit, min (v.high + w.high) limit⟩

/-- One or the other. -/
def join (v w : Width) : Width := ⟨min v.low w.low, max v.high w.high⟩

/-- From `min` to `max` times; without `max`, any number of times. -/
def times (w : Width) (min : Nat) : Option Nat → Width
  | some max => ⟨w.low * min, w.high * max⟩
  | none => ⟨w.low * min, if w.high == 0 then 0 else limit⟩

end Width

mutual

/-- The width of an item. -/
def Item.width : Item → Width
  | .code _ | .notCode _ | .any | .set _ _ => ⟨1, 1⟩
  | .place _ | .look _ _ _ => ⟨0, 0⟩
  | .backref _ w => w
  | .repeated _ min max body => (widthOf body).times min max
  | .group _ _ _ body => widthOf body
  | .atomic body => widthOf body
  | .branch choices => widthOfChoices choices
  | .conditional _ yes none => ⟨0, (widthOf yes).high⟩
  | .conditional _ yes (some no) => (widthOf yes).join (widthOf no)

/-- The width of a list of items. -/
def widthOf : List Item → Width
  | [] => ⟨0, 0⟩
  | item :: rest => item.width.add (widthOf rest)

/-- The width of a choice. -/
def widthOfChoices : List (List Item) → Width
  | [] => ⟨Width.limit, 0⟩
  | choice :: rest => (widthOf choice).join (widthOfChoices rest)

end

/-- Whether two items are the same single step.  Items that hold lists are never taken for the
same. -/
def Item.isSame : Item → Item → Bool
  | .code a, .code b => a == b
  | .notCode a, .notCode b => a == b
  | .any, .any => true
  | .set n a, .set m b => n == m && a == b
  | .place a, .place b => a == b
  | .backref a _, .backref b _ => a == b
  | _, _ => false

/-- The first item of every choice, if it is the same for all. -/
def sharedFirst? : List (List Item) → Option Item
  | [] => none
  | [] :: _ => none
  | (item :: _) :: rest =>
    if rest.all (fun | [] => false | other :: _ => item.isSame other) then some item else none

/-- Moves the items that all choices start with in front of the choice; `fuel` is at least the
length of the shortest choice. -/
def factor : Nat → List (List Item) → List Item × List (List Item)
  | 0, choices => ([], choices)
  | fuel + 1, choices =>
    match sharedFirst? choices with
    | none => ([], choices)
    | some item =>
      let (front, rest) := factor fuel (choices.map (·.drop 1))
      (item :: front, rest)

/-- The members of a set that a choice amounts to, if it is a single character or a set that is not
negated. -/
def choiceMembers? : List Item → Option (List SetItem)
  | [.code c] => some [.code c]
  | [.set false members] => some members
  | _ => none

/-- The members of a set that all choices amount to together. -/
def choicesMembers? : List (List Item) → Option (List SetItem)
  | [] => some []
  | choice :: rest =>
    match choiceMembers? choice, choicesMembers? rest with
    | some members, some others => some (members ++ others)
    | _, _ => none

/-- The items for a choice: what all choices start with comes first, and a choice between single
characters is a set. -/
def alternate (choices : List (List Item)) : List Item :=
  match choices with
  | [only] => only
  | _ =>
    let (front, rest) := factor ((choices.headD []).length + 1) choices
    match choicesMembers? rest with
    | some members => front ++ [.set false (Text.distinct members)]
    | none => front ++ [.branch rest]

/-- A sequence without its plain groups: what they hold stands in their place. -/
def unwrap (items : List Item) : List Item :=
  items.flatMap fun
    | .group none added removed body =>
      if added.isEmpty && removed.isEmpty then body else [.group none added removed body]
    | item => [item]

end UtilityCss.Pattern

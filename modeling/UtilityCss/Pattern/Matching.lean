import UtilityCss.Pattern.CharSet

/-!
# Patterns — matching

`runItem` looks for a way to match an item from a spot of the text such that what follows matches
too: `k` is what follows, and the first spot that satisfies it wins.  The order in which ways are
tried is that of the pattern: alternatives from left to right, greedy repeats from long to short,
lazy ones from short to long.  Groups and the look-around that holds keep the marks they set; a way
that fails leaves none.
-/

namespace UtilityCss.Pattern

/-- A spot of the text, with the places where groups have started and stopped.  Places of groups are
kept under the numbers of the groups. -/
structure Spot where
  position : Nat
  starts : Array (Option Nat)
  stops : Array (Option Nat)
  deriving DecidableEq, Repr

namespace Spot

/-- The start of a text, with a number of groups that have not taken part. -/
def origin (groups : Nat) : Spot :=
  ⟨0, Array.replicate (groups + 1) none, Array.replicate (groups + 1) none⟩

/-- The same marks at another place. -/
def moveTo (s : Spot) (position : Nat) : Spot :=
  { s with position }

/-- The next place. -/
def step (s : Spot) : Spot :=
  s.moveTo (s.position + 1)

/-- A group starts here. -/
def start (s : Spot) (group : Nat) : Spot :=
  { s with starts := s.starts.setIfInBounds group (some s.position) }

/-- A group stops here. -/
def stop (s : Spot) (group : Nat) : Spot :=
  { s with stops := s.stops.setIfInBounds group (some s.position) }

/-- The start and the end of what a group has matched, if it has taken part. -/
def span? (s : Spot) (group : Nat) : Option (Nat × Nat) :=
  match s.starts.getD group none, s.stops.getD group none with
  | some low, some high => if low ≤ high then some (low, high) else none
  | _, _ => none

end Spot

/-- What is left to match. -/
abbrev Rest := Spot → Option Spot

/-- The text that is matched. -/
abbrev Subject := Array Char

/-- The place holds a line feed. -/
def lineFeedAt (t : Subject) (position : Nat) : Bool :=
  t[position]? == some '\n'

/-- The place holds a word character. -/
def wordAt (t : Subject) (unicode : Bool) (position : Nat) : Bool :=
  match t[position]? with
  | some c => if unicode then Text.isWord c else Text.isAsciiWord c
  | none => false

/-- Exactly one of the characters around the place is a word character. -/
def atBoundary (t : Subject) (unicode : Bool) (position : Nat) : Bool :=
  (position != 0 && wordAt t unicode (position - 1)) != wordAt t unicode position

/-- The text is at a place that the pattern asks for.  An empty text has neither a boundary nor a
place without one. -/
def Place.holds (t : Subject) (f : Flags) (position : Nat) : Place → Bool
  | .start => position == 0 || (f.multiLine && lineFeedAt t (position - 1))
  | .finish =>
    position == t.size || (position + 1 == t.size && lineFeedAt t position) ||
      (f.multiLine && lineFeedAt t position)
  | .textStart => position == 0
  | .textEnd => position == t.size
  | .boundary => t.size != 0 && atBoundary t f.unicode position
  | .noBoundary => t.size != 0 && !atBoundary t f.unicode position

/-- Matches one character that passes a test. -/
def single (t : Subject) (test : Char → Bool) (s : Spot) (k : Rest) : Option Spot :=
  match t[s.position]? with
  | some c => if test c then k s.step else none
  | none => none

/-- Matches what stood from `low` on again, `count` characters. -/
def again (t : Subject) (fold : Fold) (s : Spot) (k : Rest) (low count : Nat) : Option Spot :=
  let same := (List.range count).all fun i =>
    match t[low + i]?, t[s.position + i]? with
    | some c, some d => fold.lower c.toNat == fold.lower d.toNat
    | _, _ => false
  if same then k (s.moveTo (s.position + count)) else none

/-! ### Repeats

`body` runs what is repeated.  After the least number of times an iteration is only tried where the
last one has not started, so an iteration that matches nothing is not tried again, and `fuel`, one
more than the characters left, is never used up. -/

/-- A way to match something before the rest. -/
abbrev Step := Spot → Rest → Option Spot

/-- Matches `n` times. -/
def times (body : Step) : Nat → Step
  | 0, s, k => k s
  | n + 1, s, k => body s fun s' => times body n s' k

/-- One iteration more is allowed, of `room` at most. -/
def roomLeft : Option Nat → Bool
  | some 0 => false
  | _ => true

/-- As many times as possible, fewer if the rest does not match. -/
def greedy (body : Step) : Nat → Option Nat → Option Nat → Step
  | 0, _, _, s, k => k s
  | fuel + 1, room, last, s, k =>
    if roomLeft room && last != some s.position then
      match body s (fun s' => greedy body fuel (room.map (· - 1)) (some s.position) s' k) with
      | some found => some found
      | none => k s
    else k s

/-- As few times as possible, more if the rest does not match. -/
def lazy (body : Step) : Nat → Option Nat → Option Nat → Step
  | 0, _, _, s, k => k s
  | fuel + 1, room, last, s, k =>
    match k s with
    | some found => some found
    | none =>
      if roomLeft room && last != some s.position then
        body s (fun s' => lazy body fuel (room.map (· - 1)) (some s.position) s' k)
      else none

/-- As many times as possible, whether or not the rest matches. -/
def possessive (body : Step) : Nat → Option Nat → Option Nat → Spot → Spot
  | 0, _, _, s => s
  | fuel + 1, room, last, s =>
    if roomLeft room && last != some s.position then
      match body s some with
      | some s' => possessive body fuel (room.map (· - 1)) (some s.position) s'
      | none => s
    else s

/-- Matches between `min` and `max` times. -/
def repeatBody (t : Subject) (greed : Greed) (min : Nat) (max : Option Nat) (body : Step) : Step :=
  fun s k =>
    let room := max.map (· - min)
    let fuel := t.size + 2
    match greed with
    | .greedy => times body min s fun s' => greedy body fuel room none s' k
    | .lazy => times body min s fun s' => lazy body fuel room none s' k
    | .possessive =>
      match times (fun s k => (body s some).bind k) min s some with
      | some s' => k (possessive body fuel room none s')
      | none => none

mutual

/-- Matches an item under flags and then what is left. -/
def runItem (t : Subject) (f : Flags) : Item → Step
  | .code code, s, k => single t (fun c => f.fold.same code c.toNat) s k
  | .notCode code, s, k => single t (fun c => !f.fold.same code c.toNat) s k
  | .any, s, k => single t (fun c => f.dotAll || c != '\n') s k
  | .set negated members, s, k =>
    single t (fun c => members.any (·.holds f c) != negated) s k
  | .place place, s, k => if place.holds t f s.position then k s else none
  | .backref group _, s, k =>
    match s.span? group with
    | some (low, high) => again t f.fold s k low (high - low)
    | none => none
  | .repeated greed min max body, s, k => repeatBody t greed min max (runItems t f body) s k
  | .group none added removed body, s, k => runItems t (f.inside added removed) body s k
  | .group (some number) added removed body, s, k =>
    runItems t (f.inside added removed) body (s.start number) fun s' => k (s'.stop number)
  | .branch choices, s, k => runChoices t f choices s k
  | .look ahead negated body, s, k =>
    let back := if ahead then 0 else (widthOf body).low
    let found :=
      if back ≤ s.position then runItems t f body (s.moveTo (s.position - back)) some else none
    match found, negated with
    | some s', false => k (s'.moveTo s.position)
    | none, true => k s
    | _, _ => none
  | .atomic body, s, k =>
    match runItems t f body s some with
    | some s' => k s'
    | none => none
  | .conditional number yes no, s, k =>
    if (s.span? number).isSome then runItems t f yes s k
    else
      match no with
      | some items => runItems t f items s k
      | none => k s

/-- Matches items in turn and then what is left. -/
def runItems (t : Subject) (f : Flags) : List Item → Step
  | [], s, k => k s
  | item :: rest, s, k => runItem t f item s fun s' => runItems t f rest s' k

/-- Matches the first alternative after which what is left matches too. -/
def runChoices (t : Subject) (f : Flags) : List (List Item) → Step
  | [], _, _ => none
  | choice :: rest, s, k =>
    match runItems t f choice s k with
    | some found => some found
    | none => runChoices t f rest s k

end

end UtilityCss.Pattern

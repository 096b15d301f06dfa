import UtilityCss.Pattern.Set
import UtilityCss.Number.Reader
import UtilityCss.Text.Identifier

/-!
# Patterns — reading

A pattern is a choice between sequences of items, and a group holds a choice again.  A quantifier
belongs to the item before it.  In verbose mode blanks and comments are skipped.  Flags for the
whole pattern may only stand in front of its first item; flags for a group hold inside of it.
-/

namespace UtilityCss.Pattern

variable [Names]

namespace Reading

/-! ### Quantifiers -/

/-- Counts of a repeat are below this. -/
def countBound : Nat := 4294967295

/-- The value of a count. -/
def count (digits : Text) : Reading Nat := do
  if digits.length > Number.maxDigits then throw .countTooLong
  let n := Text.digitsValue digits
  if n ≥ countBound then throw .countTooLarge
  return n

/-- The bounds of a repeat after an opening brace.  Braces that hold no bounds stand for themselves,
and the cursor stays after the opening one. -/
def braces : Reading (Option (Nat × Option Nat)) := do
  let start := (← get).rest
  if (← peek) == some (.plain (Char.ofNat 125)) then return none
  let position ← here
  let low ← takeAll Text.isAsciiDigit
  let high ← if ← accept ',' then takeAll Text.isAsciiDigit else pure low
  if ← accept (Char.ofNat 125) then
    let min ← if low.isEmpty then pure 0 else count low
    let max ← if high.isEmpty then pure none else some <$> count high
    match max with
    | some m => if m < min then failAt .minAboveMax position else return some (min, max)
    | none => return some (min, max)
  else
    moveTo start
    return none

/-- The bounds that a quantifier sets, after its first character; none if it is no quantifier. -/
def bounds (c : Char) : Reading (Option (Nat × Option Nat)) :=
  if c == '?' then return some (0, some 1)
  else if c == '*' then return some (0, none)
  else if c == '+' then return some (1, none)
  else braces

/-- The greed that may be set after a quantifier. -/
def greed : Reading Greed := do
  if ← accept '?' then return .lazy
  else if ← accept '+' then return .possessive
  else return .greedy

/-- Repeats the last of the items, which are in reverse.  `position` is the place of the
quantifier. -/
def repeatLast (min : Nat) (max : Option Nat) (position : Nat) (items : List Item) :
    Reading (List Item) :=
  match items with
  | [] | .place _ :: _ => failAt .nothingToRepeat position
  | .repeated _ _ _ _ :: _ => failAt .multipleRepeat position
  | item :: rest => do
    return .repeated (← greed) min max (unwrapOne item) :: rest
where
  /-- The items that a plain group holds, or the item alone. -/
  unwrapOne : Item → List Item
    | .group none added removed body =>
      if added.isEmpty && removed.isEmpty then body else [.group none added removed body]
    | item => [item]

/-! ### Flags -/

/-- The flag of a lexeme. -/
def flag? : Option Lexeme → Option Flag
  | some (.plain c) => Flag.ofLetter? c
  | _ => none

/-- Fails at a lexeme that is no flag, just taken: a letter is an unknown flag. -/
def refuseFlag (problem : Problem) : Option Lexeme → Reading α
  | none => failBack problem 0
  | some l =>
    match l with
    | .plain c => failBack (if Text.isLetter c then .unknownFlag else problem) 1
    | .escaped _ => failBack problem 2

/-- Flags to add, the first of which has been taken, and the character after them. -/
def addedFlags : Nat → Flag → Flags → Reading (Flags × Char)
  | 0, _, flags => return (flags, ')')
  | fuel + 1, flag, flags => do
    if flag == .locale then failBack .localeFlag 0
    let flags := flags.add flag
    if flag.isMode && flags.ascii && flags.unicode then failBack .mixedFlags 0
    let l ← next
    match l with
    | some (.plain c) =>
      if c == ')' || c == '-' || c == ':' then return (flags, c)
      else
        match flag? l with
        | some other => addedFlags fuel other flags
        | none => refuseFlag .missingFlagEnd l
    | _ => refuseFlag .missingFlagEnd l

/-- Flags to remove, the first of which has been taken, up to the colon. -/
def removedFlags : Nat → Flag → Flags → Reading Flags
  | 0, _, flags => return flags
  | fuel + 1, flag, flags => do
    if flag.isMode then failBack .modeFlagOff 0
    let flags := flags.add flag
    let l ← next
    if l == some (.plain ':') then return flags
    match flag? l with
    | some other => removedFlags fuel other flags
    | none => refuseFlag .missingColon l

/-- What flags in a group are for. -/
inductive FlagScope where
  /-- The whole pattern. -/
  | whole
  /-- The group: flags to add and flags to remove. -/
  | group (added removed : Flags)

/-- The flags of a group by their first character, which has been taken. -/
def flagScope (c : Char) : Reading FlagScope := do
  let fuel := (← get).rest.length + 1
  let (added, stop) ← match Flag.ofLetter? c with
    | some flag => addedFlags fuel flag {}
    | none => pure (({} : Flags), c)
  if stop == ')' then
    modify fun s => { s with flags := s.flags.union added }
    return .whole
  if added.template then failBack .globalFlagOn 1
  let removed ←
    if stop == '-' then do
      let l ← next
      match flag? l with
      | some flag => removedFlags fuel flag {}
      | none => refuseFlag .missingFlag l
    else pure {}
  if removed.template then failBack .globalFlagOff 1
  if !added.disjoint removed then failBack .flagOnAndOff 1
  return .group added removed

/-! ### Comments and references -/

/-- Skips a comment of verbose mode: the rest of the line. -/
def skipLine : Nat → Reading Unit
  | 0 => return ()
  | fuel + 1 => do
    match ← next with
    | none => return ()
    | some l => if l == .plain '\n' then return () else skipLine fuel

/-- Skips a comment in a group that opens at `opening`. -/
def skipComment (opening : Nat) : Nat → Reading Unit
  | 0 => return ()
  | fuel + 1 => do
    match ← next with
    | none => failAt .unterminatedComment opening
    | some l => if l == .plain ')' then return () else skipComment opening fuel

/-- The name of a group, which must be an identifier. -/
def groupName (terminator : Char) : Reading Text := do
  let n ← name terminator "group name"
  if Text.isIdentifier n then return n else failBack (.badName n) (n.length + 1)

/-- A reference to a group by its name. -/
def namedReference : Reading Item := do
  let n ← groupName ')'
  match (← get).names.lookup n with
  | none => failBack (.unknownName n) (n.length + 1)
  | some group =>
    match ← width? group with
    | none => failBack .openGroup (n.length + 1)
    | some width =>
      checkLookBehind group
      return .backref group width

/-- The number of groups is below this. -/
def groupBound : Int := 1073741823

/-- The group that a condition asks for, by name or number.  A number may be that of a group to
come, so it is written down with its place. -/
def condition : Reading Nat := do
  let n ← name ')' "group name"
  let back := n.length + 1
  let group ←
    if Text.isIdentifier n then
      match (← get).names.lookup n with
      | some group => pure group
      | none => failBack (.unknownName n) back
    else
      match Number.readInt? n with
      | none => failBack (.badName n) back
      | some number =>
        if number < 0 then failBack (.badName n) back
        else if number == 0 then failBack .badGroupNumber back
        else if number ≥ groupBound then failBack (.unknownGroup number.toNat) back
        else
          let group := number.toNat
          let position := (← here) - back
          modify fun s =>
            if (s.conditions.lookup group).isSome then s
            else { s with conditions := (group, position) :: s.conditions }
          pure group
  checkLookBehind group
  return group

/-! ### Items -/

/-- What a group turned out to be. -/
inductive Outcome where
  | item (item : Item)
  /-- A comment. -/
  | nothing
  /-- Flags for the whole pattern. -/
  | flags

/-- A blank of verbose mode. -/
def isSkipped (c : Char) : Bool :=
  c == ' ' || (9 ≤ c.toNat && c.toNat ≤ 13)

/-- Takes the closing parenthesis of a group that opens at `opening`. -/
def close (opening : Nat) : Reading Unit := do
  if ← accept ')' then return () else failAt .unterminatedGroup opening

mutual

/-- A choice; `top` says that it is the whole pattern, `done` holds the alternatives read before,
the last one first. -/
def choice (top : Bool) : Nat → Bool → List (List Item) → Reading (List Item)
  | 0, _, done => return alternate done.reverse
  | fuel + 1, verbose, done => do
    let items ← sequence fuel verbose (top && done.isEmpty) []
    if ← accept '|' then
      let overall := (← get).flags.verbose
      choice top fuel (if top then overall else verbose) (items :: done)
    else return alternate (items :: done).reverse

/-- A sequence of items up to a bar, a closing parenthesis or the end; `first` says that it opens
the pattern, `items` are those read before, the last one first. -/
def sequence : Nat → Bool → Bool → List Item → Reading (List Item)
  | 0, _, _, items => return unwrap items.reverse
  | fuel + 1, verbose, first, items => do
    match ← peek with
    | none => return unwrap items.reverse
    | some (.escaped c) =>
      let _ ← next
      sequence fuel verbose first ((← itemEscape c) :: items)
    | some (.plain c) =>
      if c == '|' || c == ')' then return unwrap items.reverse
      let position ← here
      let _ ← next
      if verbose && isSkipped c then sequence fuel verbose first items
      else if verbose && c == '#' then
        skipLine ((← get).rest.length + 1)
        sequence fuel verbose first items
      else if c == '.' then sequence fuel verbose first (.any :: items)
      else if c == '^' then sequence fuel verbose first (.place .start :: items)
      else if c == '$' then sequence fuel verbose first (.place .finish :: items)
      else if c == '[' then sequence fuel verbose first ((← characterSet) :: items)
      else if c == '*' || c == '+' || c == '?' || c.toNat == 123 then
        match ← bounds c with
        | none => sequence fuel verbose first (.code c.toNat :: items)
        | some (min, max) => sequence fuel verbose first (← repeatLast min max position items)
      else if c == '(' then
        match ← group fuel verbose position with
        | .item item => sequence fuel verbose first (item :: items)
        | .nothing => sequence fuel verbose first items
        | .flags =>
          if !first || !items.isEmpty then failAt .lateFlags position
          sequence fuel (← get).flags.verbose first items
      else sequence fuel verbose first (.code c.toNat :: items)

/-- What stands in parentheses, after the opening one at `opening`. -/
def group : Nat → Bool → Nat → Reading Outcome
  | 0, _, _ => return .nothing
  | fuel + 1, verbose, opening => do
    if !(← accept '?') then return ← capture fuel verbose opening none
    match ← next with
    | none => failBack .unexpectedEnd 0
    | some (.escaped c) => failBack (.unknownExtension ['?', '\\', c]) 3
    | some (.plain c) =>
      if c == 'P' then
        if ← accept '<' then
          capture fuel verbose opening (some (← groupName '>'))
        else if ← accept '=' then
          return .item (← namedReference)
        else
          match ← next with
          | none => failBack .unexpectedEnd 0
          | some l => failBack (.unknownExtension ('?' :: 'P' :: l.text)) (l.text.length + 2)
      else if c == ':' then
        let body ← choice false fuel verbose []
        close opening
        return .item (.group none {} {} body)
      else if c == '#' then
        skipComment opening ((← get).rest.length + 1)
        return .nothing
      else if c == '=' || c == '!' then
        let body ← choice false fuel verbose []
        close opening
        return .item (.look true (c == '!') body)
      else if c == '<' then
        match ← next with
        | none => failBack .unexpectedEnd 0
        | some l =>
          if l == .plain '=' || l == .plain '!' then
            let outer := (← get).lookBehind
            let first := outer.getD (← groups)
            modify fun s => { s with lookBehind := some first }
            let body ← choice false fuel verbose []
            modify fun s => { s with lookBehind := outer }
            close opening
            return .item (.look false (l == .plain '!') body)
          else failBack (.unknownExtension ('?' :: '<' :: l.text)) (l.text.length + 2)
      else if c == '(' then
        let number ← condition
        let yes ← sequence fuel verbose false []
        if ← accept '|' then
          let no ← sequence fuel verbose false []
          if (← peek) == some (.plain '|') then failBack .tooManyBranches 0
          close opening
          return .item (.conditional number yes (some no))
        else
          close opening
          return .item (.conditional number yes none)
      else if c == '>' then
        let body ← choice false fuel verbose []
        close opening
        return .item (.atomic body)
      else if c == '-' || (Flag.ofLetter? c).isSome then
        match ← flagScope c with
        | .whole => return .flags
        | .group added removed =>
          let body ← choice false fuel ((verbose || added.verbose) && !removed.verbose) []
          close opening
          return .item (.group none added removed body)
      else failBack (.unknownExtension ['?', c]) 2

/-- A group that captures what it matches. -/
def capture : Nat → Bool → Nat → Option Text → Reading Outcome
  | 0, _, _, _ => return .nothing
  | fuel + 1, verbose, opening, name => do
    let number ← openGroup name
    let body ← choice false fuel verbose []
    close opening
    closeGroup number body
    return .item (.group (some number) {} {} body)

end

/-- The flags of a pattern that has been read: Unicode, unless ASCII is asked for. -/
def finalFlags (flags : Flags) : Reading Flags :=
  if !flags.ascii then return { flags with unicode := true }
  else if flags.unicode then throw .mixedModes
  else return flags

/-- The conditions must have asked for groups that exist. -/
def checkConditions (total : Nat) : List (Nat × Nat) → Reading Unit
  | [] => return ()
  | (number, position) :: rest => do
    if number ≥ total then failAt (.unknownGroup number) position
    checkConditions total rest

/-- A whole pattern: its flags, the number of its groups and its items. -/
def whole : Reading (Flags × Nat × List Item) := do
  let s ← get
  moveTo s.rest
  let items ← choice true (4 * s.total + 4) s.flags.verbose []
  let flags ← finalFlags (← get).flags
  if (← peek).isSome then failBack .unbalanced 0
  let total ← groups
  checkConditions total (← get).conditions.reverse
  return (flags, total - 1, items)

end Reading

/-- Reads a pattern with flags set from outside. -/
def read (source : Text) (flags : Flags) : Except Fault (Flags × Nat × List Item) :=
  (Reading.whole.run ⟨source.length, source, flags, #[], [], none, []⟩).map Prod.fst

end UtilityCss.Pattern

import UtilityCss.Pattern.Fault
import UtilityCss.Text.Digit

/-!
# Patterns — the cursor

A pattern is read one lexeme at a time, where a lexeme is a character or a character after a
backslash.  The cursor holds what is left of the pattern and what the reader has learnt on the way:
the flags that hold for the whole pattern, the groups and their widths, and the groups that a
condition has asked for.  A backslash at the very end is no lexeme, and moving in front of it fails.
-/

namespace UtilityCss.Pattern

/-- A step of the pattern's text. -/
inductive Lexeme where
  | plain (c : Char)
  | escaped (c : Char)
  deriving DecidableEq, Repr

/-- The lexeme as it is written. -/
def Lexeme.text : Lexeme → Text
  | .plain c => [c]
  | .escaped c => ['\\', c]

/-- The lexeme that a text opens with. -/
def lexeme? : Text → Option Lexeme
  | [] => none
  | '\\' :: c :: _ => some (.escaped c)
  | c :: _ => some (.plain c)

/-- The state of a reader. -/
structure Cursor where
  /-- The length of the pattern. -/
  total : Nat
  /-- What is left of the pattern. -/
  rest : Text
  /-- The flags that hold for the whole pattern, as far as it has been read. -/
  flags : Flags
  /-- The width of every group, from the first on; an open group has none yet. -/
  widths : Array (Option Width)
  /-- The groups that have a name. -/
  names : List (Text × Nat)
  /-- Inside of a look-behind, the number of the first group that it opens. -/
  lookBehind : Option Nat
  /-- The groups that conditions have asked for by number, the last one first, with the place of the
  first mention. -/
  conditions : List (Nat × Nat)

/-- A reader of a part of a pattern. -/
abbrev Reading := StateT Cursor (Except Fault)

namespace Reading

/-- The place of the next lexeme. -/
def here : Reading Nat := do
  let s ← get
  return s.total - s.rest.length

/-- Fails at a place. -/
def failAt (problem : Problem) (position : Nat) : Reading α :=
  throw (.malformed problem (some position))

/-- Fails some characters before the next lexeme. -/
def failBack (problem : Problem) (back : Nat) : Reading α := do
  failAt problem ((← here) - back)

/-- The next lexeme, left where it is. -/
def peek : Reading (Option Lexeme) := do
  return lexeme? (← get).rest

/-- Goes to a place, given what is left from there. -/
def moveTo (rest : Text) : Reading Unit := do
  let s ← get
  if rest == ['\\'] then failAt .danglingEscape (s.total - 1)
  else set { s with rest := rest }

/-- The next lexeme, taken. -/
def next : Reading (Option Lexeme) := do
  match ← peek with
  | none => return none
  | some l =>
    moveTo ((← get).rest.drop l.text.length)
    return some l

/-- Takes the next lexeme if it is the character. -/
def accept (c : Char) : Reading Bool := do
  if (← peek) == some (.plain c) then
    let _ ← next
    return true
  else return false

/-- Takes up to `n` plain characters of a kind. -/
def takeUpTo (kind : Char → Bool) : Nat → Reading Text
  | 0 => return []
  | n + 1 => do
    match ← peek with
    | some (.plain c) =>
      if kind c then
        let _ ← next
        return c :: (← takeUpTo kind n)
      else return []
    | _ => return []

/-- Takes all plain characters of a kind that come next. -/
def takeAll (kind : Char → Bool) : Reading Text := do
  takeUpTo kind (← get).rest.length

/-- Takes lexemes up to a terminator; `taken` has been taken before. -/
def takeUntil (terminator : Char) (what : String) : Nat → Text → Reading Text
  | 0, taken => return taken
  | fuel + 1, taken => do
    match ← next with
    | none =>
      if taken.isEmpty then failBack (.missingName what) 0
      else failBack (.unterminatedName terminator) taken.length
    | some l =>
      if l == .plain terminator then
        if taken.isEmpty then failBack (.missingName what) 1 else return taken
      else takeUntil terminator what fuel (taken ++ l.text)

/-- Takes a name up to its terminator, which is taken too. -/
def name (terminator : Char) (what : String) : Reading Text := do
  takeUntil terminator what ((← get).rest.length + 1) []

/-- The number of groups opened so far, the whole pattern among them. -/
def groups : Reading Nat := do
  return (← get).widths.size + 1

/-- The width of a group that has been closed. -/
def width? (group : Nat) : Reading (Option Width) := do
  return ((← get).widths.getD (group - 1) none)

/-- A condition or reference inside of a look-behind may only ask for groups closed before it. -/
def checkLookBehind (group : Nat) : Reading Unit := do
  match (← get).lookBehind with
  | none => return ()
  | some first =>
    if (← width? group).isNone then failBack .openGroup 0
    else if group ≥ first then failBack .lookBehindGroup 0
    else return ()

/-- Opens a group and gives its number. -/
def openGroup (name : Option Text) : Reading Nat := do
  let s ← get
  let number := s.widths.size + 1
  match name with
  | none =>
    set { s with widths := s.widths.push none }
    return number
  | some n =>
    match s.names.lookup n with
    | some earlier => failBack (.nameTaken n number earlier) (n.length + 1)
    | none =>
      set { s with widths := s.widths.push none, names := (n, number) :: s.names }
      return number

/-- Closes a group. -/
def closeGroup (number : Nat) (body : List Item) : Reading Unit :=
  modify fun s => { s with widths := s.widths.set! (number - 1) (some (widthOf body)) }

end Reading

end UtilityCss.Pattern

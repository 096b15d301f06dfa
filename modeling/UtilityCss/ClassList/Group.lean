import UtilityCss.ClassToken.Basic

/-!
# Class lists — groups

A group `hover:(a b)` stands for `hover:a hover:b`, and groups nest.  `expand` reads the text once,
character by character, with a stack of the groups that are open.  Parentheses inside of square
brackets are part of the token, and so are those that do not follow a chain of variants; a `)` that
closes nothing is part of the token too.  A group that is never closed is left as it was written,
with all that follows it.

`Scan` is the state of the reader and `Scan.step` what one character does to it.
-/

namespace UtilityCss.ClassList

/-- A group that is open: the variants before its parenthesis, the place where they start, and the
tokens it holds so far. -/
structure OpenGroup where
  chain : Text
  start : Nat
  items : List Text
  deriving DecidableEq, Repr

/-- A token that is being read: the place where it starts and its characters, last first. -/
structure Partial where
  start : Nat
  reversed : Text
  deriving DecidableEq, Repr

/-- The state of the reader. -/
structure Scan where
  /-- The tokens outside of all groups. -/
  done : List Text := []
  /-- The open groups, innermost first. -/
  groups : List OpenGroup := []
  token : Option Partial := none
  /-- The depth of square brackets in the token. -/
  brackets : Nat := 0
  /-- The depth of the parentheses that are part of the token. -/
  parens : Nat := 0
  /-- The character before was a backslash that hides the next one. -/
  escaped : Bool := false
  position : Nat := 0
  deriving DecidableEq, Repr

namespace Scan

/-- Adds tokens to the innermost open group. -/
def add (s : Scan) (items : List Text) : Scan :=
  match s.groups with
  | [] => { s with done := s.done ++ items }
  | g :: rest => { s with groups := { g with items := g.items ++ items } :: rest }

/-- Ends the token that is being read; one without characters is dropped. -/
def flush (s : Scan) : Scan :=
  match s.token with
  | none => s
  | some t =>
    let s := { s with token := none }
    if t.reversed.isEmpty then s else s.add [t.reversed.reverse]

/-- The characters of the token that is being read. -/
def head (s : Scan) : Text :=
  match s.token with
  | some t => t.reversed.reverse
  | none => []

/-- Starts a token at the present character unless one is being read. -/
def begin (s : Scan) : Scan :=
  match s.token with
  | some _ => s
  | none => { s with token := some ⟨s.position, []⟩ }

/-- Adds a character to the token. -/
def push (s : Scan) (c : Char) : Scan :=
  match s.token with
  | some t => { s with token := some { t with reversed := c :: t.reversed } }
  | none => { s with token := some ⟨s.position, [c]⟩ }

/-- The chain of variants that the token is, if it ends with a colon. -/
def chain? (s : Scan) : Option Text :=
  match s.token with
  | some ⟨_, ':' :: reversed⟩ =>
    let chain := reversed.reverse
    if ClassToken.isVariantChain chain then some chain else none
  | _ => none

/-- Opens a group with the token as its variants. -/
def openGroup (s : Scan) (chain : Text) : Scan :=
  let start := match s.token with
    | some t => t.start
    | none => s.position
  { s with groups := ⟨chain, start, []⟩ :: s.groups, token := none }

/-- Closes the innermost group: each of its tokens goes behind its variants. -/
def closeGroup (s : Scan) : Scan :=
  let s := s.flush
  match s.groups with
  | [] => s
  | g :: rest => ({ s with groups := rest }).add (g.items.map fun item => g.chain ++ ':' :: item)

/-- What a character that is not blank and not hidden does, once a token is being read. -/
def visit (s : Scan) (c : Char) : Scan :=
  if c == '\\' then { s.push c with escaped := true }
  else if s.brackets > 0 then
    let brackets := if c == '[' then s.brackets + 1 else if c == ']' then s.brackets - 1
      else s.brackets
    { s.push c with brackets }
  else if c == '[' then { s.push c with brackets := 1 }
  else if c == '(' then
    match if s.parens == 0 then s.chain? else none with
    | some chain => s.openGroup chain
    | none => { s.push c with parens := s.parens + 1 }
  else if c == ')' then
    if s.parens > 0 then { s.push c with parens := s.parens - 1 }
    else if s.groups.isEmpty then s.push c
    else s.closeGroup
  else s.push c

/-- What one character does. -/
def step (s : Scan) (c : Char) : Scan :=
  let next :=
    if s.escaped then { s.push c with escaped := false }
    else if Text.isBlank c then { s.flush with brackets := 0, parens := 0 }
    else s.begin.visit c
  { next with position := s.position + 1 }

end Scan

/-- The state of the reader at the end of a text, before its last token is ended. -/
def scan (t : Text) : Scan :=
  t.foldl Scan.step {}

/-- The place where the outermost group that is never closed starts, if there is one. -/
def unclosedStart? (t : Text) : Option Nat :=
  (scan t).groups.getLast?.map (·.start)

/-- The tokens of a class list with its groups expanded. -/
def expand (t : Text) : List Text :=
  let final := (scan t).flush
  match final.groups.getLast? with
  | none => final.done
  | some outer => final.done ++ Text.words (t.drop outer.start)

/-- The expanded class list as a text. -/
def expandText (t : Text) : Text :=
  Text.join [' '] (expand t)

/-- Reads every token of a class list, groups expanded. -/
def readTokens (t : Text) (limit : ClassToken.Limit := ClassToken.defaultLimit) : List ClassToken :=
  ClassToken.readWords (expandText t) limit

end UtilityCss.ClassList

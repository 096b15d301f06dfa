import UtilityCss.Pattern.Basic

/-!
# Patterns — anchoring and names

A rule's pattern must match the whole utility, so it is put between `^` and `$` in a group that
captures nothing.  Flags that stand at its start stay at the start, and where comments are allowed a
line feed ends one that would hide the end of the group.

A rule without a name is named after its pattern, and the word that a pattern starts with serves to
look it up.
-/

namespace UtilityCss.Pattern

/-- A letter that sets a flag for the whole pattern. -/
def isHeadLetter (c : Char) : Bool :=
  c == 'a' || c == 'i' || c == 'L' || c == 'm' || c == 's' || c == 'u' || c == 'x'

/-- The flags at the start of a pattern, in their parentheses, and the rest. -/
def splitHead (source : Text) : Text × Text :=
  match source with
  | '(' :: '?' :: inner =>
    let letters := inner.takeWhile isHeadLetter
    match inner.dropWhile isHeadLetter with
    | ')' :: body =>
      if letters.isEmpty then ([], source) else ('(' :: '?' :: letters ++ [')'], body)
    | _ => ([], source)
  | _ => ([], source)

/-- The text of a pattern that only matches whole utilities. -/
def anchoredText (source : Text) (flags : Flags) : Text :=
  let (head, body) := splitHead source
  let comments := flags.verbose || head.contains 'x'
  head ++ "^(?:".toList ++ body ++ (if comments then ['\n'] else []) ++ [')', '$']

/-- Reads a pattern so that it only matches whole utilities. -/
def anchor [Names] (source : Text) (flags : Flags) : Except Fault Pattern :=
  ofText (anchoredText source flags) flags

/-- The word that a text starts with: a letter, letters and digits.  There must be something after
it. -/
def leadingWord? (t : Text) : Option Text :=
  match t with
  | [] => none
  | c :: rest =>
    if Text.isAsciiLetter c && !(rest.dropWhile Text.isAsciiAlphanumeric).isEmpty then
      some (c :: rest.takeWhile Text.isAsciiAlphanumeric)
    else none

/-- The word that a pattern starts with, after a `^`. -/
def literalWord? (source : Text) : Option Text :=
  match source with
  | '^' :: rest => leadingWord? rest
  | _ => leadingWord? source

/-- A character that has a meaning of its own in a pattern. -/
def isSpecial (c : Char) : Bool :=
  "^$\\[]()|+*?.".toList.contains c || c.toNat == 123 || c.toNat == 125

/-- Generated names are cut at this length. -/
def nameLength : Nat := 40

/-- The name of a rule that has none: its pattern without special characters. -/
def defaultName (source : Text) : Text :=
  let name := (source.filter (!isSpecial ·)).take nameLength
  if name.isEmpty then "anonymous".toList else name

end UtilityCss.Pattern

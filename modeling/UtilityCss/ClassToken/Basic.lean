import UtilityCss.ClassToken.Arbitrary

/-!
# Class tokens — reading and writing

A class token is a utility such as `bg-red-500/80` behind a chain of variants, with two flags: `!`
makes the declarations important and `-` negates their values.  The flags may stand before the chain
or after it; `--` starts the name of a custom property and is no flag.

`ClassToken.read` never fails: what cannot be read as a variant stays in the utility.
`ClassToken.write` puts a token together from its parts.
-/

namespace UtilityCss

/-- A class token taken apart. -/
structure ClassToken where
  /-- The token as it was read, without blanks around it. -/
  original : Text
  /-- The variants, outermost first. -/
  variants : List Text := []
  /-- What rules are matched against. -/
  utility : Text := []
  negative : Bool := false
  important : Bool := false
  deriving DecidableEq, Repr, Inhabited

namespace ClassToken

/-- How long a token may be. -/
inductive Limit where
  | atMost (length : Int)
  | unlimited
  deriving DecidableEq, Repr

/-- Whether a token of that length may be read. -/
def Limit.allows : Limit → Nat → Bool
  | .atMost limit, length => (length : Int) ≤ limit
  | .unlimited, _ => true

/-- Longer tokens are not read, unless another limit is set. -/
def defaultLimit : Limit := .atMost 500

/-- A hyphen at the start that is not the first of two. -/
def isNegative (t : Text) : Bool :=
  Text.startsWith t ['-'] && !Text.startsWith t ['-', '-']

/-- Takes the variants off the start of a text: as long as there is a top-level colon with a variant
before it and something after it. -/
def stripVariants (t : Text) : List Text × Text :=
  match h : ClassList.breakColon? t with
  | none => ([], t)
  | some (head, tail) =>
    have : tail.length < t.length := ClassList.length_lt_of_breakColon? h
    if tail.isEmpty || !isVariant head then ([], t)
    else
      let (variants, utility) := stripVariants tail
      (head :: variants, utility)
termination_by t.length

/-- Takes a `!` off the start unless the flag is set already. -/
def stripImportant (already : Bool) (t : Text) : Bool × Text :=
  match t with
  | '!' :: rest => if already then (true, t) else (true, rest)
  | _ => (already, t)

/-- Takes a `-` off the start unless the flag is set already. -/
def stripNegative (already : Bool) (t : Text) : Bool × Text :=
  if !already && isNegative t then (true, t.drop 1) else (already, t)

/-- Reads a trimmed token. -/
def readTrimmed (token : Text) : ClassToken :=
  let (important, afterImportant) := stripImportant false token
  let (negative, afterFlags) := stripNegative false afterImportant
  let (variants, rest) := stripVariants afterFlags
  if variants.isEmpty then
    ⟨token, [], rest, negative, important⟩
  else
    let (important, rest) := stripImportant important rest
    let (negative, utility) := stripNegative negative rest
    ⟨token, variants, utility, negative, important⟩

/-- Reads a token.  One that is over the limit keeps its text only. -/
def read (token : Text) (limit : Limit := defaultLimit) : ClassToken :=
  let trimmed := Text.trim token
  if limit.allows trimmed.length then readTrimmed trimmed else { original := trimmed }

/-- Reads every word of a class list; groups are not expanded. -/
def readWords (list : Text) (limit : Limit := defaultLimit) : List ClassToken :=
  (Text.words list).map (read · limit)

/-- The variants and the utility, joined by colons. -/
def joinVariants (utility : Text) (variants : List Text) : Text :=
  Text.join [':'] (variants ++ [utility])

/-- Writes a token with its flags after the variants. -/
def write (utility : Text) (variants : List Text) (negative important : Bool) : Text :=
  let body := if negative then '-' :: utility else utility
  let body := if important then '!' :: body else body
  joinVariants body variants

/-- Whether the token has variants. -/
def hasVariants (t : ClassToken) : Bool :=
  !t.variants.isEmpty

/-- The content of the first bracket of the utility. -/
def arbitrary (t : ClassToken) : Option Text :=
  bracketContent? t.utility

/-- The modifier of the utility. -/
def modifier (t : ClassToken) : Option Text :=
  modifier? t.utility

end ClassToken

end UtilityCss

import UtilityCss.Pattern.Escape

/-!
# Patterns — character sets

A set stands in square brackets: single characters, escapes and ranges, in any number but at least
one, so that a closing bracket that comes first is a member.  A circumflex at the start negates the
set.  A hyphen makes a range of its neighbours unless it comes last.
-/

namespace UtilityCss.Pattern.Reading

variable [Names]

/-- A member of a set by its first lexeme, which has been taken. -/
def setMember : Lexeme → Reading SetItem
  | .escaped c => setEscape c
  | .plain c => return .code c.toNat

/-- A range between two members, which must be characters in order. -/
def setRange (first last : Lexeme) (low high : SetItem) : Reading SetItem := do
  let refuse := failBack (.badRange first.text last.text) (first.text.length + 1 + last.text.length)
  match low, high with
  | .code l, .code h => if h < l then refuse else return .range l h
  | _, _ => refuse

/-- The members of a set up to its closing bracket, the last one first.  `opening` is the place of
the opening bracket. -/
def setMembers (opening : Nat) : Nat → List SetItem → Reading (List SetItem)
  | 0, members => return members
  | fuel + 1, members => do
    match ← next with
    | none => failAt .unterminatedSet opening
    | some l =>
      if l == .plain ']' && !members.isEmpty then return members
      let low ← setMember l
      if !(← accept '-') then setMembers opening fuel (low :: members)
      else
        match ← next with
        | none => failAt .unterminatedSet opening
        | some m =>
          if m == .plain ']' then return .code 45 :: low :: members
          let high ← setMember m
          setMembers opening fuel ((← setRange l m low high) :: members)

/-- A set after its opening bracket.  A set of a single character is that character. -/
def characterSet : Reading Item := do
  let opening := (← here) - 1
  let negated ← accept '^'
  let members ← setMembers opening ((← get).rest.length + 1) []
  match Text.distinct members.reverse, negated with
  | [.code c], false => return .code c
  | [.code c], true => return .notCode c
  | distinct, _ => return .set negated distinct

end UtilityCss.Pattern.Reading

import UtilityCss.Pattern.Tree
import UtilityCss.Text.Quoted

/-!
# Patterns — faults

Why a pattern cannot be read.  A malformed pattern has a problem, mostly with its place in the text
of the pattern; the other faults are limits of the engine.
-/

namespace UtilityCss.Pattern

/-- What is wrong with a pattern. -/
inductive Problem where
  | danglingEscape
  | badEscape (escape : Text)
  | incompleteEscape (escape : Text)
  | octalTooLarge (escape : Text)
  | unknownCharacterName (name : Text)
  | missingBrace
  | unterminatedSet
  | badRange (low high : Text)
  | nothingToRepeat
  | multipleRepeat
  | minAboveMax
  | unterminatedGroup
  | unterminatedComment
  | unbalanced
  | unexpectedEnd
  | unknownExtension (start : Text)
  | missingName (what : String)
  | unterminatedName (terminator : Char)
  | badName (name : Text)
  | unknownName (name : Text)
  | nameTaken (name : Text) (number earlier : Nat)
  | badGroupNumber
  | unknownGroup (number : Nat)
  | openGroup
  | lookBehindGroup
  | tooManyBranches
  | lateFlags
  | localeFlag
  | mixedFlags
  | unknownFlag
  | missingFlag
  | missingFlagEnd
  | missingColon
  | globalFlagOn
  | globalFlagOff
  | modeFlagOff
  | flagOnAndOff
  | variableLookBehind
  | wideLookBehind
  | templateRepeat (greed : Greed)
  deriving DecidableEq, Repr

/-- The name of the operator that a repeat is. -/
def Greed.operator : Greed → Text
  | .greedy => "MAX_REPEAT".toList
  | .lazy => "MIN_REPEAT".toList
  | .possessive => "POSSESSIVE_REPEAT".toList

/-- The words for a problem. -/
def Problem.message : Problem → Text
  | .danglingEscape => "bad escape (end of pattern)".toList
  | .badEscape e => "bad escape ".toList ++ e
  | .incompleteEscape e => "incomplete escape ".toList ++ e
  | .octalTooLarge e => "octal escape value ".toList ++ e ++ " outside of range 0-0o377".toList
  | .unknownCharacterName n => "undefined character name ".toList ++ Text.quoted n
  | .missingBrace => "missing \x7b".toList
  | .unterminatedSet => "unterminated character set".toList
  | .badRange low high => "bad character range ".toList ++ low ++ '-' :: high
  | .nothingToRepeat => "nothing to repeat".toList
  | .multipleRepeat => "multiple repeat".toList
  | .minAboveMax => "min repeat greater than max repeat".toList
  | .unterminatedGroup => "missing ), unterminated subpattern".toList
  | .unterminatedComment => "missing ), unterminated comment".toList
  | .unbalanced => "unbalanced parenthesis".toList
  | .unexpectedEnd => "unexpected end of pattern".toList
  | .unknownExtension start => "unknown extension ".toList ++ start
  | .missingName what => "missing ".toList ++ what.toList
  | .unterminatedName terminator => "missing ".toList ++ terminator :: ", unterminated name".toList
  | .badName name => "bad character in group name ".toList ++ Text.quoted name
  | .unknownName name => "unknown group name ".toList ++ Text.quoted name
  | .nameTaken name number earlier =>
    "redefinition of group name ".toList ++ Text.quoted name ++ " as group ".toList ++
      Text.ofNat number ++ "; was group ".toList ++ Text.ofNat earlier
  | .badGroupNumber => "bad group number".toList
  | .unknownGroup number => "invalid group reference ".toList ++ Text.ofNat number
  | .openGroup => "cannot refer to an open group".toList
  | .lookBehindGroup =>
    "cannot refer to group defined in the same lookbehind subpattern".toList
  | .tooManyBranches => "conditional backref with more than two branches".toList
  | .lateFlags => "global flags not at the start of the expression".toList
  | .localeFlag => "bad inline flags: cannot use 'L' flag with a str pattern".toList
  | .mixedFlags => "bad inline flags: flags 'a', 'u' and 'L' are incompatible".toList
  | .unknownFlag => "unknown flag".toList
  | .missingFlag => "missing flag".toList
  | .missingFlagEnd => "missing -, : or )".toList
  | .missingColon => "missing :".toList
  | .globalFlagOn => "bad inline flags: cannot turn on global flag".toList
  | .globalFlagOff => "bad inline flags: cannot turn off global flag".toList
  | .modeFlagOff => "bad inline flags: cannot turn off flags 'a', 'u' and 'L'".toList
  | .flagOnAndOff => "bad inline flags: flag turned on and off".toList
  | .variableLookBehind => "look-behind requires fixed-width pattern".toList
  | .wideLookBehind => "looks too much behind".toList
  | .templateRepeat greed => "internal: unsupported template operator ".toList ++ greed.operator

/-- Why a pattern cannot be used. -/
inductive Fault where
  /-- The pattern is malformed, at a place if one is known. -/
  | malformed (problem : Problem) (position : Option Nat)
  /-- A repeat count is beyond the range of counts. -/
  | countTooLarge
  /-- The value of an escape is beyond the range of code values. -/
  | codeTooLarge
  /-- A repeat count has too many digits to be read. -/
  | countTooLong
  /-- The ASCII and the Unicode flag are both set. -/
  | mixedModes
  /-- A look-behind goes back too far to be compiled. -/
  | lookBehindTooFar
  deriving DecidableEq, Repr

/-- The words for a problem at a place of a pattern: the line and column are given if the pattern
has more than one line. -/
def Problem.placed (problem : Problem) (pattern : Text) : Option Nat → Text
  | none => problem.message
  | some position =>
    let before := pattern.take position
    let line := before.count '\n' + 1
    let column := (before.reverse.takeWhile (· != '\n')).length + 1
    let place := problem.message ++ " at position ".toList ++ Text.ofNat position
    if pattern.contains '\n' then
      place ++ " (line ".toList ++ Text.ofNat line ++ ", column ".toList ++ Text.ofNat column ++
        [')']
    else place

end UtilityCss.Pattern

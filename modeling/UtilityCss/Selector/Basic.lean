import UtilityCss.ClassToken.Basic

/-!
# Selectors — escaping, negation and the text of a rule

A class name goes into a selector with a backslash before every character that is not an ASCII
letter, a digit, an underscore or a hyphen; a digit at the start is written by its code point.
`render` writes the declarations of one token as one flat rule.
-/

namespace UtilityCss

/-- Declarations: property names, each once, with their values, in order. -/
abbrev Declarations := List (Text × Text)

namespace Declarations

/-- Sets a property: in place if it is there, else at the end. -/
def set (d : Declarations) (name value : Text) : Declarations :=
  match d with
  | [] => [(name, value)]
  | (n, v) :: rest => if n == name then (n, value) :: rest else (n, v) :: set rest name value

/-- Declarations from pairs: of two with one name the first gives the place, the last the value. -/
def ofPairs (pairs : List (Text × Text)) : Declarations :=
  pairs.foldl (fun d (name, value) => d.set name value) []

end Declarations

namespace Selector

/-- A character that stands for itself in a selector. -/
def isPlain (c : Char) : Bool :=
  Text.isAsciiAlphanumeric c || c == '_' || c == '-'

/-- A character of a class name in a selector. -/
def escapeChar (c : Char) : Text :=
  if isPlain c then [c] else ['\\', c]

/-- The class name in a selector. -/
def escape (name : Text) : Text :=
  match name.flatMap escapeChar with
  | [] => []
  | c :: rest => if Text.isDigit c then '\\' :: '3' :: c :: ' ' :: rest else c :: rest

/-- The negative of a value: a number gets or loses its sign, a function call goes into a
calculation, and what is no number stays. -/
def negate (value : Text) : Text :=
  match value with
  | '-' :: rest => rest
  | _ =>
    if value == "0".toList || value == "auto".toList then value
    else if Text.startsWith value "var(".toList || Text.startsWith value "calc(".toList then
      "calc(".toList ++ value ++ " * -1)".toList
    else
      match value with
      | c :: _ => if Text.isDigit c || c == '.' then '-' :: value else value
      | [] => value

/-- One declaration. -/
def declaration (important : Bool) (d : Text × Text) : Text :=
  d.1 ++ ": ".toList ++ d.2 ++ (if important then " !important;".toList else [';'])

/-- The rule for a token. -/
def render (token : ClassToken) (declarations : Declarations) : Text :=
  '.' :: escape token.original ++ ' ' :: Char.ofNat 123 :: ' ' ::
    Text.join [' '] (declarations.map (declaration token.important)) ++ [' ', Char.ofNat 125]

end Selector

end UtilityCss

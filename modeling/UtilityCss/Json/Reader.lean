import UtilityCss.Json.Basic
import UtilityCss.Text.Digit

/-!
# JSON — reading

A recursive descent over the characters of the text.  Every function takes what is left of the text
and returns what is left after it; a fault is known by how much was left, which gives its place.

The grammar is that of JSON with three more numbers, `NaN`, `Infinity` and `-Infinity`.  Of two
members with one name the first gives the place and the last the value.  A lone surrogate stands for
the replacement character.
-/

namespace UtilityCss.Json

/-- What is wrong with a text. -/
inductive Problem where
  | expectingValue
  | expectingName
  | expectingColon
  | expectingComma
  | unterminatedString
  | controlCharacter
  | badEscape
  | badUnitEscape
  | extraData
  | byteOrderMark
  deriving DecidableEq, Repr

/-- The words for a problem. -/
def Problem.message : Problem → String
  | .expectingValue => "Expecting value"
  | .expectingName => "Expecting property name enclosed in double quotes"
  | .expectingColon => "Expecting ':' delimiter"
  | .expectingComma => "Expecting ',' delimiter"
  | .unterminatedString => "Unterminated string starting at"
  | .controlCharacter => "Invalid control character at"
  | .badEscape => "Invalid \\escape"
  | .badUnitEscape => "Invalid \\uXXXX escape"
  | .extraData => "Extra data"
  | .byteOrderMark => "Unexpected UTF-8 BOM (decode using utf-8-sig)"

/-- Why a text cannot be read. -/
inductive ReadFault where
  /-- A problem at a place, given by how many characters are left there. -/
  | malformed (problem : Problem) (left : Nat)
  /-- An integer with too many digits. -/
  | longInteger
  deriving DecidableEq, Repr

/-- A line feed ends a line; the column counts from one. -/
def lineAndColumn (before : Text) : Nat × Nat :=
  (before.count '\n' + 1, (before.reverse.takeWhile (· != '\n')).length + 1)

/-- The words for a problem in a text, with its line, column and offset. -/
def placedMessage (t : Text) (problem : Problem) (left : Nat) : Text :=
  let offset := t.length - left
  let (line, column) := lineAndColumn (t.take offset)
  problem.message.toList ++ ": line ".toList ++ Text.ofNat line ++ " column ".toList ++
    Text.ofNat column ++ " (char ".toList ++ Text.ofNat offset ++ [')']

/-- What a reading function returns: a value and what is left. -/
abbrev Reading (α : Type) := Except ReadFault (α × Text)

/-- Fails where `rest` is left. -/
def failAt (problem : Problem) (rest : Text) : Except ReadFault α :=
  .error (.malformed problem rest.length)

/-- A blank between the tokens of a JSON text. -/
def isSpace (c : Char) : Bool :=
  c == ' ' || c == '\t' || c == '\n' || c == '\r'

/-- Skips blanks. -/
def skipSpace (t : Text) : Text :=
  t.dropWhile isSpace

/-- The value of four hexadecimal digits. -/
def unit? : Text → Option Nat
  | [a, b, c, d] => do
    let a ← Text.hexValue? a
    let b ← Text.hexValue? b
    let c ← Text.hexValue? c
    let d ← Text.hexValue? d
    return ((a * 16 + b) * 16 + c) * 16 + d
  | _ => none

/-- A UTF-16 unit that is the first of two. -/
def isHighUnit (n : Nat) : Bool := 0xD800 ≤ n && n ≤ 0xDBFF

/-- A UTF-16 unit that is the second of two. -/
def isLowUnit (n : Nat) : Bool := 0xDC00 ≤ n && n ≤ 0xDFFF

/-- The character of a code point; a surrogate becomes the replacement character. -/
def charOfCode (n : Nat) : Char :=
  if isHighUnit n || isLowUnit n then Char.ofNat 0xFFFD else Char.ofNat n

/-- A character by its UTF-16 units; the text starts after the `u`, and one character at least must
follow the digits. -/
def readUnits (t : Text) : Reading Char :=
  if (t.drop 4).isEmpty then .error (.malformed .badUnitEscape (t.length + 1))
  else
    match unit? (t.take 4) with
    | none => .error (.malformed .badUnitEscape (t.length + 1))
    | some high =>
      let rest := t.drop 4
      let single := .ok (charOfCode high, rest)
      match rest with
      | '\\' :: 'u' :: second =>
        if isHighUnit high && !(second.drop 4).isEmpty then
          match unit? (second.take 4) with
          | none => .error (.malformed .badUnitEscape (second.length + 1))
          | some low =>
            if isLowUnit low then
              .ok (Char.ofNat (0x10000 + (high - 0xD800) * 0x400 + (low - 0xDC00)), second.drop 4)
            else single
        else single
      | _ => single

/-- The character that a letter stands for after a backslash. -/
def simpleEscape? (c : Char) : Option Char :=
  if c.toNat == 34 || c == '\\' || c == '/' then some c
  else if c == 'b' then some (Char.ofNat 8)
  else if c == 'f' then some (Char.ofNat 12)
  else if c == 'n' then some '\n'
  else if c == 'r' then some '\r'
  else if c == 't' then some '\t'
  else none

/-- The rest of a string; `opened` is what was left after its opening quote, and `reversed` holds
its characters so far, last first. -/
def readStringRest (opened : Text) : Nat → Text → Text → Reading Text
  | 0, _, _ => .error (.malformed .unterminatedString (opened.length + 1))
  | _ + 1, _, [] => .error (.malformed .unterminatedString (opened.length + 1))
  | fuel + 1, reversed, c :: rest =>
    if c.toNat == 34 then .ok (reversed.reverse, rest)
    else if c == '\\' then
      match rest with
      | [] => .error (.malformed .unterminatedString (opened.length + 1))
      | 'u' :: digits =>
        match readUnits digits with
        | .error e => .error e
        | .ok (d, rest) => readStringRest opened fuel (d :: reversed) rest
      | d :: rest =>
        match simpleEscape? d with
        | some e => readStringRest opened fuel (e :: reversed) rest
        | none => .error (.malformed .badEscape (rest.length + 2))
    else if c.toNat < 32 then .error (.malformed .controlCharacter (rest.length + 1))
    else readStringRest opened fuel (c :: reversed) rest

/-- A string; the text starts after the opening quote. -/
def readString (fuel : Nat) (t : Text) : Reading Text :=
  readStringRest t fuel [] t

/-- The digits at the start of a text and what is left, if there are any. -/
def readDigits? (t : Text) : Option (Text × Text) :=
  match t.takeWhile Text.isAsciiDigit with
  | [] => none
  | digits => some (digits, t.dropWhile Text.isAsciiDigit)

/-- The digits before the point: a zero alone, or digits that start with another. -/
def readWhole? : Text → Option (Text × Text)
  | '0' :: rest => some (['0'], rest)
  | t => readDigits? t

/-- A point and the digits after it, if both are there. -/
def readFraction (t : Text) : Text × Text :=
  match t with
  | '.' :: rest => (readDigits? rest).getD ([], t)
  | _ => ([], t)

/-- The exponent and what is left, if there is one. -/
def readExponent (t : Text) : Option (Int × Text) :=
  match t with
  | c :: rest =>
    if c == 'e' || c == 'E' then
      let (negative, digits) :=
        match rest with
        | '-' :: r => (true, r)
        | '+' :: r => (false, r)
        | r => (false, r)
      (readDigits? digits).map fun (digits, rest) =>
        let n : Int := Text.digitsValue digits
        (if negative then -n else n, rest)
    else none
  | [] => none

/-- A number; `start` is the text at its first character, for the place of a fault. -/
def readNumber (start : Text) : Reading Json :=
  let (negative, body) :=
    match start with
    | '-' :: rest => (true, rest)
    | t => (false, t)
  match readWhole? body with
  | none => failAt .expectingValue start
  | some (whole, rest) =>
    let (fraction, rest) := readFraction rest
    let sign := fun x : Float => if negative then -x else x
    match readExponent rest with
    | some (e, rest) =>
      let x := Decimal.toFloat (Text.digitsValue (whole ++ fraction)) (e - fraction.length)
      .ok (.number (.float (sign x)), rest)
    | none =>
      if fraction.isEmpty then
        if whole.length > Number.maxDigits then .error .longInteger
        else
          let n : Int := Text.digitsValue whole
          .ok (int (if negative then -n else n), rest)
      else
        let x := Decimal.toFloat (Text.digitsValue (whole ++ fraction)) (-(fraction.length : Int))
        .ok (.number (.float (sign x)), rest)

/-- A word at the start of the text, with its value. -/
def readWord (t : Text) : Option (Json × Text) :=
  let words : List (String × Json) := [
    ("null", .null), ("true", .bool true), ("false", .bool false),
    ("NaN", .number (.float (0.0 / 0.0))), ("Infinity", .number (.float (1.0 / 0.0))),
    ("-Infinity", .number (.float (-1.0 / 0.0)))]
  words.findSome? fun (word, value) =>
    (Text.dropStart? word.toList t).map fun rest => (value, rest)

mutual

/-- A value. -/
def readValue : Nat → Text → Reading Json
  | 0, t => failAt .expectingValue t
  | _ + 1, [] => failAt .expectingValue []
  | fuel + 1, c :: rest =>
    if c.toNat == 34 then
      match readString (fuel + 1) rest with
      | .ok (t, rest) => .ok (.string t, rest)
      | .error e => .error e
    else if c.toNat == 123 then
      match skipSpace rest with
      | [] => readMembers fuel [] []
      | d :: after =>
        if d.toNat == 125 then .ok (.object [], after) else readMembers fuel [] (d :: after)
    else if c == '[' then
      match skipSpace rest with
      | ']' :: after => .ok (.array [], after)
      | t => readItems fuel [] t
    else
      match readWord (c :: rest) with
      | some found => .ok found
      | none => readNumber (c :: rest)

/-- The items of an array from the next one on; `reversed` holds those before, last first. -/
def readItems : Nat → List Json → Text → Reading Json
  | 0, _, t => failAt .expectingValue t
  | fuel + 1, reversed, t =>
    match readValue fuel t with
    | .error e => .error e
    | .ok (item, rest) =>
      match skipSpace rest with
      | ']' :: after => .ok (.array (item :: reversed).reverse, after)
      | ',' :: after => readItems fuel (item :: reversed) (skipSpace after)
      | other => failAt .expectingComma other

/-- The members of an object from the next one on, after those that are known. -/
def readMembers : Nat → List (Text × Json) → Text → Reading Json
  | 0, _, t => failAt .expectingValue t
  | _ + 1, _, [] => failAt .expectingName []
  | fuel + 1, known, c :: rest =>
    if c.toNat != 34 then failAt .expectingName (c :: rest)
    else
      match readString (fuel + 1) rest with
      | .error e => .error e
      | .ok (name, rest) =>
        match skipSpace rest with
        | ':' :: rest =>
          match readValue fuel (skipSpace rest) with
          | .error e => .error e
          | .ok (value, rest) =>
            let known := setMember name value known
            match skipSpace rest with
            | ',' :: after => readMembers fuel known (skipSpace after)
            | d :: after =>
              if d.toNat == 125 then .ok (.object known, after)
              else failAt .expectingComma (d :: after)
            | [] => failAt .expectingComma []
        | other => failAt .expectingColon other

end

/-- Reads a whole text. -/
def read (t : Text) : Except ReadFault Json :=
  match t with
  | c :: _ =>
    if c.toNat == 0xFEFF then failAt .byteOrderMark t
    else
      match readValue (2 * t.length + 2) (skipSpace t) with
      | .error e => .error e
      | .ok (value, rest) =>
        match skipSpace rest with
        | [] => .ok value
        | other => failAt .extraData other
  | [] => failAt .expectingValue []

end UtilityCss.Json

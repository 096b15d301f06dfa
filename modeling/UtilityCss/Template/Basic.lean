import UtilityCss.Failure.Misuse
import UtilityCss.Text.Digit
import UtilityCss.Text.Quoted

/-!
# Templates — parts and faults

A template is text with fields in braces; a doubled brace stands for itself.  A field has a name,
perhaps a conversion after `!`, and perhaps a layout after `:`, which may hold fields of its own.
`read` cuts a template into its parts.  It stops at the first fault and keeps the parts before it,
since they are filled first.
-/

namespace UtilityCss.Template

/-- A field of a template. -/
structure Field where
  /-- The value that is put in, with what is taken from it. -/
  name : Text
  conversion : Option Char := none
  /-- How the value is laid out. -/
  layout : Text := []
  /-- Whether the layout holds fields. -/
  nested : Bool := false
  deriving DecidableEq, Repr

/-- A part of a template. -/
inductive Part where
  | literal (text : Text)
  | field (field : Field)
  deriving DecidableEq, Repr

/-- Why a template cannot be read or filled. -/
inductive Fault where
  | loneBrace (brace : Char)
  | fieldNotClosed
  | braceInName
  | conversionCut
  | colonExpected
  | layoutNotClosed
  | tooDeep
  | manualThenAutomatic
  | automaticThenManual
  | emptyAccess
  | bracketNotClosed
  | afterBracket
  | numberTooLong
  | unknownConversion (c : Char)
  | precisionMissing
  | bothSeparators
  | separatorRefused (separator kind : Char)
  | layoutRefused (layout : Text)
  | unknownKind (c : Char)
  | spaceRefused
  | signRefused
  | zeroCoercionRefused
  | alternateRefused
  | alignmentRefused
  /-- There is no value of that name. -/
  | missingName (name : Text)
  /-- There is no capture of that number. -/
  | missingCapture (index : Nat)
  /-- A value has no character at that place. -/
  | missingCharacter
  /-- A text is indexed with something that is no number. -/
  | indexNotNumber
  /-- A value has no attribute of that name. -/
  | noAttribute
  /-- The memory does not hold a text of that width. -/
  | tooWide
  /-- What is taken from a value has failed in a way of its own. -/
  | raised (misuse : Option Misuse) (message : Text)
  deriving DecidableEq, Repr

/-- A character in a message: itself if it is a visible ASCII character, else its code point. -/
def shown (limit : Nat) (c : Char) : Text :=
  if 32 < c.toNat && c.toNat < limit then [c] else '\\' :: 'x' :: Text.hex 1 c.toNat

/-- The words for a fault. -/
def Fault.message : Fault → Text
  | .loneBrace brace => "Single '".toList ++ brace :: "' encountered in format string".toList
  | .fieldNotClosed => "expected '\x7d' before end of string".toList
  | .braceInName => "unexpected '\x7b' in field name".toList
  | .conversionCut => "end of string while looking for conversion specifier".toList
  | .colonExpected => "expected ':' after conversion specifier".toList
  | .layoutNotClosed => "unmatched '\x7b' in format spec".toList
  | .tooDeep => "Max string recursion exceeded".toList
  | .manualThenAutomatic =>
    "cannot switch from manual field specification to automatic field numbering".toList
  | .automaticThenManual =>
    "cannot switch from automatic field numbering to manual field specification".toList
  | .emptyAccess => "Empty attribute in format string".toList
  | .bracketNotClosed => "Missing ']' in format string".toList
  | .afterBracket => "Only '.' or '[' may follow ']' in format field specifier".toList
  | .numberTooLong => "Too many decimal digits in format string".toList
  | .unknownConversion c => "Unknown conversion specifier ".toList ++ shown 127 c
  | .precisionMissing => "Format specifier missing precision".toList
  | .bothSeparators => "Cannot specify both ',' and '_'.".toList
  | .separatorRefused separator kind =>
    "Cannot specify '".toList ++ separator :: "' with '".toList ++ shown 128 kind ++ "'.".toList
  | .layoutRefused layout =>
    "Invalid format specifier '".toList ++ layout ++ "' for object of type 'str'".toList
  | .unknownKind c =>
    "Unknown format code '".toList ++ shown 128 c ++ "' for object of type 'str'".toList
  | .spaceRefused => "Space not allowed in string format specifier".toList
  | .signRefused => "Sign not allowed in string format specifier".toList
  | .zeroCoercionRefused =>
    "Negative zero coercion (z) not allowed in string format specifier".toList
  | .alternateRefused => "Alternate form (#) not allowed in string format specifier".toList
  | .alignmentRefused => "'=' alignment not allowed in string format specifier".toList
  | .missingName name => Text.quoted name
  | .missingCapture index =>
    "Replacement index ".toList ++ Text.ofNat index ++
      " out of range for positional args tuple".toList
  | .missingCharacter => "string index out of range".toList
  | .indexNotNumber => "string indices must be integers".toList
  | .noAttribute => "no such attribute".toList
  | .tooWide => []
  | .raised _ message => message

/-- The misuse that a fault is, if it is more than a template that cannot be filled. -/
def Fault.misuse? : Fault → Option Misuse
  | .indexNotNumber => some .wrongType
  | .noAttribute => some .missingAttribute
  | .tooWide => some .engineLimit
  | .raised misuse _ => misuse
  | _ => none

/-! ### Numbers -/

/-- Numbers of templates are not greater. -/
def maxNumber : Nat := 9223372036854775807

/-- The number that the digits at the start of a text make after `n`, how many digits they are, and
the rest. -/
def readNumber : Nat → Nat → Text → Except Fault (Nat × Nat × Text)
  | n, count, [] => .ok (n, count, [])
  | n, count, c :: rest =>
    match Text.decimalValue? c with
    | none => .ok (n, count, c :: rest)
    | some d =>
      if n > (maxNumber - d) / 10 then .error .numberTooLong
      else readNumber (10 * n + d) (count + 1) rest

/-- The number that a text is, if it is one. -/
def readIndex (t : Text) : Except Fault (Option Nat) :=
  match readNumber 0 0 t with
  | .error fault => .error fault
  | .ok (n, count, rest) => .ok (if count == 0 || !rest.isEmpty then none else some n)

/-! ### Parts -/

/-- The opening brace. -/
def isOpening (c : Char) : Bool := c.toNat == 123

/-- The closing brace. -/
def isClosing (c : Char) : Bool := c.toNat == 125

/-- A brace of either kind. -/
def isBrace (c : Char) : Bool := isOpening c || isClosing c

/-- The name of a field, the character that ends it and the rest; `bracket` says that the text is in
a bracket, where nothing but its end has a meaning. -/
def readName (bracket : Bool) : Text → Except Fault (Text × Char × Text)
  | [] => .error .fieldNotClosed
  | c :: rest =>
    if bracket then (readName (c != ']') rest).map fun (name, stop) => (c :: name, stop)
    else if isOpening c then .error .braceInName
    else if isClosing c || c == ':' || c == '!' then .ok ([], c, rest)
    else (readName (c == '[') rest).map fun (name, stop) => (c :: name, stop)

/-- A layout up to the brace that closes its field, and the rest; `depth` counts the braces that are
open in the layout. -/
def readLayout (depth : Nat) : Text → Except Fault (Text × Text)
  | [] => .error .layoutNotClosed
  | c :: rest =>
    if isOpening c then (readLayout (depth + 1) rest).map fun (t, after) => (c :: t, after)
    else if isClosing c then
      match depth with
      | 0 => .ok ([], rest)
      | n + 1 => (readLayout n rest).map fun (t, after) => (c :: t, after)
    else (readLayout depth rest).map fun (t, after) => (c :: t, after)

/-- The layout of a field and the rest. -/
def readFieldLayout (name : Text) (conversion : Option Char) (t : Text) :
    Except Fault (Field × Text) :=
  (readLayout 0 t).map fun (layout, rest) =>
    (⟨name, conversion, layout, layout.any isOpening⟩, rest)

/-- A field after its opening brace, and the rest. -/
def readField (t : Text) : Except Fault (Field × Text) :=
  match readName false t with
  | .error fault => .error fault
  | .ok (name, stop, rest) =>
    if isClosing stop then .ok ({ name }, rest)
    else if stop == ':' then readFieldLayout name none rest
    else
      match rest with
      | [] => .error .conversionCut
      | [_] => .error .layoutNotClosed
      | c :: d :: after =>
        if isClosing d then .ok ({ name, conversion := some c }, after)
        else if d == ':' then readFieldLayout name (some c) after
        else .error .colonExpected

/-- The parts of a template up to the first fault; `fuel` is at least the length of the text. -/
def readParts : Nat → Text → List Part × Option Fault
  | 0, _ => ([], none)
  | fuel + 1, t =>
    let literal := t.takeWhile (!isBrace ·)
    match t.dropWhile (!isBrace ·) with
    | [] => (if literal.isEmpty then [] else [.literal literal], none)
    | [brace] => ([], some (.loneBrace brace))
    | brace :: next :: after =>
      if next == brace then
        let (parts, fault) := readParts fuel after
        (.literal (literal ++ [brace]) :: parts, fault)
      else if isClosing brace then ([], some (.loneBrace brace))
      else
        match readField (next :: after) with
        | .error fault => ([], some fault)
        | .ok (field, rest) =>
          let (parts, fault) := readParts fuel rest
          (.literal literal :: .field field :: parts, fault)

/-- The parts of a template up to the first fault. -/
def read (t : Text) : List Part × Option Fault :=
  readParts (t.length + 1) t

/-- The names of the fields of a template, if it can be read. -/
def fieldNames (t : Text) : Except Fault (List Text) :=
  match read t with
  | (_, some fault) => .error fault
  | (parts, none) =>
    .ok (parts.filterMap fun
      | .field f => some f.name
      | .literal _ => none)

end UtilityCss.Template

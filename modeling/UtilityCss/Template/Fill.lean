import UtilityCss.Template.Layout

/-!
# Templates — filling

A field is filled from the captures, by number or in turn, or from the value that is named `value`.
Numbered and automatic fields do not go together.

What a field begins with is a text.  The rest of its name goes on from there, with attributes behind
dots and with places in brackets; a place in a text is the number of a character.  What the
attributes are, and how it goes on from values that are no texts, is not settled here (`Objects`).
-/

namespace UtilityCss.Template

/-- How the fields of a template are numbered. -/
inductive Numbering where
  | undecided
  | manual
  /-- In turn, from this number on. -/
  | automatic (next : Nat)
  deriving DecidableEq, Repr

/-- What a template is filled with. -/
structure Filling where
  /-- The whole utility and the groups. -/
  captures : List Text
  /-- What is named `value`. -/
  value : Text
  deriving DecidableEq, Repr

/-- The number that an automatic field gets, and the numbering after it. -/
def Numbering.next : Numbering → Except Fault (Nat × Numbering)
  | .undecided => .ok (0, .automatic 1)
  | .automatic n => .ok (n, .automatic (n + 1))
  | .manual => .error .manualThenAutomatic

/-- The numbering after a field with a number. -/
def Numbering.useManual : Numbering → Except Fault Numbering
  | .automatic _ => .error .automaticThenManual
  | _ => .ok .manual

/-- A capture by its number. -/
def Filling.capture (f : Filling) (index : Nat) : Except Fault Text :=
  match f.captures[index]? with
  | some t => .ok t
  | none => .error (.missingCapture index)

/-- The end of the first name in a field. -/
def isAccess (c : Char) : Bool :=
  c == '.' || c == '['

/-- What the first name of a field stands for. -/
def Filling.lookup (f : Filling) (numbering : Numbering) (first : Text) :
    Except Fault (Text × Numbering) := do
  match ← readIndex first with
  | some index =>
    let numbering ← numbering.useManual
    return (← f.capture index, numbering)
  | none =>
    if first.isEmpty then
      let (index, numbering) ← numbering.next
      return (← f.capture index, numbering)
    else if first == "value".toList then return (f.value, numbering)
    else throw (.missingName first)

/-! ### Values -/

/-- What the name of a field stands for: a text, or something that is reached from one. -/
inductive Value (Object : Type) where
  | text (t : Text)
  | object (o : Object)

/-- What is in a bracket: a number or a name. -/
inductive Key where
  | index (i : Nat)
  | name (t : Text)
  deriving DecidableEq, Repr

/-- The conversions. -/
inductive Conversion where
  | quoted
  | plain
  | asciiQuoted
  deriving DecidableEq, Repr

/-- The values that are no texts, and what can be done with them. -/
class Objects where
  Object : Type
  /-- An attribute of a value. -/
  attributeOf : Value Object → Text → Except Fault (Value Object)
  /-- What is at a place of a value that is no text. -/
  itemOf : Object → Key → Except Fault (Value Object)
  /-- The text that a conversion makes. -/
  convert : Conversion → Object → Except Fault Text
  /-- The text under a layout. -/
  format : Object → Text → Except Fault Text

/-- The conversion of a letter. -/
def Conversion.ofLetter? (c : Char) : Option Conversion :=
  if c == 'r' then some .quoted
  else if c == 's' then some .plain
  else if c == 'a' then some .asciiQuoted
  else none

/-- What a conversion makes of a text. -/
def Conversion.ofText : Conversion → Text → Text
  | .quoted, t => Text.quoted t
  | .plain, t => t
  | .asciiQuoted, t => Text.asciiQuoted t

section

variable [Objects]

/-- The value that a bracket asks for. -/
def itemAt (v : Value Objects.Object) (name : Text) : Except Fault (Value Objects.Object) := do
  match ← readIndex name, v with
  | some i, .text t =>
    match t[i]? with
    | some c => return .text [c]
    | none => throw .missingCharacter
  | some i, .object o => Objects.itemOf o (.index i)
  | none, v =>
    if name.isEmpty then throw .emptyAccess
    else
      match v with
      | .text _ => throw .indexNotNumber
      | .object o => Objects.itemOf o (.name name)

/-- What is taken from a value by the rest of a field's name; `fuel` is at least its length. -/
def access : Nat → Value Objects.Object → Text → Except Fault (Value Objects.Object)
  | 0, v, _ => .ok v
  | _ + 1, v, [] => .ok v
  | fuel + 1, v, c :: rest =>
    if c == '.' then
      let name := rest.takeWhile (!isAccess ·)
      if name.isEmpty then .error .emptyAccess
      else
        match Objects.attributeOf v name with
        | .ok found => access fuel found (rest.dropWhile (!isAccess ·))
        | .error fault => .error fault
    else if c == '[' then
      match rest.dropWhile (· != ']') with
      | [] => .error .bracketNotClosed
      | _ :: after =>
        match itemAt v (rest.takeWhile (· != ']')) with
        | .ok found => access fuel found after
        | .error fault => .error fault
    else .error .afterBracket

/-- What a conversion makes of a value. -/
def convert : Option Char → Value Objects.Object → Except Fault (Value Objects.Object)
  | none, v => .ok v
  | some c, v =>
    match Conversion.ofLetter? c, v with
    | none, _ => .error (.unknownConversion c)
    | some conversion, .text t => .ok (.text (conversion.ofText t))
    | some conversion, .object o => (Objects.convert conversion o).map .text

variable [Room]

/-- The text of a value under a layout. -/
def format (layout : Text) : Value Objects.Object → Except Fault Text
  | .text t => Layout.apply layout t
  | .object o => Objects.format o layout

/-- What stands for a field; `expand` fills a layout that holds fields. -/
def fillField (expand : Numbering → Text → Except Fault (Text × Numbering)) (f : Filling)
    (numbering : Numbering) (field : Field) : Except Fault (Text × Numbering) := do
  let (found, numbering) ← f.lookup numbering (field.name.takeWhile (!isAccess ·))
  let taken ← access field.name.length (.text found) (field.name.dropWhile (!isAccess ·))
  let converted ← convert field.conversion taken
  let (layout, numbering) ←
    if field.nested then expand numbering field.layout else pure (field.layout, numbering)
  return (← format layout converted, numbering)

/-- The parts of a template, filled one after the other. -/
def fillParts (expand : Numbering → Text → Except Fault (Text × Numbering)) (f : Filling) :
    Numbering → List Part → Except Fault (Text × Numbering)
  | numbering, [] => .ok ([], numbering)
  | numbering, .literal t :: rest => do
    let (after, numbering) ← fillParts expand f numbering rest
    return (t ++ after, numbering)
  | numbering, .field field :: rest => do
    let (found, numbering) ← fillField expand f numbering field
    let (after, numbering) ← fillParts expand f numbering rest
    return (found ++ after, numbering)

/-- Fills a template whose layouts may hold fields up to a depth. -/
def fillTo (f : Filling) : Nat → Numbering → Text → Except Fault (Text × Numbering)
  | 0, _, _ => .error .tooDeep
  | depth + 1, numbering, template =>
    let (parts, fault?) := read template
    match fillParts (fillTo f depth) f numbering parts with
    | .error fault => .error fault
    | .ok filled =>
      match fault? with
      | some fault => .error fault
      | none => .ok filled

/-- How deep a template and its layouts may be nested. -/
def maxDepth : Nat := 2

/-- Fills a template. -/
def fill (f : Filling) (template : Text) : Except Fault Text :=
  (fillTo f maxDepth .undecided template).map Prod.fst

end

end UtilityCss.Template

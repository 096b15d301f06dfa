import UtilityCss.Platform.Room
import UtilityCss.Template.Basic

/-!
# Templates — layouts

A layout says how a text is put into a template: the fill and alignment, the least width and the
greatest number of characters.  What is for numbers only can be written and is refused.
-/

namespace UtilityCss.Template

/-- A layout taken apart. -/
structure Layout where
  fill : Char := ' '
  align : Char := '<'
  sign : Option Char := none
  zeroCoercion : Bool := false
  alternate : Bool := false
  width : Option Nat := none
  separator : Option Char := none
  precision : Option Nat := none
  /-- The kind of presentation. -/
  kind : Char := 's'
  deriving DecidableEq, Repr

namespace Layout

/-- A character that chooses an alignment. -/
def isAlignment (c : Char) : Bool :=
  c == '<' || c == '>' || c == '=' || c == '^'

/-- A character that chooses a sign. -/
def isSign (c : Char) : Bool :=
  c == ' ' || c == '+' || c == '-'

/-- The fill and the alignment at the start of a layout, and the rest. -/
def takeAlignment : Text → Option Char × Option Char × Text
  | c :: d :: rest =>
    if isAlignment d then (some c, some d, rest)
    else if isAlignment c then (none, some c, d :: rest)
    else (none, none, c :: d :: rest)
  | [c] => if isAlignment c then (none, some c, []) else (none, none, [c])
  | [] => (none, none, [])

/-- Takes a character of a kind off the start. -/
def takeIf (kind : Char → Bool) : Text → Option Char × Text
  | c :: rest => if kind c then (some c, rest) else (none, c :: rest)
  | [] => (none, [])

/-- Takes a number off the start, if there is one. -/
def takeNumber (t : Text) : Except Fault (Option Nat × Text) :=
  match readNumber 0 0 t with
  | .error fault => .error fault
  | .ok (n, count, rest) => .ok (if count == 0 then none else some n, rest)

/-- Takes the separator of thousands off the start, which is a comma or an underscore. -/
def takeSeparator (t : Text) : Except Fault (Option Char × Text) :=
  let (comma, rest) := takeIf (· == ',') t
  let (underscore, rest) := takeIf (· == '_') rest
  match comma, underscore with
  | some _, some _ => .error .bothSeparators
  | none, some _ =>
    match rest with
    | ',' :: _ => .error .bothSeparators
    | _ => .ok (underscore, rest)
  | _, _ => .ok (comma, rest)

/-- Takes the precision after a point off the start. -/
def takePrecision : Text → Except Fault (Option Nat × Text)
  | '.' :: rest =>
    match takeNumber rest with
    | .error fault => .error fault
    | .ok (none, _) => .error .precisionMissing
    | .ok (some n, after) => .ok (some n, after)
  | t => .ok (none, t)

/-- A kind of presentation that takes the separator. -/
def takesSeparator (separator kind : Char) : Bool :=
  "defgEG%F".toList.contains kind || kind.toNat == 0 ||
    (separator == '_' && "boxX".toList.contains kind)

/-- Reads a layout. -/
def read (t : Text) : Except Fault Layout := do
  let (fill, align, rest) := takeAlignment t
  let (sign, rest) := takeIf isSign rest
  let (coercion, rest) := takeIf (· == 'z') rest
  let (alternate, rest) := takeIf (· == '#') rest
  let (zero, rest) := if fill.isSome then (none, rest) else takeIf (· == '0') rest
  let (width, rest) ← takeNumber rest
  let (separator, rest) ← takeSeparator rest
  let (precision, rest) ← takePrecision rest
  let kind ← match rest with
    | [] => pure 's'
    | [c] => pure c
    | _ => throw (.layoutRefused t)
  match separator with
  | some s => if takesSeparator s kind then pure () else throw (.separatorRefused s kind)
  | none => pure ()
  return ⟨(fill.or zero).getD ' ', align.getD '<', sign, coercion.isSome, alternate.isSome, width,
    separator, precision, kind⟩

/-- What a layout asks for that a text cannot have. -/
def refused? (l : Layout) : Option Fault :=
  if l.kind != 's' then some (.unknownKind l.kind)
  else if l.sign == some ' ' then some .spaceRefused
  else if l.sign.isSome then some .signRefused
  else if l.zeroCoercion then some .zeroCoercionRefused
  else if l.alternate then some .alternateRefused
  else if l.align == '=' then some .alignmentRefused
  else none

/-- A text cut to the precision. -/
def cut (l : Layout) (t : Text) : Text :=
  match l.precision with
  | some n => t.take n
  | none => t

/-- Lays a text out: cuts it to the precision and fills it up to the width. -/
def place (l : Layout) (t : Text) : Text :=
  let missing := l.width.getD 0 - (l.cut t).length
  let left := if l.align == '>' then missing else if l.align == '^' then missing / 2 else 0
  List.replicate left l.fill ++ l.cut t ++ List.replicate (missing - left) l.fill

/-- Whether the memory holds a text when it is laid out. -/
def fits [Room] (l : Layout) (t : Text) : Bool :=
  l.width.getD 0 ≤ (l.cut t).length || Room.holdsText (l.width.getD 0)

/-- Lays a text out as it is written; an empty layout leaves it as it is. -/
def apply [Room] (layout t : Text) : Except Fault Text :=
  if layout.isEmpty then .ok t
  else
    match read layout with
    | .error fault => .error fault
    | .ok l =>
      match l.refused? with
      | some fault => .error fault
      | none => if l.fits t then .ok (l.place t) else .error .tooWide

end Layout

end UtilityCss.Template

import UtilityCss.Digest.Sha256
import UtilityCss.Json.Table
import UtilityCss.Json.Writer

/-!
# Themes — fingerprints

A theme is a JSON object that maps scales to their values.  Its fingerprint is the start of the
digest of its canonical text, so it does not depend on the order of members.

A theme that is in use is a table.  What has been compiled under it is marked with the fingerprint
of the theme's text, in which the order of members shows.
-/

namespace UtilityCss

/-- A theme in use. -/
abbrev Theme := Table

namespace Theme

/-- The number of hexadecimal digits of a fingerprint. -/
def fingerprintLength : Nat := 16

/-- The start of the digest of a text in ASCII. -/
def fingerprintOf (canonical : Text) : Text :=
  (Digest.sha256 (canonical.map fun c => UInt8.ofNat c.toNat)).take fingerprintLength

/-- The text whose digest makes the fingerprint; a theme that does not count as true is empty. -/
def canonical (theme : Json) : Text :=
  if theme.isTruthy then theme.canonical else (Json.object []).canonical

/-- The fingerprint of a theme. -/
def fingerprint (theme : Json) : Text :=
  fingerprintOf (canonical theme)

/-- The name that a key has in a JSON text. -/
def keyName : Json → Text
  | .string t => t
  | j => j.canonical

/-- The number that a key is ordered by. -/
def keyNumber? : Json → Option Number
  | .number n => some n
  | .bool b => some (.int (if b then 1 else 0))
  | _ => none

/-- The entries in the order of their keys, for keys that are not all names: numbers are in order,
and a single key is too. -/
def ordered? (t : Theme) : Option Theme :=
  if t.length ≤ 1 then some t
  else if t.all (fun e => (keyNumber? e.1).isSome) then
    some (t.mergeSort fun a b =>
      ((keyNumber? a.1).getD (.int 0)).le ((keyNumber? b.1).getD (.int 0)))
  else none

/-- The fingerprint of a theme in use by its canonical text.  Keys of different kinds have no
order. -/
def tableFingerprint (t : Theme) : Except Misuse Text :=
  match t.members?, ordered? t with
  | some members, _ => .ok (fingerprint (.object members))
  | none, some entries =>
    let layout := { Json.Layout.canonical with sorted := false }
    .ok (fingerprintOf (Json.writeObject layout
      (entries.map fun (k, v) => (keyName k, v.canonical))))
  | none, none => .error .wrongType

/-- The mark of a theme in use: the fingerprint of its text, or that of the empty theme. -/
def mark (t : Theme) : Text :=
  if t.isEmpty then fingerprintOf (Json.object []).canonical
  else fingerprintOf (Json.writeString t.inspect)

end Theme

end UtilityCss

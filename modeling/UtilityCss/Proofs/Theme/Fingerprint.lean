import UtilityCss.Proofs.Json.Canonical
import UtilityCss.Proofs.Json.Raw
import UtilityCss.Theme.Basic

/-!
# Themes — what a fingerprint tells

The digest is taken of the canonical text of a theme, and this text leaves the order of members out
and nothing else.  So the order does not show in the fingerprint, and themes that differ in anything
else have different fingerprints unless the digests of their texts start alike (`Collide`).

* `fingerprintOf_eq_iff`: fingerprints of texts in ASCII are equal for equal texts and by collision
  only.
* `fingerprint_eq_iff_alike`: the texts of two tidy themes are equal exactly if the themes are
  alike, and their fingerprints are equal for alike themes and by collision only.
* `halves_written_alike`: this is so for strings that are texts.  A raw string may hold the two
  halves of a surrogate pair, which are written like the character that the pair stands for.
-/

namespace UtilityCss.Theme

open Json (Tidy Alike IsInteger)

/-- Two messages that have one fingerprint: their digests start with the same digits. -/
def Collide (message message' : List UInt8) : Prop :=
  message ≠ message' ∧
    (Digest.sha256 message).take fingerprintLength =
      (Digest.sha256 message').take fingerprintLength

theorem fingerprintOf_eq (t : Text) :
    fingerprintOf t = (Digest.sha256 t.bytes).take fingerprintLength :=
  rfl

/-- Fingerprints of texts in ASCII are equal for equal texts and **by collision only**. -/
theorem fingerprintOf_eq_iff {s t : Text} (hs : s.IsAscii) (ht : t.IsAscii) :
    fingerprintOf s = fingerprintOf t ↔ s = t ∨ Collide s.bytes t.bytes := by
  rw [fingerprintOf_eq, fingerprintOf_eq]
  constructor
  · intro h
    by_cases heq : s = t
    · exact .inl heq
    · exact .inr ⟨fun hbytes => heq (Text.bytes_inj hs ht hbytes), h⟩
  · rintro (rfl | hcollide)
    · rfl
    · exact hcollide.2

/-- The text of an object is its canonical text, also if it is empty. -/
theorem canonical_object (members : List (Text × Json)) :
    canonical (.object members) = (Json.object members).canonical := by
  rw [canonical, Json.isTruthy]
  cases members with
  | nil => rfl
  | cons m members => exact if_pos rfl

theorem isAscii_canonical {members : List (Text × Json)}
    (h : Tidy IsInteger (.object members)) : (canonical (.object members)).IsAscii := by
  rw [canonical_object]
  exact Json.isAscii_canonical h

/-- The text that is hashed for a theme **is canonical**, and fingerprints are equal for themes that
are alike and by collision only. -/
theorem fingerprint_eq_iff_alike {members members' : List (Text × Json)}
    (h : Tidy IsInteger (.object members)) (h' : Tidy IsInteger (.object members')) :
    (canonical (.object members) = canonical (.object members') ↔
      Alike (.object members) (.object members')) ∧
    (fingerprint (.object members) = fingerprint (.object members') ↔
      Alike (.object members) (.object members') ∨
        Collide (canonical (.object members)).bytes (canonical (.object members')).bytes) := by
  have htext : canonical (.object members) = canonical (.object members') ↔
      Alike (.object members) (.object members') := by
    rw [canonical_object, canonical_object]
    exact Json.canonical_eq_iff h h'
  refine ⟨htext, ?_⟩
  rw [fingerprint, fingerprint, ← htext]
  exact fingerprintOf_eq_iff (isAscii_canonical h) (isAscii_canonical h')

/-- Breakpoints. -/
def screens : Json :=
  .array [.int 640, .null, .bool true]

/-- A theme with an object in it. -/
def nested : List (Text × Json) :=
  [("screens".toList, screens),
    ("colors".toList, .object [("red".toList, .str "#f00"), ("\u00e9".toList, .str "\"\\")])]

/-- The theme with its members the other way round, at both depths. -/
def nestedTurned : List (Text × Json) :=
  [("colors".toList, .object [("\u00e9".toList, .str "\"\\"), ("red".toList, .str "#f00")]),
    ("screens".toList, screens)]

theorem fingerprint_eq_nested :
    Tidy IsInteger (.object nested) ∧ Tidy IsInteger (.object nestedTurned) ∧
      fingerprint (.object nested) = fingerprint (.object nestedTurned) := by
  have hscreens : Tidy IsInteger screens := .array <| by
    simp only [List.forall_mem_cons]
    exact ⟨.number ⟨640, rfl⟩, .null, .bool true, List.forall_mem_nil _⟩
  have hnested : Tidy IsInteger (.object nested) :=
    .pair (by decide) hscreens (.pair (by decide) (.string _) (.string _))
  have hturned : Tidy IsInteger (.object nestedTurned) :=
    .pair (by decide) (.pair (by decide) (.string _) (.string _)) hscreens
  have hsame : Alike screens screens := .array rfl <| by
    simp only [List.zip_cons_cons, List.forall_mem_cons]
    exact ⟨.number _, .null, .bool true, List.forall_mem_nil _⟩
  have halike : Alike (.object nested) (.object nestedTurned) :=
    .swap hsame (.swap (.string _) (.string _))
  exact ⟨hnested, hturned, (fingerprint_eq_iff_alike hnested hturned).2.2 (.inl halike)⟩

/-- A raw theme of one string. -/
def rawTheme (s : Json.Points) : Json.Raw :=
  .object [(.ofText "a".toList, .string s)]

/-- The halves of a pair and the character that the pair stands for are different strings.  Themes
of them have one text, and so one fingerprint without a collision. -/
theorem halves_written_alike :
    (rawTheme [0xD83D, 0xDE00]).canonical = (rawTheme [0x1F600]).canonical ∧
      fingerprintOf (rawTheme [0xD83D, 0xDE00]).canonical =
        fingerprintOf (rawTheme [0x1F600]).canonical ∧
      ¬ Json.Raw.Alike (rawTheme [0xD83D, 0xDE00]) (rawTheme [0x1F600]) := by
  have htext : (rawTheme [0xD83D, 0xDE00]).canonical = (rawTheme [0x1F600]).canonical := by
    decide +kernel
  refine ⟨htext, congrArg fingerprintOf htext, fun halike => ?_⟩
  have hvalues := halike.of_single
  generalize hs : ([0xD83D, 0xDE00] : Json.Points) = s at hvalues
  cases hvalues
  cases hs

end UtilityCss.Theme

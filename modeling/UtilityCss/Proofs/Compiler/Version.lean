import UtilityCss.Compiler.Basic
import UtilityCss.Proofs.Number.Digits

/-!
# Compilers — versions

The version under which a style sheet is kept is the mark of the theme and the count of changes of
the rules, with a point between them.  A mark has sixteen digits (`length_mark`), so the two parts
can be told from each other: one version stands for one mark and one count (`stamp_inj`).
-/

namespace UtilityCss

theorem Text.le_length_hex (width n : Nat) : width ≤ (Text.hex width n).length := by
  simp only [Text.hex, List.length_append, List.length_replicate]
  omega

/-- A digest has eight words of eight digits. -/
theorem Digest.le_length_sha256 (message : List UInt8) : 64 ≤ (Digest.sha256 message).length := by
  have hword := fun w : UInt32 => Text.le_length_hex 8 w.toNat
  simp only [sha256, Words.toList, List.flatMap_cons, List.flatMap_nil, List.length_append]
  generalize mixAll _ _ _ = digest
  have ha := hword digest.a
  have hb := hword digest.b
  have hc := hword digest.c
  have hd := hword digest.d
  have he := hword digest.e
  have hf := hword digest.f
  have hg := hword digest.g
  have hh := hword digest.h
  omega

namespace Theme

theorem length_fingerprintOf (canonical : Text) :
    (fingerprintOf canonical).length = fingerprintLength := by
  have := Digest.le_length_sha256 (canonical.map fun c => UInt8.ofNat c.toNat)
  simp only [fingerprintOf, List.length_take, fingerprintLength]
  omega

theorem length_mark (theme : Theme) : theme.mark.length = fingerprintLength := by
  rw [mark]
  split <;> exact length_fingerprintOf _

end Theme

namespace Compiler

/-- The version of a theme and a count of changes. -/
def stamp (theme : Theme) (generation : Nat) : Text :=
  theme.mark ++ '.' :: Text.ofNat generation

theorem version_eq_stamp (c : Compiler) : c.version = stamp c.theme c.generation :=
  rfl

/-- **Versions tell themes and rules apart**, as far as marks tell themes apart. -/
theorem stamp_inj {theme theme' : Theme} {generation generation' : Nat}
    (h : stamp theme generation = stamp theme' generation') :
    theme.mark = theme'.mark ∧ generation = generation' := by
  obtain ⟨hmark, hrest⟩ :=
    List.append_inj h ((Theme.length_mark theme).trans (Theme.length_mark theme').symm)
  exact ⟨hmark, Text.ofNat_inj (List.cons.inj hrest).2⟩

end Compiler

end UtilityCss

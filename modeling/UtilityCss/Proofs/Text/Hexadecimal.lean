import Mathlib.Algebra.Group.Nat.Defs
import UtilityCss.Text.Basic

/-!
# Text — hexadecimal digits

The digits that are written for a number say it (`hexNumber_hex`), and as many of them are written
as asked for if the number has no more (`length_hex`).
-/

namespace UtilityCss.Text

/-- The number that hexadecimal digits stand for. -/
def hexNumber (digits : Text) : Nat :=
  digits.foldl (fun n c => 16 * n + (hexValue? c).getD 0) 0

/-- Each digit is read as its value. -/
theorem hexValue?_digitChar : ∀ d < 16, hexValue? (Nat.digitChar d) = some d := by
  decide

theorem hexNumber_concat (digits : Text) (c : Char) :
    hexNumber (digits ++ [c]) = 16 * hexNumber digits + (hexValue? c).getD 0 := by
  rw [hexNumber, List.foldl_append]
  rfl

/-- The digits of a number are read as the number. -/
theorem hexNumber_toDigits (n : Nat) : hexNumber (Nat.toDigits 16 n) = n := by
  induction n using Nat.strongRecOn with
  | ind n ih =>
      by_cases hsmall : n < 16
      · rw [Nat.toDigits_of_lt_base hsmall]
        simp [hexNumber, hexValue?_digitChar n hsmall]
      · have hdigit := hexValue?_digitChar (n % 16) (Nat.mod_lt n (by decide))
        rw [Nat.toDigits_of_base_le (by decide) (by omega), hexNumber_concat, ih _ (by omega),
          hdigit, Option.getD_some]
        exact Nat.div_add_mod n 16

theorem hexNumber_zeros (count : Nat) (digits : Text) :
    hexNumber (List.replicate count '0' ++ digits) = hexNumber digits := by
  induction count with
  | zero => rfl
  | succ count ih =>
      rw [← ih, List.replicate_succ, List.cons_append]
      rfl

/-- The digits of a number say it. -/
theorem hexNumber_hex (width n : Nat) : hexNumber (hex width n) = n := by
  rw [hex, hexNumber_zeros, hexNumber_toDigits]

/-- A number that fits into its width is written with just as many digits. -/
theorem length_hex {width n : Nat} (hpos : 0 < width) (h : n < 16 ^ width) :
    (hex width n).length = width := by
  have hle := (Nat.length_toDigits_le_iff (by decide) hpos).2 h
  rw [hex, List.length_append, List.length_replicate]
  omega

theorem isSome_hexValue?_of_mem_toDigits {n : Nat} {c : Char} (h : c ∈ Nat.toDigits 16 n) :
    (hexValue? c).isSome := by
  induction n using Nat.strongRecOn with
  | ind n ih =>
      have hdigit {d : Nat} (hd : d < 16) (hc : c ∈ [Nat.digitChar d]) : (hexValue? c).isSome := by
        rw [List.mem_singleton.1 hc, hexValue?_digitChar d hd]
        rfl
      by_cases hsmall : n < 16
      · rw [Nat.toDigits_of_lt_base hsmall] at h
        exact hdigit hsmall h
      · rw [Nat.toDigits_of_base_le (by decide) (by omega), List.mem_append] at h
        exact h.elim (ih _ (by omega)) (hdigit (Nat.mod_lt n (by decide)))

/-- Only hexadecimal digits are written for a number. -/
theorem isSome_hexValue?_of_mem_hex {width n : Nat} {c : Char} (h : c ∈ hex width n) :
    (hexValue? c).isSome := by
  rw [hex] at h
  obtain hzero | hdigit := List.mem_append.1 h
  · rw [List.eq_of_mem_replicate hzero]
    rfl
  · exact isSome_hexValue?_of_mem_toDigits hdigit

end UtilityCss.Text

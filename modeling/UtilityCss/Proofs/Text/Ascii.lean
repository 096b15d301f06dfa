import UtilityCss.Proofs.Text.Hexadecimal

/-!
# Text — texts in ASCII

Parts in ASCII make texts in ASCII.  Such a text is told by its bytes (`bytes_inj`).
-/

namespace UtilityCss.Text

/-- The characters are in ASCII. -/
def IsAscii (t : Text) : Prop :=
  ∀ c ∈ t, c.toNat < 128

instance (t : Text) : Decidable (IsAscii t) :=
  List.decidableBAll (fun c : Char => c.toNat < 128) t

/-- The bytes of a text in ASCII. -/
def bytes (t : Text) : List UInt8 :=
  t.map fun c => UInt8.ofNat c.toNat

variable {s t : Text}

theorem isAscii_cons {c : Char} : IsAscii (c :: t) ↔ c.toNat < 128 ∧ IsAscii t :=
  List.forall_mem_cons

theorem isAscii_append : IsAscii (s ++ t) ↔ IsAscii s ∧ IsAscii t :=
  List.forall_mem_append

/-- Texts are joined within the range of ASCII. -/
theorem isAscii_join {separator : Text} {ts : List Text} (hseparator : IsAscii separator)
    (h : ∀ t ∈ ts, IsAscii t) : IsAscii (join separator ts) := by
  fun_induction join separator ts with
  | case1 => exact List.forall_mem_nil _
  | case2 t => exact h t List.mem_cons_self
  | case3 t u rest ih =>
      rw [List.forall_mem_cons] at h
      rw [isAscii_append, isAscii_append]
      exact ⟨⟨h.1, hseparator⟩, ih h.2⟩

theorem isAscii_hex (width n : Nat) : IsAscii (hex width n) := by
  intro c hc
  refine Nat.lt_of_not_le fun hlarge => ?_
  have hnot (d : Char) (hd : d.toNat < 128) : ¬ c ≤ d := by
    simp only [Char.le_def, UInt32.le_iff_toNat_le]
    exact fun hle => Nat.not_lt.2 hlarge (Nat.lt_of_le_of_lt hle hd)
  have hdigit := isSome_hexValue?_of_mem_hex hc
  simp [hexValue?, hnot '9' (by decide), hnot 'f' (by decide), hnot 'F' (by decide)] at hdigit

/-- A character of this range is told by its byte. -/
theorem byte_inj {c d : Char} (hc : c.toNat < 128) (hd : d.toNat < 128)
    (h : UInt8.ofNat c.toNat = UInt8.ofNat d.toNat) : c = d := by
  have hcode := congrArg UInt8.toNat h
  rw [UInt8.toNat_ofNat', UInt8.toNat_ofNat', Nat.mod_eq_of_lt (by omega),
    Nat.mod_eq_of_lt (by omega)] at hcode
  exact Char.toNat_inj.1 hcode

/-- Texts in ASCII are told by their bytes. -/
theorem bytes_inj (hs : IsAscii s) (ht : IsAscii t) (h : s.bytes = t.bytes) : s = t := by
  induction s generalizing t with
  | nil => exact (List.map_eq_nil_iff.1 h.symm).symm
  | cons c s ih =>
      cases t with
      | nil => cases h
      | cons d t =>
          rw [isAscii_cons] at hs ht
          rw [bytes, bytes, List.map_cons, List.map_cons, List.cons.injEq] at h
          rw [byte_inj hs.1 ht.1 h.1, ih hs.2 ht.2 h.2]

end UtilityCss.Text

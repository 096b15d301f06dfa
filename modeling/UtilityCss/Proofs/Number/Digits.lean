import Mathlib.Algebra.Group.Nat.Defs
import Mathlib.Data.List.TakeWhile
import UtilityCss.Number.Reader

/-!
# Numbers — reading digits

A text of digits in the wide sense is read as an integer if and only if its digits are decimal and
not too many (`readInt?_isSome_iff`).  What is done for padding, signs and underscores leaves such a
text as it is, so ASCII digits are read as what they say (`readInt?_of_ascii`).  Any other text that
is read as an integer is made of what these leave out and decimal digits (`of_mem_readInt?`).
-/

namespace UtilityCss

namespace Text

variable {c : Char}

/-- Different numbers have different texts. -/
theorem ofNat_inj {m n : Nat} (h : ofNat m = ofNat n) : m = n := by
  have h' := congrArg (Nat.ofDigitChars 10 · 0) h
  simpa only [ofNat, Nat.ofDigitChars_ten_toDigits] using h'

theorem isAsciiDigit_iff : isAsciiDigit c ↔ 48 ≤ c.toNat ∧ c.toNat ≤ 57 := by
  simp [isAsciiDigit, Char.le_def, UInt32.le_iff_toNat_le]

/-- A decimal digit has a value below ten. -/
theorem decimalValue?_lt {d : Nat} (h : decimalValue? c = some d) : d < 10 := by
  rw [decimalValue?] at h
  split at h
  · split at h
    next hrange =>
        have hdigit : isAsciiDigit c := hrange
        rw [isAsciiDigit_iff] at hdigit
        cases h
        have hzero : '0'.toNat = 48 := rfl
        omega
    · cases h
  · dsimp only at h
    split at h
    · cases h
    · split at h
      · cases h
        assumption
      · cases h

/-- A digit in the wide sense that is not decimal is not in ASCII. -/
theorem toNat_of_not_isDecimal (h : isDigit c) (hdecimal : ¬ isDecimal c) : 128 ≤ c.toNat := by
  by_contra hsmall
  have hlt : c.toNat < 128 := by omega
  rw [isDigit, if_pos hlt] at h
  rw [isAsciiDigit] at h
  apply hdecimal
  rw [isDecimal, decimalValue?, if_pos hlt, if_pos h]
  rfl

/-- Among the characters of ASCII, the digits are the ten. -/
theorem isDigit_iff_of_ascii (h : c.toNat < 128) : isDigit c ↔ isAsciiDigit c := by
  rw [isDigit, if_pos h]

theorem isDigit_of_isAsciiDigit (h : isAsciiDigit c) : isDigit c := by
  have hrange := isAsciiDigit_iff.1 h
  exact (isDigit_iff_of_ascii (by omega)).2 h

theorem decimalValue?_of_isAsciiDigit (h : isAsciiDigit c) :
    decimalValue? c = some (c.toNat - 48) := by
  have hrange := isAsciiDigit_iff.1 h
  rw [isAsciiDigit] at h
  rw [decimalValue?, if_pos (by omega), if_pos h]
  rfl

/-- The blanks outside of ASCII. -/
def wideBlanks : List Nat :=
  [0x85, 0xA0, 0x1680, 0x2000, 0x2001, 0x2002, 0x2003, 0x2004, 0x2005, 0x2006, 0x2007, 0x2008,
    0x2009, 0x200A, 0x2028, 0x2029, 0x202F, 0x205F, 0x3000]

theorem isDigit_of_mem_wideBlanks : ∀ n ∈ wideBlanks, isDigit (Char.ofNat n) = false := by
  decide +kernel

/-- A digit is no blank. -/
theorem isBlank_of_isDigit (h : isDigit c) : isBlank c = false := by
  by_contra hblank
  simp only [isBlank, Bool.not_eq_false, Bool.or_eq_true, Bool.and_eq_true, decide_eq_true_eq,
    beq_iff_eq] at hblank
  by_cases hsmall : c.toNat < 128
  · rw [isDigit, if_pos hsmall, isAsciiDigit_iff] at h
    omega
  · have hmem : c.toNat ∈ wideBlanks := by
      simp only [wideBlanks, List.mem_cons, List.not_mem_nil, or_false]
      omega
    have hnot := isDigit_of_mem_wideBlanks c.toNat hmem
    rw [Char.ofNat_toNat, h] at hnot
    cases hnot

end Text

namespace Number

variable {t : Text}

theorem isBlank_of_isPadding {c : Char} (h : isPadding c) : Text.isBlank c := by
  rw [isPadding] at h
  split at h
  · simp [Text.isAsciiBlank] at h
    simp [Text.isBlank]
    omega
  · exact h

/-- A text of digits has no padding, since no digit is a blank. -/
theorem unpad_of_digits (h : t.all Text.isDigit) : unpad t = t := by
  have hdrop {u : Text} (hu : ∀ c ∈ u, Text.isDigit c) : u.dropWhile isPadding = u := by
    rw [List.dropWhile_eq_self_iff]
    intro hpos hpadding
    have hblank := isBlank_of_isPadding hpadding
    rw [Text.isBlank_of_isDigit (hu _ (List.getElem_mem hpos))] at hblank
    cases hblank
  rw [List.all_eq_true] at h
  have hreverse : ∀ c ∈ t.reverse, Text.isDigit c := fun c hc => h c (List.mem_reverse.1 hc)
  rw [unpad, hdrop h, hdrop hreverse, List.reverse_reverse]

/-- A digit as it is read: a decimal one in ASCII, another one as it is. -/
def plainDigit (c : Char) : Char :=
  match Text.decimalValue? c with
  | some d => Char.ofNat (48 + d)
  | none => c

theorem plainDigits_eq (t : Text) : plainDigits t = t.map plainDigit := rfl

/-- A digit is written as one of the ten if it has a decimal value, and stays outside of ASCII if
not. -/
theorem plainDigit_cases {c : Char} (h : Text.isDigit c) :
    (Text.isDecimal c ∧ Text.isAsciiDigit (plainDigit c)) ∨
    (¬ Text.isDecimal c ∧ 128 ≤ (plainDigit c).toNat) := by
  cases hvalue : Text.decimalValue? c with
  | none =>
      have hdecimal : ¬ Text.isDecimal c := by simp [Text.isDecimal, hvalue]
      refine .inr ⟨hdecimal, ?_⟩
      rw [plainDigit, hvalue]
      exact Text.toNat_of_not_isDecimal h hdecimal
  | some d =>
      refine .inl ⟨by simp [Text.isDecimal, hvalue], ?_⟩
      rw [plainDigit, hvalue, Text.isAsciiDigit_iff]
      have hd := Text.decimalValue?_lt hvalue
      have hcode : (Char.ofNat (48 + d)).toNat = 48 + d := by
        rw [Char.ofNat, dif_pos (.inl (by omega))]
        rfl
      simp only [hcode]
      omega

theorem isAsciiDigit_plainDigit_iff {c : Char} (h : Text.isDigit c) :
    Text.isAsciiDigit (plainDigit c) ↔ Text.isDecimal c := by
  obtain ⟨hdecimal, hascii⟩ | ⟨hdecimal, hwide⟩ := plainDigit_cases h
  · exact iff_of_true hascii hdecimal
  · rw [Text.isAsciiDigit_iff]
    exact iff_of_false (by omega) hdecimal

/-- A digit as it is read is no sign and no underscore. -/
theorem plainDigit_ne {c d : Char} (h : Text.isDigit c) (hd : d.toNat < 48 ∨ d.toNat = 95) :
    plainDigit c ≠ d := by
  rintro rfl
  obtain ⟨-, hascii⟩ | ⟨-, hwide⟩ := plainDigit_cases h
  · rw [Text.isAsciiDigit_iff] at hascii
    omega
  · omega

theorem dropUnderscores?_of_not_mem (h : '_' ∉ t) : dropUnderscores? t = some t := by
  fun_induction dropUnderscores? t with
  | case1 => rfl
  | case2 c d rest hdigits ih => simp at h
  | case3 c d rest hdigits => simp at h
  | case4 c rest hother hc => simp_all
  | case5 c rest hother hc ih =>
      rw [List.mem_cons, not_or] at h
      rw [ih h.2]
      rfl

theorem splitSign_of_ne {c : Char} (hminus : c ≠ '-') (hplus : c ≠ '+') :
    splitSign (c :: t) = (false, c :: t) := by
  simp [splitSign, hminus, hplus]

/-- Digits are read as an integer if they are decimal and not too many. -/
theorem readInt?_isSome_iff (hne : t ≠ []) (h : t.all Text.isDigit) :
    (readInt? t).isSome ↔ t.all Text.isDecimal ∧ t.length ≤ maxDigits := by
  have hdigit : ∀ c ∈ t, Text.isDigit c := List.all_eq_true.1 h
  have hunderscore : '_' ∉ plainDigits t := by
    rw [plainDigits_eq, List.mem_map]
    rintro ⟨c, hc, hplain⟩
    exact plainDigit_ne (hdigit c hc) (.inr rfl) hplain
  have hsign : splitSign (plainDigits t) = (false, plainDigits t) := by
    cases t with
    | nil => rfl
    | cons c t =>
        have hc := hdigit c List.mem_cons_self
        exact splitSign_of_ne (plainDigit_ne hc (.inl (by decide)))
          (plainDigit_ne hc (.inl (by decide)))
  have hall : (plainDigits t).all Text.isAsciiDigit ↔ t.all Text.isDecimal := by
    rw [plainDigits_eq, List.all_map, List.all_eq_true, List.all_eq_true]
    exact forall₂_congr fun c hc => isAsciiDigit_plainDigit_iff (hdigit c hc)
  have hlength : (plainDigits t).length = t.length := List.length_map ..
  have hempty : (plainDigits t).isEmpty = false := by
    simpa [plainDigits_eq] using hne
  rw [readInt?, unpad_of_digits h, hsign]
  simp only [dropUnderscores?_of_not_mem hunderscore, hempty, hlength, Bool.false_or]
  rw [← hall]
  split
  next hrefused =>
      refine iff_of_false (by simp) ?_
      simp only [Bool.or_eq_true, Bool.not_eq_true', decide_eq_true_eq] at hrefused
      rintro ⟨hascii, hle⟩
      obtain h | h := hrefused
      · simp [hascii] at h
      · omega
  next hread =>
      simp only [Bool.or_eq_true, Bool.not_eq_true', decide_eq_true_eq, not_or] at hread
      exact iff_of_true rfl ⟨by simpa using hread.1, by omega⟩

/-- Nothing but underscores is dropped between digits. -/
theorem mem_dropUnderscores? {digits : Text} (h : dropUnderscores? t = some digits) {c : Char}
    (hc : c ∈ t) (hne : c ≠ '_') : c ∈ digits := by
  fun_induction dropUnderscores? t generalizing digits with
  | case1 => cases hc
  | case2 d e rest hdigits ih =>
      obtain ⟨more, hmore, rfl⟩ := Option.map_eq_some_iff.1 h
      simp only [List.mem_cons] at hc ih ⊢
      rcases hc with rfl | rfl | hc
      · exact .inl rfl
      · exact absurd rfl hne
      · exact .inr (ih hmore hc)
  | case3 => cases h
  | case4 => cases h
  | case5 d rest hother hd ih =>
      obtain ⟨more, hmore, rfl⟩ := Option.map_eq_some_iff.1 h
      rcases List.mem_cons.1 hc with rfl | hc
      · exact List.mem_cons_self
      · exact List.mem_cons_of_mem _ (ih hmore hc)

theorem mem_dropWhile {p : Char → Bool} {c : Char} (hc : c ∈ t) (hp : ¬ p c) :
    c ∈ t.dropWhile p := by
  rw [← List.takeWhile_append_dropWhile (p := p) (l := t), List.mem_append] at hc
  exact hc.resolve_left fun htake => hp (List.mem_takeWhile_imp htake)

/-- Nothing but padding is taken off. -/
theorem mem_unpad {c : Char} (hc : c ∈ t) (hpadding : ¬ isPadding c) : c ∈ unpad t := by
  rw [unpad, List.mem_reverse]
  exact mem_dropWhile (List.mem_reverse.2 (mem_dropWhile hc hpadding)) hpadding

/-- Nothing but a sign is split off. -/
theorem mem_splitSign {c : Char} (hc : c ∈ t) (hminus : c ≠ '-') (hplus : c ≠ '+') :
    c ∈ (splitSign t).2 := by
  rw [splitSign.eq_def]
  split <;> simp_all

/-- What stands in a text that is read as an integer. -/
theorem of_mem_readInt? {i : Int} (h : readInt? t = some i) {c : Char} (hc : c ∈ t) :
    isPadding c ∨ Text.isDecimal c ∨ c ∈ ['-', '+', '_'] := by
  by_contra hother
  simp only [List.mem_cons, List.not_mem_nil, or_false, not_or] at hother
  obtain ⟨hpadding, hdecimal, hsign⟩ := hother
  have hplain : plainDigit c = c := by
    rw [Text.isDecimal, Option.isSome_iff_ne_none, not_not] at hdecimal
    rw [plainDigit, hdecimal]
  have hbody : c ∈ (splitSign (plainDigits (unpad t))).2 := by
    refine mem_splitSign ?_ hsign.1 hsign.2.1
    rw [plainDigits_eq, List.mem_map]
    exact ⟨c, mem_unpad hc hpadding, hplain⟩
  rw [readInt?] at h
  dsimp only at h
  split at h
  next digits hdigits =>
      split at h
      · cases h
      next hread =>
          simp only [Bool.or_eq_true, Bool.not_eq_true', not_or, Bool.not_eq_false] at hread
          have hascii := List.all_eq_true.1 hread.1.2 c
            (mem_dropUnderscores? hdigits hbody hsign.2.2)
          exact hdecimal (by rw [Text.isDecimal, Text.decimalValue?_of_isAsciiDigit hascii]; rfl)
  next => cases h

theorem plainDigit_of_isAsciiDigit {c : Char} (h : Text.isAsciiDigit c) : plainDigit c = c := by
  have hrange := Text.isAsciiDigit_iff.1 h
  rw [plainDigit, Text.decimalValue?_of_isAsciiDigit h]
  dsimp only
  rw [show 48 + (c.toNat - 48) = c.toNat by omega, Char.ofNat_toNat]

/-- ASCII digits are read as what they say. -/
theorem readInt?_of_ascii (hne : t ≠ []) (h : t.all Text.isAsciiDigit)
    (hlength : t.length ≤ maxDigits) : readInt? t = some (Text.digitsValue t : Int) := by
  have hascii : ∀ c ∈ t, Text.isAsciiDigit c := List.all_eq_true.1 h
  have hdigits : t.all Text.isDigit :=
    List.all_eq_true.2 fun c hc => Text.isDigit_of_isAsciiDigit (hascii c hc)
  have hplain : plainDigits t = t := by
    rw [plainDigits_eq]
    exact (List.map_congr_left fun c hc => plainDigit_of_isAsciiDigit (hascii c hc)).trans
      (List.map_id t)
  have hother : ∀ d : Char, d.toNat < 48 ∨ d.toNat = 95 → d ∉ t := fun d hd hmem => by
    have hrange := Text.isAsciiDigit_iff.1 (hascii d hmem)
    omega
  have hsign : splitSign t = (false, t) := by
    cases t with
    | nil => rfl
    | cons c t =>
        refine splitSign_of_ne ?_ ?_ <;> rintro rfl
        · exact hother '-' (.inl (by decide)) List.mem_cons_self
        · exact hother '+' (.inl (by decide)) List.mem_cons_self
  rw [readInt?, unpad_of_digits hdigits, hplain, hsign]
  simp only [dropUnderscores?_of_not_mem (hother '_' (.inr rfl))]
  rw [if_neg (by simp [hne, h, hlength])]
  rfl

theorem isAsciiDigit_of_mem_ofNat {n : Nat} {c : Char} (h : c ∈ Text.ofNat n) :
    Text.isAsciiDigit c := by
  have hdigit : c.isDigit := Nat.isDigit_of_mem_toDigits (by decide) (by decide) h
  simpa [Text.isAsciiDigit, Char.isDigit, Char.le_def] using hdigit

/-- A number is read back from its digits. -/
theorem readInt?_ofNat {n : Nat} (h : n < 10 ^ maxDigits) :
    readInt? (Text.ofNat n) = some (n : Int) := by
  have hascii : (Text.ofNat n).all Text.isAsciiDigit :=
    List.all_eq_true.2 fun c hc => isAsciiDigit_of_mem_ofNat hc
  have hvalue : Text.digitsValue (Text.ofNat n) = n := by
    have hback : Nat.ofDigitChars 10 (Nat.toDigits 10 n) 0 = n := by simp
    rwa [Nat.ofDigitChars_eq_foldl] at hback
  have hlength : (Text.ofNat n).length ≤ maxDigits :=
    (Nat.length_toDigits_le_iff (by decide) (by decide)).2 h
  have hne : Text.ofNat n ≠ [] := Nat.toDigits_ne_nil
  rw [readInt?_of_ascii hne hascii hlength, hvalue]

end Number

end UtilityCss

import Mathlib.Data.List.Basic
import UtilityCss.Json.Reader
import UtilityCss.Json.Writer
import UtilityCss.Proofs.Text.Ascii

/-!
# JSON — strings are read back

Every string is read back from what is written for it, whatever follows (`readString_writeString`):
the characters that have escapes of their own, those that are written by one unit, and those that
are written by two, of which the first is never taken for a character of its own.  So what is
written for a string tells where it ends and what it is (`writeString_append_inj`), and it is in
ASCII.
-/

namespace UtilityCss.Json

variable {c : Char} {rest : Text} {n : Nat}

/-! ### Units -/

theorem unit?_hex (h : n < 0x10000) : unit? (Text.hex 4 n) = some n := by
  have hlength : (Text.hex 4 n).length = 4 := Text.length_hex (by decide) h
  have hnumber := Text.hexNumber_hex 4 n
  have hdigit : ∀ d ∈ Text.hex 4 n, (Text.hexValue? d).isSome :=
    fun d => Text.isSome_hexValue?_of_mem_hex
  obtain ⟨w, x, y, z, heq⟩ := List.length_eq_four.1 hlength
  simp only [heq, List.forall_mem_cons, Option.isSome_iff_exists] at hdigit
  obtain ⟨⟨w', hw⟩, ⟨x', hx⟩, ⟨y', hy⟩, ⟨z', hz⟩, -⟩ := hdigit
  simp only [heq, Text.hexNumber, List.foldl_cons, List.foldl_nil, hw, hx, hy, hz,
    Option.getD_some] at hnumber
  simp only [heq, unit?, hw, hx, hy, hz, Option.bind_eq_bind, Option.bind_some, Option.pure_def,
    Option.some.injEq]
  omega

/-- What is read from the digits of a unit that is not the first of two. -/
theorem readUnits_hex (h : n < 0x10000) (hhigh : isHighUnit n = false) (hrest : rest ≠ []) :
    readUnits (Text.hex 4 n ++ rest) = .ok (charOfCode n, rest) := by
  have hlength : (Text.hex 4 n).length = 4 := Text.length_hex (by decide) h
  have htake : (Text.hex 4 n ++ rest).take 4 = Text.hex 4 n := List.take_left' hlength
  have hdrop : (Text.hex 4 n ++ rest).drop 4 = rest := List.drop_left' hlength
  rw [readUnits, hdrop, if_neg (by simpa using hrest), htake, unit?_hex h]
  dsimp only
  split
  · rw [hhigh]
    rfl
  · rfl

/-- What is read from the digits of two units that stand for one character. -/
theorem readUnits_pair {low : Nat} (hhigh : isHighUnit n) (hlow : isLowUnit low)
    (hrest : rest ≠ []) :
    readUnits (Text.hex 4 n ++ ('\\' :: 'u' :: (Text.hex 4 low ++ rest))) =
      .ok (Char.ofNat (0x10000 + (n - 0xD800) * 0x400 + (low - 0xDC00)), rest) := by
  have hn : n < 0x10000 := by
    simp only [isHighUnit, Bool.and_eq_true, decide_eq_true_eq] at hhigh
    omega
  have hm : low < 0x10000 := by
    simp only [isLowUnit, Bool.and_eq_true, decide_eq_true_eq] at hlow
    omega
  have hlength : (Text.hex 4 n).length = 4 := Text.length_hex (by decide) hn
  have hlength' : (Text.hex 4 low).length = 4 := Text.length_hex (by decide) hm
  rw [readUnits, List.drop_left' hlength, if_neg (by simp), List.take_left' hlength, unit?_hex hn]
  simp only [List.drop_left' hlength', List.take_left' hlength', unit?_hex hm, hhigh, hlow]
  simp [hrest]

/-- A character that is written by one unit is read back. -/
theorem readUnits_one (h : c.toNat < 0x10000) (hrest : rest ≠ []) :
    readUnits (Text.hex 4 c.toNat ++ rest) = .ok (c, rest) := by
  have hvalid : c.toNat < 0xD800 ∨ (0xDFFF < c.toNat ∧ c.toNat < 0x110000) := c.valid
  have hhigh : isHighUnit c.toNat = false := by
    simp only [isHighUnit, Bool.and_eq_false_iff, decide_eq_false_iff_not]
    omega
  have hlow : isLowUnit c.toNat = false := by
    simp only [isLowUnit, Bool.and_eq_false_iff, decide_eq_false_iff_not]
    omega
  rw [readUnits_hex h hhigh hrest, charOfCode, hhigh, hlow, if_neg (by decide), Char.ofNat_toNat]

/-- A character that is written by two units is read back. -/
theorem readUnits_two (h : 0x10000 ≤ c.toNat) (hrest : rest ≠ []) :
    readUnits (Text.hex 4 (0xD800 + (c.toNat - 0x10000) / 0x400) ++
      ('\\' :: 'u' :: (Text.hex 4 (0xDC00 + (c.toNat - 0x10000) % 0x400) ++ rest))) =
      .ok (c, rest) := by
  have hvalid : c.toNat < 0xD800 ∨ (0xDFFF < c.toNat ∧ c.toNat < 0x110000) := c.valid
  have hhigh : isHighUnit (0xD800 + (c.toNat - 0x10000) / 0x400) := by
    simp only [isHighUnit, Bool.and_eq_true, decide_eq_true_eq]
    omega
  have hlow : isLowUnit (0xDC00 + (c.toNat - 0x10000) % 0x400) := by
    simp only [isLowUnit, Bool.and_eq_true, decide_eq_true_eq]
    omega
  rw [readUnits_pair hhigh hlow hrest]
  have hcode : 0x10000 + (0xD800 + (c.toNat - 0x10000) / 0x400 - 0xD800) * 0x400 +
      (0xDC00 + (c.toNat - 0x10000) % 0x400 - 0xDC00) = c.toNat := by
    omega
  rw [hcode, Char.ofNat_toNat]

/-! ### Characters -/

section

variable {opened reversed : Text} {fuel : Nat}

theorem readStringRest_plain (hquote : c.toNat ≠ 34) (hslash : c ≠ '\\') (hsmall : 32 ≤ c.toNat) :
    readStringRest opened (fuel + 1) reversed (c :: rest) =
      readStringRest opened fuel (c :: reversed) rest := by
  rw [readStringRest.eq_def]
  dsimp only
  rw [if_neg (by simpa using hquote), if_neg (by simpa using hslash), if_neg (by omega)]

theorem readStringRest_simple {d : Char} (hunit : d ≠ 'u') (h : simpleEscape? d = some c) :
    readStringRest opened (fuel + 1) reversed ('\\' :: d :: rest) =
      readStringRest opened fuel (c :: reversed) rest := by
  rw [readStringRest, if_neg (by decide), if_pos (by decide), h]
  exact hunit

theorem readStringRest_units {digits : Text} (h : readUnits digits = .ok (c, rest)) :
    readStringRest opened (fuel + 1) reversed ('\\' :: 'u' :: digits) =
      readStringRest opened fuel (c :: reversed) rest := by
  rw [readStringRest, if_neg (by decide), if_pos (by decide)]
  simp only [h]

/-- **Every character is read back**, whatever follows. -/
theorem readStringRest_escapeChar (hrest : rest ≠ []) :
    readStringRest opened (fuel + 1) reversed (escapeChar c ++ rest) =
      readStringRest opened fuel (c :: reversed) rest := by
  have hcode : Char.ofNat c.toNat = c := Char.ofNat_toNat c
  have hvalid : c.toNat < 0xD800 ∨ (0xDFFF < c.toNat ∧ c.toNat < 0x110000) := c.valid
  rw [escapeChar]
  dsimp only
  split
  next hown =>
      simp only [Bool.or_eq_true, beq_iff_eq] at hown
      refine readStringRest_simple ?_ ?_
      · rintro rfl
        exact absurd hown (by decide)
      · have hslash : c.toNat = 92 → c = '\\' := fun h => by rw [← hcode, h]
        rw [simpleEscape?, if_pos (by simpa using .inl (hown.imp_right hslash))]
  next hown =>
      simp only [Bool.or_eq_true, beq_iff_eq, not_or] at hown
      have hslash : c ≠ '\\' := by
        rintro rfl
        exact hown.2 rfl
      split_ifs with hfeed hreturn htab hback hform hplain hunit
      · obtain rfl := beq_iff_eq.1 hfeed
        exact readStringRest_simple (by decide) rfl
      · obtain rfl := beq_iff_eq.1 hreturn
        exact readStringRest_simple (by decide) rfl
      · obtain rfl := beq_iff_eq.1 htab
        exact readStringRest_simple (by decide) rfl
      · rw [beq_iff_eq] at hback
        refine readStringRest_simple (by decide) ?_
        rw [← hcode, hback]
        rfl
      · rw [beq_iff_eq] at hform
        refine readStringRest_simple (by decide) ?_
        rw [← hcode, hform]
        rfl
      · simp only [Bool.and_eq_true, decide_eq_true_eq] at hplain
        exact readStringRest_plain hown.1 hslash hplain.1
      · rw [unitEscape, List.cons_append, List.cons_append]
        exact readStringRest_units (readUnits_one hunit hrest)
      · have hlarge : 0x10000 ≤ c.toNat := Nat.not_lt.1 hunit
        rw [unitEscape, unitEscape, List.append_assoc, List.cons_append, List.cons_append,
          List.cons_append, List.cons_append]
        exact readStringRest_units (readUnits_two hlarge hrest)

end

/-- **Every string is read back** from what is written for it, whatever follows. -/
theorem readString_writeString {fuel : Nat} (t : Text) (hfuel : t.length < fuel) :
    readString fuel (t.flatMap escapeChar ++ Text.doubleQuote :: rest) = .ok (t, rest) := by
  have hread (opened reversed : Text) : readStringRest opened fuel reversed
      (t.flatMap escapeChar ++ Text.doubleQuote :: rest) = .ok (reversed.reverse ++ t, rest) := by
    induction t generalizing fuel reversed with
    | nil =>
        obtain ⟨fuel, rfl⟩ : ∃ n, fuel = n + 1 := ⟨fuel - 1, by simp at hfuel; omega⟩
        rw [List.flatMap_nil, List.nil_append, List.append_nil, readStringRest.eq_def]
        rfl
    | cons c t ih =>
        obtain ⟨fuel, rfl⟩ : ∃ n, fuel = n + 1 := ⟨fuel - 1, by simp at hfuel; omega⟩
        rw [List.flatMap_cons, List.append_assoc, readStringRest_escapeChar (by simp),
          ih (by simpa using hfuel), List.reverse_cons, List.append_assoc]
        rfl
  exact hread _ []

/-- What is written for a string tells where it ends and what it is. -/
theorem writeString_append_inj {t u rest' : Text}
    (h : writeString t ++ rest = writeString u ++ rest') : t = u ∧ rest = rest' := by
  have hbody : t.flatMap escapeChar ++ Text.doubleQuote :: rest =
      u.flatMap escapeChar ++ Text.doubleQuote :: rest' := by
    simpa [writeString] using h
  have hread : readString (t.length + u.length + 1)
      (t.flatMap escapeChar ++ Text.doubleQuote :: rest) = .ok (t, rest) :=
    readString_writeString t (by omega)
  rw [hbody, readString_writeString u (by omega)] at hread
  obtain ⟨rfl, rfl⟩ := Prod.mk.inj (Except.ok.inj hread)
  exact ⟨rfl, rfl⟩

/-! ### ASCII -/

theorem isAscii_escapeChar (c : Char) : Text.IsAscii (escapeChar c) := by
  have hunit (n : Nat) : Text.IsAscii (unitEscape n) := by
    rw [unitEscape, Text.isAscii_cons, Text.isAscii_cons]
    exact ⟨by decide, by decide, Text.isAscii_hex 4 n⟩
  have hself {d : Char} (hd : d.toNat < 128) : Text.IsAscii [d] := List.forall_mem_singleton.2 hd
  have hslash {d : Char} (hd : d.toNat < 128) : Text.IsAscii ['\\', d] :=
    Text.isAscii_cons.2 ⟨by decide, hself hd⟩
  rw [escapeChar]
  dsimp only
  split
  next hown =>
      simp only [Bool.or_eq_true, beq_iff_eq] at hown
      exact hslash (by omega)
  next =>
      split_ifs with hfeed hreturn htab hback hform hplain hone
      · exact hslash (by decide)
      · exact hslash (by decide)
      · exact hslash (by decide)
      · exact hslash (by decide)
      · exact hslash (by decide)
      · simp only [Bool.and_eq_true, decide_eq_true_eq] at hplain
        exact hself (by omega)
      · exact hunit _
      · exact Text.isAscii_append.2 ⟨hunit _, hunit _⟩

theorem isAscii_writeString (t : Text) : Text.IsAscii (writeString t) := by
  have hquote : Text.doubleQuote.toNat < 128 := by decide
  rw [writeString, List.cons_append, Text.isAscii_cons, Text.isAscii_append]
  refine ⟨hquote, fun c hc => ?_, List.forall_mem_singleton.2 hquote⟩
  obtain ⟨d, -, hd⟩ := List.mem_flatMap.1 hc
  exact isAscii_escapeChar d c hd

end UtilityCss.Json

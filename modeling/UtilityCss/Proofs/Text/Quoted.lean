import Mathlib.Data.List.Basic
import UtilityCss.Proofs.Text.Hexadecimal
import UtilityCss.Text.Quoted

/-!
# Text — quoted texts are read back

A text that is written character by character tells where it ends and what it is, if what is written
for a character is read back, whatever follows, and never starts with the closing character
(`flatMap_append_inj`).  This is so between two marks (`readQuoted_quoteChar`, `head_quoteChar`),
and so it is for quoted texts (`quoted_append_inj`).
-/

namespace UtilityCss.Text

variable {plain : Char → Bool} {mark c : Char} {s t rest rest' : Text}

/-- Texts that are written character by character, each up to a closing character. -/
theorem flatMap_append_inj {write : Char → Text} {read : Text → Option (Char × Text)} {close : Char}
    (hread : ∀ c more, read (write c ++ more) = some (c, more))
    (hclose : ∀ c more more', write c ++ more ≠ close :: more')
    (h : s.flatMap write ++ close :: rest = t.flatMap write ++ close :: rest') :
    s = t ∧ rest = rest' := by
  induction s generalizing t with
  | nil =>
      cases t with
      | nil => exact ⟨rfl, (List.cons.inj h).2⟩
      | cons d t =>
          rw [List.flatMap_cons, List.append_assoc] at h
          exact absurd h.symm (hclose d _ _)
  | cons c s ih =>
      rw [List.flatMap_cons, List.append_assoc] at h
      cases t with
      | nil => exact absurd h (hclose c _ _)
      | cons d t =>
          rw [List.flatMap_cons, List.append_assoc] at h
          have hfirst := congrArg read h
          rw [hread, hread] at hfirst
          obtain ⟨rfl, htail⟩ := Prod.mk.inj (Option.some.inj hfirst)
          obtain ⟨rfl, hrest⟩ := ih htail
          exact ⟨rfl, hrest⟩

/-! ### Between two marks -/

/-- A character from its code point in `width` digits, and what follows. -/
def readCode (width : Nat) (t : Text) : Char × Text :=
  (Char.ofNat (hexNumber (t.take width)), t.drop width)

/-- The character that the start of a quoted text stands for, and what follows. -/
def readQuoted : Text → Option (Char × Text)
  | [] => none
  | '\\' :: 'n' :: rest => some ('\n', rest)
  | '\\' :: 'r' :: rest => some ('\r', rest)
  | '\\' :: 't' :: rest => some ('\t', rest)
  | '\\' :: 'x' :: rest => some (readCode 2 rest)
  | '\\' :: 'u' :: rest => some (readCode 4 rest)
  | '\\' :: 'U' :: rest => some (readCode 8 rest)
  | '\\' :: c :: rest => some (c, rest)
  | c :: rest => some (c, rest)

theorem readCode_hex {width : Nat} (hpos : 0 < width) (h : c.toNat < 16 ^ width) :
    readCode width (hex width c.toNat ++ rest) = (c, rest) := by
  have hlength := length_hex hpos h
  rw [readCode, List.take_left' hlength, List.drop_left' hlength, hexNumber_hex, Char.ofNat_toNat]

theorem readQuoted_codeEscape : readQuoted (codeEscape c ++ rest) = some (c, rest) := by
  have hvalid : c.toNat < 0xD800 ∨ (0xDFFF < c.toNat ∧ c.toNat < 0x110000) := c.valid
  rw [codeEscape]
  split_ifs with hshort hlong
  · exact congrArg some (readCode_hex (by decide) hshort)
  · exact congrArg some (readCode_hex (by decide) hlong)
  · exact congrArg some (readCode_hex (by decide) (by omega))

/-- The two marks. -/
def IsMark (c : Char) : Prop :=
  c = apostrophe ∨ c = doubleQuote

/-- The mark around a quoted text is one of the two. -/
theorem isMark_quoteMark (t : Text) : IsMark (quoteMark t) := by
  rw [quoteMark]
  split
  · exact .inr rfl
  · exact .inl rfl

/-- **A character is read back** from what stands for it. -/
theorem readQuoted_quoteChar (hmark : IsMark mark) :
    readQuoted (quoteChar plain mark c ++ rest) = some (c, rest) := by
  rw [quoteChar]
  split_ifs with hself hfeed hreturn htab hplain
  · rw [Bool.or_eq_true, beq_iff_eq, beq_iff_eq] at hself
    obtain rfl | rfl := hself
    · obtain rfl | rfl := hmark <;> rfl
    · rfl
  · rw [beq_iff_eq.1 hfeed]
    rfl
  · rw [beq_iff_eq.1 hreturn]
    rfl
  · rw [beq_iff_eq.1 htab]
    rfl
  · have hslash : c ≠ '\\' := fun h => hself (by simp [h])
    simp [readQuoted, hslash]
  · exact readQuoted_codeEscape

/-- What stands for a character starts with a backslash, unless it is the character. -/
theorem quoteChar_cases :
    (∃ t, quoteChar plain mark c = '\\' :: t) ∨ (c ≠ mark ∧ quoteChar plain mark c = [c]) := by
  rw [quoteChar]
  split_ifs with hself hfeed hreturn htab hplain
  · exact .inl ⟨_, rfl⟩
  · exact .inl ⟨_, rfl⟩
  · exact .inl ⟨_, rfl⟩
  · exact .inl ⟨_, rfl⟩
  · exact .inr ⟨fun h => hself (by simp [h]), rfl⟩
  · refine .inl ?_
    rw [codeEscape]
    split_ifs <;> exact ⟨_, rfl⟩

/-- It does not start with the mark. -/
theorem head_quoteChar (hmark : IsMark mark) :
    quoteChar plain mark c ++ rest ≠ mark :: rest' := by
  intro h
  obtain ⟨t, hescape⟩ | ⟨hne, hself⟩ := @quoteChar_cases plain mark c
  · rw [hescape] at h
    obtain rfl : '\\' = mark := (List.cons.inj h).1
    obtain hquote | hquote := hmark <;> exact absurd hquote (by decide)
  · rw [hself] at h
    exact hne (List.cons.inj h).1

/-- **A quoted text tells** where it ends and what it is. -/
theorem quoted_append_inj (h : quoted s ++ rest = quoted t ++ rest') : s = t ∧ rest = rest' := by
  simp only [quoted, quoteWith, List.cons_append, List.append_assoc, List.nil_append] at h
  obtain ⟨hmark, hbody⟩ := List.cons.inj h
  rw [hmark] at hbody
  have hismark := isMark_quoteMark t
  exact flatMap_append_inj (fun _ _ => readQuoted_quoteChar hismark)
    (fun _ _ _ => head_quoteChar hismark) hbody

end UtilityCss.Text

import UtilityCss.Proofs.Number.Digits
import UtilityCss.Proofs.Text.Hexadecimal
import UtilityCss.Proofs.Text.Quoted
import UtilityCss.Selector.Basic

/-!
# Selectors — escapes are taken back

What a class name in a selector stands for: a backslash with one to six hexadecimal digits, and a
space that may follow them, is the character of that code point; a backslash with any other
character is that character; and any other character is itself (`unescape`).

**Escaping is reversible** (`escape_reversible`).  Every class name is read back from what is
written for it, so different names have different selectors, and the rules that are written for them
differ.

* `readChar_escapeChar`: a character is read back whatever follows it.  No character that is written
  after a backslash is a hexadecimal digit, so such an escape is never taken for a code point.
* `readChar_digit`: a digit at the start is written as its code point, and the space after it ends
  the code point before a digit that may follow.
-/

namespace UtilityCss.Selector

variable {c : Char} {name rest : Text}

/-! ### Reading -/

/-- The character of a code point; the replacement character if there is none. -/
def ofCode (code : Nat) : Char :=
  if code.isValidChar then Char.ofNat code else Char.ofNat 0xFFFD

/-- The hexadecimal digits at the start of a text, six at most. -/
def codeDigits (t : Text) : Text :=
  (t.take 6).takeWhile fun c => (Text.hexValue? c).isSome

/-- What follows a code point: one space is part of it. -/
def skipSpace : Text → Text
  | ' ' :: rest => rest
  | t => t

/-- The character that the start of a text stands for, and what follows. -/
def readChar : Text → Option (Char × Text)
  | [] => none
  | '\\' :: c :: rest =>
    if codeDigits (c :: rest) = [] then some (c, rest)
    else
      some (ofCode (Text.hexNumber (codeDigits (c :: rest))),
        skipSpace ((c :: rest).drop (codeDigits (c :: rest)).length))
  | c :: rest => some (c, rest)

theorem length_skipSpace_le (t : Text) : (skipSpace t).length ≤ t.length := by
  rw [skipSpace.eq_def]
  split
  · exact Nat.le_succ _
  · exact Nat.le_refl _

theorem length_lt_of_readChar {t : Text} (h : readChar t = some (c, rest)) :
    rest.length < t.length := by
  rw [readChar.eq_def] at h
  split at h
  · cases h
  next d more =>
      split at h
      · cases h
        simp only [List.length_cons]
        omega
      · cases h
        have hskip := length_skipSpace_le ((d :: more).drop (codeDigits (d :: more)).length)
        simp only [List.length_drop, List.length_cons] at hskip ⊢
        omega
  · cases h
    exact Nat.lt_succ_self _

/-- The text that a class name in a selector stands for. -/
def unescape (t : Text) : Text :=
  match _h : readChar t with
  | none => []
  | some (c, rest) => c :: unescape rest
termination_by t.length
decreasing_by exact length_lt_of_readChar _h

theorem unescape_of_readChar {t : Text} (h : readChar t = some (c, rest)) :
    unescape t = c :: unescape rest := by
  rw [unescape]
  split
  next hnone => rw [h] at hnone; cases hnone
  next hsome =>
      rw [h] at hsome
      cases hsome
      rfl

@[simp] theorem unescape_nil : unescape [] = [] := by
  rw [unescape]
  rfl

/-! ### Escaped characters -/

/-- No hexadecimal digit is written after a backslash. -/
theorem isPlain_of_hexValue? (h : (Text.hexValue? c).isSome) : isPlain c := by
  simp only [Text.hexValue?, Bool.and_eq_true, decide_eq_true_eq] at h
  simp only [isPlain, Text.isAsciiAlphanumeric, Bool.or_eq_true, Bool.and_eq_true,
    decide_eq_true_eq]
  split at h
  next hdigit => exact .inl (.inl (.inr hdigit))
  next =>
      split at h
      next hlow =>
          exact .inl (.inl (.inl (.inl ⟨hlow.1, Char.le_trans hlow.2 (by decide)⟩)))
      next =>
          split at h
          next hup => exact .inl (.inl (.inl (.inr ⟨hup.1, Char.le_trans hup.2 (by decide)⟩)))
          next => cases h

theorem readChar_escapeChar (c : Char) (rest : Text) :
    readChar (escapeChar c ++ rest) = some (c, rest) := by
  rw [escapeChar]
  split
  next hplain =>
      have hne : c ≠ '\\' := by
        rintro rfl
        exact absurd hplain (by decide)
      simp [readChar.eq_def, hne]
  next hplain =>
      have hcode : codeDigits (c :: rest) = [] := by
        rw [codeDigits, List.take_succ_cons, List.takeWhile_cons_of_neg]
        exact fun h => hplain (isPlain_of_hexValue? h)
      simp [readChar, hcode]

theorem toNat_lt_of_isPlain (h : isPlain c) : c.toNat < 128 := by
  have hle {d : Char} (h : c ≤ d) (hd : d.toNat < 128) : c.toNat < 128 :=
    Nat.lt_of_le_of_lt h hd
  simp only [isPlain, Text.isAsciiAlphanumeric, Bool.or_eq_true, Bool.and_eq_true,
    decide_eq_true_eq, beq_iff_eq] at h
  obtain (((⟨-, h⟩ | ⟨-, h⟩) | ⟨-, h⟩) | rfl) | rfl := h
  · exact hle h (by decide)
  · exact hle h (by decide)
  · exact hle h (by decide)
  · decide
  · decide

/-- What is written for a character starts with a backslash, or with a character that stands for
itself. -/
theorem escapeChar_cases (c : Char) :
    (isPlain c ∧ escapeChar c = [c]) ∨ (¬ isPlain c ∧ escapeChar c = ['\\', c]) := by
  rw [escapeChar]
  by_cases hplain : isPlain c
  · exact .inl ⟨hplain, if_pos hplain⟩
  · exact .inr ⟨hplain, if_neg hplain⟩

theorem hexValue?_of_isAsciiDigit (h : Text.isAsciiDigit c) :
    Text.hexValue? c = some (c.toNat - 48) := by
  rw [Text.isAsciiDigit] at h
  rw [Text.hexValue?, if_pos h]
  rfl

theorem isPlain_of_isAsciiDigit (h : Text.isAsciiDigit c) : isPlain c :=
  isPlain_of_hexValue? (by rw [hexValue?_of_isAsciiDigit h]; rfl)

theorem ofCode_toNat (c : Char) : ofCode c.toNat = c := by
  have hvalid : c.toNat.isValidChar := c.valid
  rw [ofCode, if_pos hvalid, Char.ofNat_toNat]

/-- A digit at the start is read back from its code point, whatever follows the space. -/
theorem readChar_digit (h : Text.isAsciiDigit c) (rest : Text) :
    readChar ('\\' :: '3' :: c :: ' ' :: rest) = some (c, rest) := by
  have hvalue := hexValue?_of_isAsciiDigit h
  have hdigits : codeDigits ('3' :: c :: ' ' :: rest) = ['3', c] := by
    have hthree : (Text.hexValue? '3').isSome := rfl
    have hspace : (Text.hexValue? ' ').isSome = false := rfl
    simp [codeDigits, hvalue, hthree, hspace]
  have hcode : Text.hexNumber ['3', c] = c.toNat := by
    have hrange := Text.isAsciiDigit_iff.1 h
    have hthree : Text.hexValue? '3' = some 3 := rfl
    simp only [Text.hexNumber, List.foldl_cons, List.foldl_nil, hvalue, hthree, Option.getD_some]
    omega
  rw [readChar, hdigits, if_neg (by simp), hcode, ofCode_toNat]
  rfl

/-! ### Escaped names -/

/-- What is written for a class name: its characters one after the other, but for a digit at the
start. -/
theorem escape_cases (name : Text) :
    (escape name = name.flatMap escapeChar ∧ ∀ c ∈ name.head?, ¬ Text.isAsciiDigit c) ∨
    ∃ c more, name = c :: more ∧ Text.isAsciiDigit c ∧
      escape name = '\\' :: '3' :: c :: ' ' :: more.flatMap escapeChar := by
  cases name with
  | nil => exact .inl ⟨rfl, by simp⟩
  | cons c more =>
      rw [escape, List.flatMap_cons]
      obtain ⟨hplain, hc⟩ | ⟨hplain, hc⟩ := escapeChar_cases c <;> rw [hc]
      · have hdigit := Text.isDigit_iff_of_ascii (toNat_lt_of_isPlain hplain)
        by_cases h : Text.isAsciiDigit c
        · exact .inr ⟨c, more, rfl, h, if_pos (hdigit.2 h)⟩
        · exact .inl ⟨if_neg fun hd => h (hdigit.1 hd), by simpa using h⟩
      · refine .inl ⟨if_neg (by decide), ?_⟩
        simp only [List.head?_cons, Option.mem_def, Option.some.injEq, forall_eq']
        exact fun h => hplain (isPlain_of_isAsciiDigit h)

theorem unescape_flatMap (name : Text) : unescape (name.flatMap escapeChar) = name := by
  induction name with
  | nil => exact unescape_nil
  | cons c name ih =>
      rw [List.flatMap_cons, unescape_of_readChar (readChar_escapeChar c _), ih]

/-- **Every class name is read back** from what is written for it. -/
theorem unescape_escape (name : Text) : unescape (escape name) = name := by
  obtain ⟨hescape, -⟩ | ⟨c, more, rfl, hdigit, hescape⟩ := escape_cases name
  · rw [hescape, unescape_flatMap]
  · rw [hescape, unescape_of_readChar (readChar_digit hdigit _), unescape_flatMap]

/-! ### Names before a space -/

theorem escapeChar_ne_space (c : Char) (rest more : Text) : escapeChar c ++ rest ≠ ' ' :: more := by
  obtain ⟨hplain, hc⟩ | ⟨-, hc⟩ := escapeChar_cases c <;> rw [hc]
  · rintro heq
    obtain rfl := (List.cons.inj heq).1
    exact absurd hplain (by decide)
  · simp

/-- A code point at the start is none of the ways in which a character is written. -/
theorem escapeChar_ne_digit (c d : Char) (rest more : Text) :
    escapeChar c ++ rest ≠ '\\' :: '3' :: d :: more := by
  obtain ⟨hplain, hc⟩ | ⟨hplain, hc⟩ := escapeChar_cases c <;> rw [hc] <;> intro heq
  · obtain rfl := (List.cons.inj heq).1
    exact absurd hplain (by decide)
  · obtain rfl := (List.cons.inj (List.cons.inj heq).2).1
    exact hplain (by decide)

/-- The first space that no backslash stands before ends what is written for a name. -/
theorem flatMap_escapeChar_inj {name other x y : Text}
    (h : name.flatMap escapeChar ++ ' ' :: x = other.flatMap escapeChar ++ ' ' :: y) :
    name = other :=
  (Text.flatMap_append_inj readChar_escapeChar escapeChar_ne_space h).1

theorem escape_append_inj {name other x y : Text}
    (h : escape name ++ ' ' :: x = escape other ++ ' ' :: y) : name = other := by
  obtain ⟨hname, -⟩ | ⟨c, more, rfl, -, hname⟩ := escape_cases name <;>
    obtain ⟨hother, -⟩ | ⟨d, rest, rfl, -, hother⟩ := escape_cases other <;>
    rw [hname, hother] at h
  · exact flatMap_escapeChar_inj h
  · cases name with
    | nil => simp at h
    | cons e name =>
        rw [List.flatMap_cons, List.append_assoc] at h
        exact absurd h (escapeChar_ne_digit e d _ _)
  · cases other with
    | nil => simp at h
    | cons e other =>
        rw [List.flatMap_cons, List.append_assoc] at h
        exact absurd h.symm (escapeChar_ne_digit e c _ _)
  · simp only [List.cons_append, List.cons.injEq, true_and] at h
    rw [h.1, flatMap_escapeChar_inj h.2]

/-- **Escaping is reversible.**  Every class name is read back from what is written for it; so no
two names have the same selector, and the rules of tokens with different names differ. -/
theorem escape_reversible :
    (∀ name, unescape (escape name) = name) ∧ Function.Injective escape ∧
      ∀ (token other : ClassToken) (declarations others : Declarations),
        render token declarations = render other others → token.original = other.original := by
  refine ⟨unescape_escape, fun name other h => ?_, fun token other declarations others h => ?_⟩
  · rw [← unescape_escape name, h, unescape_escape]
  · simp only [render, List.cons_append, List.cons.injEq, true_and, List.append_assoc] at h
    exact escape_append_inj h

end UtilityCss.Selector

import UtilityCss.Proofs.ClassList.Joined
import UtilityCss.Proofs.Selector.Escaping
import UtilityCss.Text.Letter

/-!
# Selectors — names as identifiers

What may stand for a class in a style sheet is an identifier.  It starts with a letter, an
underscore, a character beyond ASCII or an escape, with a hyphen before it or none, or it starts
with two hyphens; then letters, digits, underscores, hyphens, characters beyond ASCII and escapes
follow (`IsIdentifier`).

**Identifiers** (`isIdentifier_escape_iff`).  What is written for a class name, a word that is not
empty, is an identifier exactly if the name is no lone hyphen and does not start with a hyphen
before a digit.

Everything that is written may stand within an identifier (`isRest_flatMap`), so only the start
matters.  A digit there is written as its code point; but a hyphen stands for itself, and a digit
behind it too, where an identifier has no digit (`IsIdentifier.of_hyphen`).
-/

namespace UtilityCss.Selector

variable {c d : Char} {t rest name : Text}

/-! ### Identifiers -/

/-- A character that ends a line: a line feed, a form feed or a carriage return. -/
def endsLine (c : Char) : Bool :=
  c.toNat == 10 || c.toNat == 12 || c.toNat == 13

/-- A character that may start an identifier. -/
def isStartChar (c : Char) : Bool :=
  Text.isAsciiLetter c || c == '_' || 128 ≤ c.toNat

/-- A character that may stand behind the start of an identifier. -/
def isInnerChar (c : Char) : Bool :=
  isStartChar c || Text.isAsciiDigit c || c == '-'

/-- A backslash with one to six hexadecimal digits and perhaps a space, or with any other character
that ends no line. -/
inductive IsEscape : Text → Prop where
  | code {digits space : Text} (hne : digits ≠ []) (hlength : digits.length ≤ 6)
      (hdigits : ∀ c ∈ digits, (Text.hexValue? c).isSome) (hspace : space = [] ∨ space = [' ']) :
      IsEscape ('\\' :: (digits ++ space))
  | char {c : Char} (hhex : Text.hexValue? c = none) (hline : endsLine c = false) :
      IsEscape ['\\', c]

/-- What an identifier may start with, a hyphen before it apart. -/
inductive IsStart : Text → Prop where
  | char {c : Char} (hc : isStartChar c) : IsStart [c]
  | escape {t : Text} (ht : IsEscape t) : IsStart t

/-- What may follow the start of an identifier. -/
inductive IsRest : Text → Prop where
  | nil : IsRest []
  | char {c : Char} {rest : Text} (hc : isInnerChar c) (h : IsRest rest) : IsRest (c :: rest)
  | escape {t rest : Text} (ht : IsEscape t) (h : IsRest rest) : IsRest (t ++ rest)

/-- An identifier of a style sheet. -/
inductive IsIdentifier : Text → Prop where
  | hyphens {rest : Text} (h : IsRest rest) : IsIdentifier ('-' :: '-' :: rest)
  | hyphen {t rest : Text} (ht : IsStart t) (h : IsRest rest) : IsIdentifier ('-' :: (t ++ rest))
  | plain {t rest : Text} (ht : IsStart t) (h : IsRest rest) : IsIdentifier (t ++ rest)

/-! ### Starts -/

theorem IsEscape.exists_cons (h : IsEscape t) : ∃ rest, t = '\\' :: rest := by
  cases h with
  | code => exact ⟨_, rfl⟩
  | char => exact ⟨_, rfl⟩

/-- What an identifier starts with is a character that may start it, or a backslash. -/
theorem IsStart.exists_cons (h : IsStart t) :
    ∃ c rest, t = c :: rest ∧ (isStartChar c ∨ c = '\\') := by
  cases h with
  | char hc => exact ⟨_, [], rfl, .inl hc⟩
  | escape ht =>
      obtain ⟨rest, rfl⟩ := ht.exists_cons
      exact ⟨'\\', rest, rfl, .inr rfl⟩

/-- **Behind a hyphen** at the start stands another one, a character that may start an identifier,
or a backslash. -/
theorem IsIdentifier.of_hyphen (h : IsIdentifier ('-' :: t)) :
    ∃ c rest, t = c :: rest ∧ (c = '-' ∨ isStartChar c ∨ c = '\\') := by
  generalize hu : '-' :: t = u at h
  cases h with
  | hyphens =>
      obtain ⟨-, rfl⟩ := List.cons.inj hu
      exact ⟨'-', _, rfl, .inl rfl⟩
  | hyphen ht =>
      obtain ⟨c, rest, rfl, hc⟩ := ht.exists_cons
      obtain ⟨-, rfl⟩ := List.cons.inj hu
      exact ⟨c, _, rfl, .inr hc⟩
  | plain ht =>
      -- a hyphen is no start by itself
      obtain ⟨c, rest, rfl, hc⟩ := ht.exists_cons
      obtain ⟨rfl, -⟩ := List.cons.inj hu
      exact absurd hc (by decide)

/-- A digit stands neither at the start of an identifier nor behind a hyphen there. -/
theorem not_isStartChar_of_isAsciiDigit (h : Text.isAsciiDigit d) : ¬ isStartChar d := by
  have hrange := Text.isAsciiDigit_iff.1 h
  intro hstart
  simp only [isStartChar, Text.isAsciiLetter, Bool.or_eq_true, Bool.and_eq_true,
    decide_eq_true_eq, beq_iff_eq, Char.le_def, UInt32.le_iff_toNat_le] at hstart
  obtain (((⟨hlow, -⟩ | ⟨hup, -⟩) | rfl) | hwide) := hstart
  · have hcode : 97 ≤ d.toNat := hlow
    omega
  · have hcode : 65 ≤ d.toNat := hup
    omega
  · exact absurd h (by decide)
  · omega

/-! ### Escaped characters -/

/-- A character that is written behind a backslash is no hexadecimal digit, and if it is no blank it
ends no line. -/
theorem isEscape_of_not_isPlain (hplain : ¬ isPlain c) (hblank : Text.isBlank c = false) :
    IsEscape ['\\', c] := by
  refine .char ?_ ?_
  · cases hvalue : Text.hexValue? c with
    | none => rfl
    | some n => exact absurd (isPlain_of_hexValue? (by rw [hvalue]; rfl)) hplain
  · simp only [Text.isBlank, Bool.or_eq_false_iff, Bool.and_eq_false_iff, decide_eq_false_iff_not,
      beq_eq_false_iff_ne] at hblank
    simp only [endsLine, Bool.or_eq_false_iff, beq_eq_false_iff_ne]
    omega

/-- A character that stands for itself is a letter, a digit, an underscore or a hyphen. -/
theorem isPlain_cases (h : isPlain c) :
    Text.isAsciiLetter c ∨ Text.isAsciiDigit c ∨ c = '_' ∨ c = '-' := by
  have hkinds : isPlain c =
      (Text.isAsciiLetter c || Text.isAsciiDigit c || c == '_' || c == '-') := rfl
  rw [hkinds] at h
  simpa [or_assoc] using h

theorem isInnerChar_of_isPlain (h : isPlain c) : isInnerChar c := by
  rw [isInnerChar, isStartChar]
  obtain h | h | h | h := isPlain_cases h <;> simp [h]

theorem isStartChar_of_isPlain (h : isPlain c) (hhyphen : c ≠ '-')
    (hdigit : Text.isAsciiDigit c = false) : isStartChar c := by
  rw [isStartChar]
  obtain h | h | h | h := isPlain_cases h
  · simp [h]
  · simp [h] at hdigit
  · simp [h]
  · exact absurd h hhyphen

/-- What is written for a name may stand within an identifier. -/
theorem isRest_flatMap (h : ∀ c ∈ name, Text.isBlank c = false) :
    IsRest (name.flatMap escapeChar) := by
  induction name with
  | nil => exact .nil
  | cons c name ih =>
      have hrest := ih fun d hd => h d (List.mem_cons_of_mem c hd)
      rw [List.flatMap_cons]
      obtain ⟨hplain, hc⟩ | ⟨hplain, hc⟩ := escapeChar_cases c <;> rw [hc]
      · exact .char (isInnerChar_of_isPlain hplain) hrest
      · exact .escape (isEscape_of_not_isPlain hplain (h c List.mem_cons_self)) hrest

/-- What is written for a character other than a hyphen or a digit may start an identifier. -/
theorem isStart_escapeChar (hblank : Text.isBlank c = false) (hhyphen : c ≠ '-')
    (hdigit : Text.isAsciiDigit c = false) : IsStart (escapeChar c) := by
  obtain ⟨hplain, hc⟩ | ⟨hplain, hc⟩ := escapeChar_cases c <;> rw [hc]
  · exact .char (isStartChar_of_isPlain hplain hhyphen hdigit)
  · exact .escape (isEscape_of_not_isPlain hplain hblank)

/-! ### Escaped names -/

/-- A digit at the start is written by an escape. -/
theorem isEscape_digit (h : Text.isAsciiDigit d) : IsEscape ['\\', '3', d, ' '] := by
  have hdigits : ∀ c ∈ ['3', d], (Text.hexValue? c).isSome := by
    simp only [List.forall_mem_cons]
    exact ⟨rfl, by rw [hexValue?_of_isAsciiDigit h]; rfl, nofun⟩
  have hescape : IsEscape ('\\' :: (['3', d] ++ [' '])) :=
    .code (List.cons_ne_nil '3' [d]) (by simp) hdigits (.inr rfl)
  exact hescape

/-- What is written for a name that starts with neither a hyphen nor a digit is an identifier. -/
theorem isIdentifier_of_start (hblank : ∀ d ∈ c :: name, Text.isBlank d = false) (hhyphen : c ≠ '-')
    (hdigit : Text.isAsciiDigit c = false) : IsIdentifier ((c :: name).flatMap escapeChar) := by
  obtain ⟨hc, hname⟩ := List.forall_mem_cons.1 hblank
  rw [List.flatMap_cons]
  exact .plain (isStart_escapeChar hc hhyphen hdigit) (isRest_flatMap hname)

/-- Behind a hyphen, too, an identifier may start. -/
theorem isIdentifier_of_hyphen (hblank : ∀ c ∈ d :: name, Text.isBlank c = false)
    (hdigit : Text.isAsciiDigit d = false) :
    IsIdentifier ('-' :: (d :: name).flatMap escapeChar) := by
  obtain ⟨hd, hname⟩ := List.forall_mem_cons.1 hblank
  rw [List.flatMap_cons]
  by_cases hhyphen : d = '-'
  · subst hhyphen
    exact .hyphens (isRest_flatMap hname)
  · exact .hyphen (isStart_escapeChar hd hhyphen hdigit) (isRest_flatMap hname)

/-- What is written for a lone hyphen, or for a hyphen before a digit, is no identifier. -/
theorem not_isIdentifier_escape (h : name = ['-'] ∨
    ∃ d rest, name = '-' :: d :: rest ∧ Text.isAsciiDigit d) : ¬ IsIdentifier (escape name) := by
  intro hidentifier
  obtain rfl | ⟨d, rest, rfl, hdigit⟩ := h
  · obtain ⟨c, rest, hnil, -⟩ := hidentifier.of_hyphen
    cases hnil
  · have hplain : escapeChar d = [d] := if_pos (isPlain_of_isAsciiDigit hdigit)
    have hescape : escape ('-' :: d :: rest) = '-' :: d :: rest.flatMap escapeChar := by
      rw [escape, List.flatMap_cons, List.flatMap_cons, hplain]
      rfl
    rw [hescape] at hidentifier
    obtain ⟨c, more, heq, hc⟩ := hidentifier.of_hyphen
    obtain ⟨rfl, -⟩ := List.cons.inj heq
    obtain rfl | hstart | rfl := hc
    · exact absurd hdigit (by decide)
    · exact not_isStartChar_of_isAsciiDigit hdigit hstart
    · exact absurd hdigit (by decide)

/-- **Identifiers.**  What is written for a class name, a word that is not empty, is an identifier
exactly if the name is no lone hyphen and does not start with a hyphen before a digit. -/
theorem isIdentifier_escape_iff (h : Text.isSolid name) :
    IsIdentifier (escape name) ↔
      name ≠ ['-'] ∧ ∀ d rest, name = '-' :: d :: rest → Text.isAsciiDigit d = false := by
  obtain ⟨hne, hblank⟩ := Text.isSolid_iff.1 h
  constructor
  · intro hidentifier
    refine ⟨fun hlone => ?_, fun d rest hname => Bool.eq_false_iff.2 fun hdigit => ?_⟩
    · exact not_isIdentifier_escape (.inl hlone) hidentifier
    · exact not_isIdentifier_escape (.inr ⟨d, rest, hname, hdigit⟩) hidentifier
  · rintro ⟨hlone, hbehind⟩
    obtain ⟨hescape, hstart⟩ | ⟨c, more, rfl, hdigit, hescape⟩ := escape_cases name <;> rw [hescape]
    · cases name with
      | nil => exact absurd rfl hne
      | cons c rest =>
          by_cases hhyphen : c = '-'
          · subst hhyphen
            cases rest with
            | nil => exact absurd rfl hlone
            | cons d rest =>
                have hrest := (List.forall_mem_cons.1 hblank).2
                exact isIdentifier_of_hyphen hrest (hbehind d rest rfl)
          · exact isIdentifier_of_start hblank hhyphen (by simpa using hstart)
    · have hrest := isRest_flatMap (List.forall_mem_cons.1 hblank).2
      exact .plain (.escape (isEscape_digit hdigit)) hrest

/-- A digit at the start is written by its code point; behind a hyphen it is not. -/
theorem isIdentifier_escape_iff_digit :
    Text.isSolid "2xl:p-4".toList ∧ IsIdentifier (escape "2xl:p-4".toList) ∧
      Text.isSolid "-2xl:p-4".toList ∧ ¬ IsIdentifier (escape "-2xl:p-4".toList) := by
  refine ⟨rfl, (isIdentifier_escape_iff rfl).2 ⟨by decide, ?_⟩, rfl, fun h => ?_⟩
  · rintro d rest hname
    cases hname
  · exact absurd (((isIdentifier_escape_iff rfl).1 h).2 '2' _ rfl) (by decide)

/-- A hyphen before a digit is written as it is. -/
theorem not_always_isIdentifier :
    ¬ ∀ name, name ≠ [] → (∀ c ∈ name, Text.isBlank c = false) → IsIdentifier (escape name) := by
  intro h
  have hsolid : Text.isSolid "-2xl:p-4".toList := rfl
  obtain ⟨hne, hblank⟩ := Text.isSolid_iff.1 hsolid
  exact not_isIdentifier_escape (.inr ⟨'2', "xl:p-4".toList, rfl, rfl⟩) (h _ hne hblank)

end UtilityCss.Selector

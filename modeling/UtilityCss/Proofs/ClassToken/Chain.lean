import UtilityCss.ClassToken.Basic
import UtilityCss.Proofs.ClassList.Joined

/-!
# Class tokens — a token behind a chain of variants

A chain of variants may be put before a token, as long as the colon behind each of them is the first
one at the top level (`Detaches`); for identifiers it is.  They are then its first variants
(`stripVariants_join`), and the flags that the token starts with stand after the chain, where they
are flags, too.  But what follows a flag is read differently: at the start of a token more variants
may follow it, while after the chain the utility begins (`stripVariants_of_isFlagged`).

So the chain is all that changes (`Distributes`) unless the token has variants of its own behind
flags at its start (`distributes_iff`); then they become part of the utility
(`readTrimmed_join_of_isFlagged`).
-/

namespace UtilityCss.ClassToken

/-! ### Identifiers -/

/-- A character of an identifier: an ASCII letter or digit, or a hyphen. -/
def isIdentifierChar (c : Char) : Bool :=
  Text.isAsciiAlphanumeric c || c == '-'

/-- A word of such characters that starts with a letter or a digit. -/
def isIdentifier : Text → Bool
  | [] => false
  | c :: rest => Text.isAsciiAlphanumeric c && rest.all isIdentifierChar

variable {c : Char} {t v rest : Text} {chain : List Text}

theorem toNat_of_isIdentifierChar (h : isIdentifierChar c) :
    c.toNat = 45 ∨ (48 ≤ c.toNat ∧ c.toNat ≤ 57) ∨ (65 ≤ c.toNat ∧ c.toNat ≤ 90) ∨
      (97 ≤ c.toNat ∧ c.toNat ≤ 122) := by
  simp only [isIdentifierChar, Text.isAsciiAlphanumeric, Bool.or_eq_true, Bool.and_eq_true,
    decide_eq_true_eq, beq_iff_eq, Char.le_def, UInt32.le_iff_toNat_le] at h
  rcases h with ((h | h) | h) | rfl
  · exact .inr (.inr (.inr h))
  · exact .inr (.inr (.inl h))
  · exact .inr (.inl h)
  · exact .inl rfl

/-- A character of an identifier is no blank, cuts nothing and is part of a name. -/
theorem facts_of_isIdentifierChar (h : isIdentifierChar c) :
    Text.isBlank c = false ∧ c ≠ ':' ∧ c ≠ '\\' ∧ ClassList.isFlat c ∧ isNameChar c := by
  have hne : ∀ d : Char, isIdentifierChar d = false → c ≠ d := by
    rintro d hd rfl
    exact absurd h (by simp [hd])
  have hcode := toNat_of_isIdentifierChar h
  refine ⟨?_, hne ':' rfl, hne '\\' rfl, ?_, ?_⟩
  · simp [Text.isBlank]
    omega
  · simp [ClassList.isFlat, ClassList.isOpener, ClassList.isCloser, hne '[' rfl, hne '(' rfl,
      hne ']' rfl, hne ')' rfl]
  · have hsmall : c.toNat < 128 := by omega
    simp only [isIdentifierChar, Bool.or_eq_true] at h
    rcases h with h | h
    · simp [isNameChar, Text.isWord, Text.isAlphanumeric, hsmall, h]
    · simp [isNameChar, h]

theorem isIdentifierChar_of_mem (h : isIdentifier v) (hc : c ∈ v) : isIdentifierChar c := by
  cases v with
  | nil => cases hc
  | cons d rest =>
      simp only [isIdentifier, Bool.and_eq_true, List.all_eq_true] at h
      rcases List.mem_cons.1 hc with rfl | hc
      · simp [isIdentifierChar, h.1]
      · exact h.2 c hc

theorem ne_nil_of_isIdentifier (h : isIdentifier v) : v ≠ [] := by
  rintro rfl
  cases h

/-- What a text that starts with neither `@` nor `[` must be to be a variant. -/
theorem isVariant_cons (hat : c ≠ '@') (hbracket : c ≠ '[') (rest : Text) :
    isVariant (c :: rest) =
      (Text.isAsciiAlphanumeric c && isNameEnd (rest.dropWhile isNameChar)) := by
  rw [isVariant, isPlainVariant] <;> simp [hat, hbracket]

/-- A variant starts with `@`, with `[`, or with a letter or a digit: no blank and no flag. -/
theorem ne_of_isVariant (h : isVariant (c :: rest)) :
    Text.isBlank c = false ∧ c ≠ '!' ∧ c ≠ '-' := by
  by_cases hat : c = '@'
  · subst hat
    decide
  by_cases hbracket : c = '['
  · subst hbracket
    decide
  rw [isVariant_cons hat hbracket, Bool.and_eq_true] at h
  have hchar : isIdentifierChar c := by simp [isIdentifierChar, h.1]
  refine ⟨(facts_of_isIdentifierChar hchar).1, ?_, ?_⟩ <;>
    · rintro rfl
      exact absurd h.1 (by decide)

/-- An identifier is a variant. -/
theorem isVariant_of_isIdentifier (h : isIdentifier v) : isVariant v := by
  cases v with
  | nil => cases h
  | cons c rest =>
      simp only [isIdentifier, Bool.and_eq_true, List.all_eq_true] at h
      obtain ⟨hc, hrest⟩ := h
      have hname : rest.dropWhile isNameChar = [] :=
        List.dropWhile_eq_nil_iff.2 fun d hd => (facts_of_isIdentifierChar (hrest d hd)).2.2.2.2
      have hat : c ≠ '@' := by rintro rfl; cases hc
      have hbracket : c ≠ '[' := by rintro rfl; cases hc
      rw [isVariant_cons hat hbracket, hc, hname]
      rfl

/-! ### Variants before a colon -/

/-- A variant whose end is seen by the colon behind it: that is the first one at the top level. -/
structure Detaches (v : Text) : Prop where
  variant : isVariant v
  colon : ClassList.topColon? (v ++ [':']) = some v.length

instance (v : Text) : Decidable (Detaches v) :=
  decidable_of_iff (isVariant v ∧ ClassList.topColon? (v ++ [':']) = some v.length)
    ⟨fun h => ⟨h.1, h.2⟩, fun h => ⟨h.variant, h.colon⟩⟩

/-- Whatever follows the colon, it is the first one. -/
theorem Detaches.breakColon? (h : Detaches v) (t : Text) :
    ClassList.breakColon? (v ++ ':' :: t) = some (v, t) := by
  obtain ⟨⟨head, tail⟩, hbreak, hlength⟩ := Option.map_eq_some_iff.1 h.colon
  obtain ⟨rfl, -⟩ := List.append_inj (ClassList.eq_of_breakColonAt? hbreak) hlength.symm
  exact ClassList.breakColonAt?_congr hbreak t

/-- A variant up to the first top-level colon of some text. -/
theorem detaches_of_breakColon? (hv : isVariant v)
    (h : ClassList.breakColon? t = some (v, rest)) : Detaches v := by
  have hbreak : ClassList.breakColon? (v ++ [':']) = some (v, []) :=
    ClassList.breakColonAt?_congr h []
  exact ⟨hv, by rw [ClassList.topColon?, hbreak]; rfl⟩

theorem detaches_of_isIdentifier (h : isIdentifier v) : Detaches v := by
  refine detaches_of_breakColon? (isVariant_of_isIdentifier h) (t := v ++ [':'])
    (ClassList.breakColon?_append (fun c hc => ?_) [])
  obtain ⟨-, hcolon, hbackslash, hflat, -⟩ :=
    facts_of_isIdentifierChar (isIdentifierChar_of_mem h hc)
  exact ⟨hcolon, hbackslash, hflat⟩

/-! ### Stripping variants -/

theorem stripVariants_of_variant (hbreak : ClassList.breakColon? t = some (v, rest))
    (hrest : rest ≠ []) (hv : isVariant v) :
    stripVariants t = (v :: (stripVariants rest).1, (stripVariants rest).2) := by
  rw [stripVariants]
  split
  next hnone => rw [hbreak] at hnone; cases hnone
  next head tail hsome =>
      rw [hbreak] at hsome
      cases hsome
      simp [hrest, hv]

theorem stripVariants_of_no_variant
    (h : ∀ v rest, ClassList.breakColon? t = some (v, rest) → rest = [] ∨ isVariant v = false) :
    stripVariants t = ([], t) := by
  rw [stripVariants]
  split
  next => rfl
  next head tail hsome => rcases h head tail hsome with hnil | hvariant <;> simp [*]

/-- Where no variants are stripped, everything is left. -/
theorem stripVariants_of_fst_eq_nil (h : (stripVariants t).1 = []) : stripVariants t = ([], t) := by
  refine stripVariants_of_no_variant fun v rest hbreak => ?_
  by_contra hvariant
  simp only [not_or, Bool.not_eq_false] at hvariant
  rw [stripVariants_of_variant hbreak hvariant.1 hvariant.2] at h
  cases h

/-- **A chain of variants** is stripped, and then what the token itself begins with. -/
theorem stripVariants_join (hchain : ∀ v ∈ chain, Detaches v) (ht : t ≠ []) :
    stripVariants (Text.join [':'] (chain ++ [t])) =
      (chain ++ (stripVariants t).1, (stripVariants t).2) := by
  induction chain with
  | nil => rfl
  | cons v chain ih =>
      have hv := hchain v List.mem_cons_self
      have hbreak : ClassList.breakColon? (Text.join [':'] (v :: (chain ++ [t]))) =
          some (v, Text.join [':'] (chain ++ [t])) := by
        rw [Text.join_cons (by simp), List.append_assoc, List.singleton_append]
        exact hv.breakColon? _
      rw [List.cons_append, stripVariants_of_variant hbreak (Text.join_concat_ne_nil ht) hv.variant,
        ih fun v' hv' => hchain v' (List.mem_cons_of_mem v hv')]
      rfl

/-! ### Flags -/

/-- The text starts with a flag. -/
def isFlagged (t : Text) : Bool :=
  t.head? == some '!' || isNegative t

/-- The flags at the start of a text, `!` before `-`, and what follows them. -/
def stripFlags (t : Text) : Bool × Bool × Text :=
  let (important, rest) := stripImportant false t
  let (negative, rest) := stripNegative false rest
  (important, negative, rest)

/-- Flags as they are written. -/
def writeFlags (important negative : Bool) : Text :=
  (if important then ['!'] else []) ++ if negative then ['-'] else []

theorem stripImportant_cases (t : Text) :
    (∃ rest, t = '!' :: rest ∧ stripImportant false t = (true, rest)) ∨
      (t.head? ≠ some '!' ∧ stripImportant false t = (false, t)) := by
  cases t with
  | nil => exact .inr ⟨nofun, rfl⟩
  | cons c rest =>
      by_cases hc : c = '!'
      · subst hc
        exact .inl ⟨rest, rfl, rfl⟩
      · exact .inr ⟨by simpa using hc, by simp [stripImportant, hc]⟩

theorem exists_cons_of_isNegative (h : isNegative t) : ∃ rest, t = '-' :: rest := by
  rw [isNegative, Bool.and_eq_true] at h
  cases t with
  | nil => cases h.1
  | cons c rest =>
      have hc : '-' = c := by
        by_contra hne
        simp [Text.startsWith, Text.dropStart?, hne] at h
      exact ⟨rest, by rw [hc]⟩

theorem stripNegative_cases (t : Text) :
    (∃ rest, t = '-' :: rest ∧ isNegative t ∧ stripNegative false t = (true, rest)) ∨
      (isNegative t = false ∧ stripNegative false t = (false, t)) := by
  cases hnegative : isNegative t with
  | false => exact .inr ⟨rfl, by simp [stripNegative, hnegative]⟩
  | true =>
      obtain ⟨rest, rfl⟩ := exists_cons_of_isNegative hnegative
      exact .inl ⟨rest, rfl, rfl, by simp [stripNegative, hnegative]⟩

/-- The flags and what follows them make up the text. -/
theorem writeFlags_stripFlags (t : Text) :
    writeFlags (stripFlags t).1 (stripFlags t).2.1 ++ (stripFlags t).2.2 = t := by
  rw [stripFlags]
  rcases stripImportant_cases t with ⟨rest, rfl, himportant⟩ | ⟨-, himportant⟩
  · rcases stripNegative_cases rest with ⟨rest, rfl, -, hnegative⟩ | ⟨-, hnegative⟩ <;>
      simp [himportant, hnegative, writeFlags]
  · rcases stripNegative_cases t with ⟨rest, rfl, -, hnegative⟩ | ⟨-, hnegative⟩ <;>
      simp [himportant, hnegative, writeFlags]

theorem strip_of_not_isFlagged (h : isFlagged t = false) :
    stripImportant false t = (false, t) ∧ stripNegative false t = (false, t) := by
  simp only [isFlagged, Bool.or_eq_false_iff, beq_eq_false_iff_ne] at h
  obtain ⟨himportant, hnegative⟩ := h
  rcases stripImportant_cases t with ⟨rest, rfl, -⟩ | ⟨-, hkept⟩
  · exact absurd rfl himportant
  · exact ⟨hkept, by simp [stripNegative, hnegative]⟩

theorem stripFlags_of_not_isFlagged (h : isFlagged t = false) :
    stripFlags t = (false, false, t) := by
  obtain ⟨himportant, hnegative⟩ := strip_of_not_isFlagged h
  simp [stripFlags, himportant, hnegative]

/-- A variant does not start with the character of a flag, so none is stripped there. -/
theorem stripVariants_of_flag (hc : c = '!' ∨ c = '-') (rest : Text) :
    stripVariants (c :: rest) = ([], c :: rest) := by
  refine stripVariants_of_no_variant fun v tail hbreak => .inr ?_
  have hsplit := ClassList.eq_of_breakColonAt? hbreak
  cases v with
  | nil => rfl
  | cons d v =>
      -- what stands before the colon starts with the flag
      obtain ⟨rfl, -⟩ := List.cons.inj hsplit
      refine Bool.eq_false_iff.2 fun hvariant => ?_
      obtain ⟨-, himportant, hnegative⟩ := ne_of_isVariant hvariant
      exact hc.elim himportant hnegative

/-- **Behind a flag** no variant starts, so none is stripped. -/
theorem stripVariants_of_isFlagged (h : isFlagged t) : stripVariants t = ([], t) := by
  rw [isFlagged, Bool.or_eq_true, beq_iff_eq] at h
  rcases h with himportant | hnegative
  · obtain ⟨rest, rfl⟩ := List.head?_eq_some_iff.1 himportant
    exact stripVariants_of_flag (.inl rfl) rest
  · obtain ⟨rest, rfl⟩ := exists_cons_of_isNegative hnegative
    exact stripVariants_of_flag (.inr rfl) rest

/-! ### Reading -/

theorem Limit.allows_of_le {limit : Limit} {m n : Nat} (h : limit.allows n) (hle : m ≤ n) :
    limit.allows m := by
  cases limit with
  | unlimited => rfl
  | atMost k =>
      simp only [Limit.allows, decide_eq_true_eq] at h ⊢
      omega

/-- A text within the limit, without blanks at its ends, is read as it is. -/
theorem read_of_trim {limit : Limit} (htrim : Text.trim t = t) (hlimit : limit.allows t.length) :
    read t limit = readTrimmed t := by
  rw [read, htrim]
  exact if_pos hlimit

/-- A token without variants is flags and a utility. -/
theorem readTrimmed_of_no_variants (h : (stripVariants (stripFlags t).2.2).1 = []) :
    readTrimmed t = { original := t, utility := (stripFlags t).2.2,
                      negative := (stripFlags t).2.1, important := (stripFlags t).1 } := by
  have hstrip := stripVariants_of_fst_eq_nil h
  rw [stripFlags] at hstrip ⊢
  simp [readTrimmed, hstrip]

/-- A token without a flag at its start has the flags that stand after its variants. -/
theorem readTrimmed_of_not_isFlagged (h : isFlagged t = false) :
    readTrimmed t = { original := t, variants := (stripVariants t).1,
                      utility := (stripFlags (stripVariants t).2).2.2,
                      negative := (stripFlags (stripVariants t).2).2.1,
                      important := (stripFlags (stripVariants t).2).1 } := by
  -- without variants the flags are looked for once, with them a second time after the chain
  by_cases hvariants : (stripVariants t).1 = []
  · have hflags := stripFlags_of_not_isFlagged h
    have hstrip := stripVariants_of_fst_eq_nil hvariants
    rw [readTrimmed_of_no_variants (by rwa [hflags]), hstrip]
  · obtain ⟨himportant, hnegative⟩ := strip_of_not_isFlagged h
    simp [readTrimmed, himportant, hnegative, hvariants, stripFlags]

theorem variants_readTrimmed (t : Text) :
    (readTrimmed t).variants = (stripVariants (stripFlags t).2.2).1 := by
  rw [readTrimmed, stripFlags]
  dsimp only
  split
  next hempty => exact (List.isEmpty_iff.1 hempty).symm
  next => rfl

/-! ### Behind a chain -/

theorem not_isFlagged_join (hne : chain ≠ []) (hchain : ∀ v ∈ chain, isVariant v) :
    isFlagged (Text.join [':'] (chain ++ [t])) = false := by
  cases chain with
  | nil => exact absurd rfl hne
  | cons v rest =>
      have hv := hchain v List.mem_cons_self
      rw [List.cons_append, Text.join_cons (by simp)]
      cases v with
      | nil => cases hv
      | cons c v =>
          obtain ⟨-, himportant, hnegative⟩ := ne_of_isVariant hv
          simp [isFlagged, isNegative, Text.startsWith, Text.dropStart?, himportant,
            Ne.symm hnegative]

/-- **A token behind a chain** has the variants of the chain before its own, and the flags that
follow these. -/
theorem readTrimmed_join (hne : chain ≠ []) (hchain : ∀ v ∈ chain, Detaches v) (ht : t ≠ []) :
    readTrimmed (Text.join [':'] (chain ++ [t])) =
      { original := Text.join [':'] (chain ++ [t]), variants := chain ++ (stripVariants t).1,
        utility := (stripFlags (stripVariants t).2).2.2,
        negative := (stripFlags (stripVariants t).2).2.1,
        important := (stripFlags (stripVariants t).2).1 } := by
  rw [readTrimmed_of_not_isFlagged (not_isFlagged_join hne fun v hv => (hchain v hv).variant),
    stripVariants_join hchain ht]

/-- A token is read behind a chain as it is read by itself, but for the variants of the chain, which
come before its own. -/
structure Distributes (chain : List Text) (own read : ClassToken) : Prop where
  variants : read.variants = chain ++ own.variants
  utility : read.utility = own.utility
  negative : read.negative = own.negative
  important : read.important = own.important

/-- **The chain is all that changes** exactly if the token does not start with a flag or has no
variants of its own. -/
theorem distributes_iff (hne : chain ≠ []) (hchain : ∀ v ∈ chain, isIdentifier v) (ht : t ≠ []) :
    Distributes chain (readTrimmed t) (readTrimmed (Text.join [':'] (chain ++ [t]))) ↔
      isFlagged t = false ∨ (readTrimmed t).variants = [] := by
  rw [readTrimmed_join hne (fun v hv => detaches_of_isIdentifier (hchain v hv)) ht]
  cases hflagged : isFlagged t with
  | false =>
      rw [readTrimmed_of_not_isFlagged hflagged]
      exact iff_of_true ⟨rfl, rfl, rfl, rfl⟩ (.inl rfl)
  | true =>
      -- behind the chain the flag hides the variants of the token, so there may be none
      rw [stripVariants_of_isFlagged hflagged]
      constructor
      · intro h
        have hvariants := h.variants
        exact .inr (List.append_cancel_left hvariants).symm
      · rintro (hnot | hnone)
        · cases hnot
        · rw [variants_readTrimmed] at hnone
          rw [readTrimmed_of_no_variants hnone]
          exact ⟨rfl, rfl, rfl, rfl⟩

/-- A token that starts with a flag has no other variants behind a chain than those of the chain;
its flags are those at its start, and all that follows them is the utility. -/
theorem readTrimmed_join_of_isFlagged (hne : chain ≠ []) (hchain : ∀ v ∈ chain, isIdentifier v)
    (hflagged : isFlagged t) :
    (readTrimmed (Text.join [':'] (chain ++ [t]))).variants = chain ∧
      stripFlags t = ((readTrimmed (Text.join [':'] (chain ++ [t]))).important,
        (readTrimmed (Text.join [':'] (chain ++ [t]))).negative,
        (readTrimmed (Text.join [':'] (chain ++ [t]))).utility) ∧
      t = writeFlags (readTrimmed (Text.join [':'] (chain ++ [t]))).important
          (readTrimmed (Text.join [':'] (chain ++ [t]))).negative ++
        (readTrimmed (Text.join [':'] (chain ++ [t]))).utility := by
  have ht : t ≠ [] := by
    rintro rfl
    cases hflagged
  rw [readTrimmed_join hne (fun v hv => detaches_of_isIdentifier (hchain v hv)) ht,
    stripVariants_of_isFlagged hflagged]
  exact ⟨List.append_nil chain, rfl, (writeFlags_stripFlags t).symm⟩

end UtilityCss.ClassToken

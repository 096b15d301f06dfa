import Mathlib.Data.List.Basic
import UtilityCss.Proofs.ClassToken.Decomposition

/-!
# Class tokens — writing a token and reading it again

A token is written with all its flags behind the variants (`text`).

* **Reading undoes writing** (`read_write`).  Variants that end at the colon behind them, a utility
  that has neither flags nor variants of its own, and any flags are read as they were written.  A
  negative token needs a utility that does not start with a hyphen: two hyphens are no flag.
* **Writing anew** (`sameParts_text_iff`).  A token that has been read may have had flags before its
  variants, which are written behind them now.  It has the same parts when it is read again, but for
  that same exception: `-md:-p-4` has the variant `md` and the utility `-p-4`, and is written as
  `md:--p-4`, which is not negative.

Both are about parts in which nothing is left for reading to take off (`Reduced`): that is so of a
utility that is read as itself, and of every token that has been read (`reduced_readTrimmed`).  How
such parts are read again is said once (`readTrimmed_text`, `sameParts_readTrimmed_iff`).
-/

namespace UtilityCss.ClassToken

variable {p : ClassToken} {t v rest utility : Text} {variants : List Text} {limit : Limit}

/-! ### Tokens as they are written -/

/-- The flags and the utility, as they stand behind the variants. -/
def body (p : ClassToken) : Text :=
  writeFlags p.important p.negative ++ p.utility

/-- The token written from its parts. -/
def text (p : ClassToken) : Text :=
  write p.utility p.variants p.negative p.important

theorem text_eq_joinVariants (p : ClassToken) : p.text = joinVariants p.body p.variants := by
  rw [text, write, body]
  cases p.negative <;> cases p.important <;> rfl

theorem text_of_no_variants (h : p.variants = []) : p.text = p.body := by
  rw [text_eq_joinVariants, h]
  rfl

/-- Two tokens have the same parts, whatever they were read from. -/
structure SameParts (p q : ClassToken) : Prop where
  variants : q.variants = p.variants
  utility : q.utility = p.utility
  negative : q.negative = p.negative
  important : q.important = p.important

/-! ### Flags that have been written -/

/-- A hyphen is a flag unless another one follows it. -/
theorem isNegative_cons (t : Text) : isNegative ('-' :: t) = (t.head? != some '-') := by
  cases t with
  | nil => rfl
  | cons c t =>
      by_cases hc : c = '-'
      · subst hc
        simp [isNegative, Text.startsWith, Text.dropStart?]
      · simp [isNegative, Text.startsWith, Text.dropStart?, hc, Ne.symm hc]

/-- Flags that are written before a text are the flags at its start, but for a hyphen before a
hyphen. -/
theorem stripFlags_writeFlags {important negative : Bool}
    (hbang : important = false → negative = false → t.head? ≠ some '!')
    (hhyphen : negative = false → isNegative t = false) :
    stripFlags (writeFlags important negative ++ t) =
      if negative = true ∧ t.head? = some '-' then (important, false, '-' :: t)
      else (important, negative, t) := by
  have hbefore : stripNegative false ('-' :: t) =
      if t.head? = some '-' then (false, '-' :: t) else (true, t) := by
    by_cases ht : t.head? = some '-' <;> simp [stripNegative, isNegative_cons, ht]
  have hmark : stripImportant false ('-' :: t) = (false, '-' :: t) := by simp [stripImportant]
  cases negative with
  | false =>
      have hkept : stripNegative false t = (false, t) := by simp [stripNegative, hhyphen rfl]
      cases important with
      | false =>
          have hflagged : isFlagged t = false := by simp [isFlagged, hbang rfl rfl, hhyphen rfl]
          simpa [writeFlags] using stripFlags_of_not_isFlagged hflagged
      | true => simp [stripFlags, stripImportant, writeFlags, hkept]
  | true =>
      cases important with
      | false =>
          simp only [stripFlags, writeFlags, if_true, Bool.false_eq_true, if_false,
            List.nil_append, List.cons_append, hmark, hbefore, true_and]
          split <;> rfl
      | true =>
          simp only [stripFlags, stripImportant, writeFlags, if_true, Bool.false_eq_true, if_false,
            List.nil_append, List.cons_append, hbefore, true_and]
          split <;> rfl

/-- Behind the flags that are taken off no further one is found, and a text that is not empty is
still there when they are written before what is left. -/
theorem of_stripMoreFlags {important negative important' negative' : Bool}
    (h : stripMoreFlags important negative t = (important', negative', rest)) :
    (important' = false → negative' = false → rest = t ∧ rest.head? ≠ some '!') ∧
      (negative' = false → isNegative rest = false) ∧
      (t ≠ [] → writeFlags important' negative' ++ rest ≠ []) := by
  obtain ⟨i, n, hi, -, hn, -, htext⟩ := stripMoreFlags_eq important negative t
  rw [h] at hi hn htext
  subst hi hn htext
  simp only [stripMoreFlags, Prod.mk.injEq] at h
  refine ⟨fun himportant hnegative => ?_, fun hnegative => ?_, fun ht hnil => ht ?_⟩
  · simp only [Bool.or_eq_false_iff] at himportant hnegative
    obtain ⟨rfl, rfl⟩ := himportant
    obtain ⟨rfl, rfl⟩ := hnegative
    refine ⟨rfl, fun hhead => ?_⟩
    obtain ⟨tail, rfl⟩ := List.head?_eq_some_iff.1 hhead
    cases h.1
  · rw [hnegative] at h
    rcases stripNegative_cases (stripImportant important (writeFlags i n ++ rest)).2 with
      ⟨tail, -, -, hstrip⟩ | ⟨hnot, hstrip⟩
    all_goals
      rw [(Bool.or_eq_false_iff.1 hnegative).1, hstrip] at h
      obtain ⟨-, hfound, hleft⟩ := h
    · cases hfound
    · rwa [← hleft]
  · revert hnil
    cases important <;> cases negative <;> cases i <;> cases n <;> simp [writeFlags]

/-! ### Reduced tokens -/

/-- Where no variant can be taken off, none is. -/
theorem stripVariants_of_lacksVariant (h : LacksVariant t) : stripVariants t = ([], t) := by
  refine stripVariants_of_no_variant fun v rest hcolon => ?_
  have htext := ClassList.eq_of_breakColonAt? hcolon
  rcases h v.length (by rw [ClassList.topColon?, hcolon]; rfl) with hfirst | hlast | hvariant
  · rw [List.length_eq_zero_iff.1 hfirst]
    exact .inr rfl
  · rw [htext, List.length_append, List.length_cons] at hlast
    exact .inl (List.length_eq_zero_iff.1 (by omega))
  · rw [htext, List.take_left] at hvariant
    exact .inr hvariant

theorem Stripped.detaches (h : Stripped t variants utility) : ∀ v ∈ variants, Detaches v := by
  induction h with
  | done => nofun
  | variant hcolon _ hv _ ih =>
      intro w hw
      rcases List.mem_cons.1 hw with rfl | hw
      · exact detaches_of_breakColon? hv hcolon
      · exact ih w hw

/-- Something is left behind variants. -/
theorem Stripped.ne_nil (h : Stripped t variants utility) (hvariants : variants ≠ []) :
    utility ≠ [] := by
  induction h with
  | done => exact absurd rfl hvariants
  | @variant t v rest utility variants _ hrest _ hstripped ih =>
      cases variants with
      | nil =>
          cases hstripped
          exact hrest
      | cons w variants => exact ih (List.cons_ne_nil w variants)

/-- Nothing is left in the parts that reading would take off: the variants end where they are cut,
and no flag or variant stands where one would be found. -/
structure Reduced (p : ClassToken) : Prop where
  detaches : ∀ v ∈ p.variants, Detaches v
  behind : p.variants ≠ [] → p.body ≠ []
  /-- Behind variants, a flag hides the variants of the utility. -/
  lacks : (p.variants = [] ∨ p.important = false ∧ p.negative = false) → LacksVariant p.utility
  bang : p.important = false → p.negative = false → p.utility.head? ≠ some '!'
  hyphen : p.negative = false → isNegative p.utility = false

/-- A token that has been read is reduced. -/
theorem reduced_readTrimmed (t : Text) : Reduced (readTrimmed t) := by
  have hstripped := stripped_stripVariants (stripFlags t).2.2
  by_cases hvariants : (stripVariants (stripFlags t).2.2).1 = []
  · have hflags : stripMoreFlags false false t =
        ((stripFlags t).1, (stripFlags t).2.1, (stripFlags t).2.2) := rfl
    obtain ⟨hnone, hnegative, -⟩ := of_stripMoreFlags hflags
    rw [stripVariants_of_fst_eq_nil hvariants] at hstripped
    rw [readTrimmed_of_no_variants hvariants]
    exact ⟨nofun, fun h => absurd rfl h, fun _ => hstripped.lacksVariant,
      fun hi hn => (hnone hi hn).2, hnegative⟩
  · have hflags : stripMoreFlags (stripFlags t).1 (stripFlags t).2.1
        (stripVariants (stripFlags t).2.2).2 =
          ((readTrimmed t).important, (readTrimmed t).negative, (readTrimmed t).utility) := by
      rw [readTrimmed_of_variants hvariants]
    obtain ⟨hnone, hnegative, hbehind⟩ := of_stripMoreFlags hflags
    rw [← variants_readTrimmed] at hstripped hvariants
    refine ⟨hstripped.detaches, fun _ => hbehind (hstripped.ne_nil hvariants), ?_,
      fun hi hn => (hnone hi hn).2, hnegative⟩
    rintro (hnil | ⟨hi, hn⟩)
    · exact absurd hnil hvariants
    · -- without flags the utility is all that is left behind the variants
      have hlacks := hstripped.lacksVariant
      rwa [← (hnone hi hn).1] at hlacks

/-- Of a reduced token no variants are taken off what is written behind its variants. -/
theorem Reduced.stripVariants_body (h : Reduced p) : stripVariants p.body = ([], p.body) := by
  cases himportant : p.important with
  | true => simpa [body, writeFlags, himportant] using stripVariants_of_flag (.inl rfl) _
  | false =>
      cases hnegative : p.negative with
      | true => simpa [body, writeFlags, himportant, hnegative] using
          stripVariants_of_flag (.inr rfl) _
      | false =>
          simpa [body, writeFlags, himportant, hnegative] using
            stripVariants_of_lacksVariant (h.lacks (.inr ⟨himportant, hnegative⟩))

/-- **A reduced token** is read with its variants, and with the flags at the start of what is
written behind them. -/
theorem readTrimmed_text (h : Reduced p) :
    readTrimmed p.text =
      { original := p.text, variants := p.variants, utility := (stripFlags p.body).2.2,
        negative := (stripFlags p.body).2.1, important := (stripFlags p.body).1 } := by
  by_cases hvariants : p.variants = []
  · have hflags := stripFlags_writeFlags h.bang h.hyphen
    have hnone : (stripVariants (stripFlags p.body).2.2).1 = [] := by
      rw [body, hflags]
      split
      · rw [stripVariants_of_flag (.inr rfl)]
      · rw [stripVariants_of_lacksVariant (h.lacks (.inl hvariants))]
    rw [text_of_no_variants hvariants, readTrimmed_of_no_variants hnone, hvariants]
  · have hread := readTrimmed_join hvariants h.detaches (h.behind hvariants)
    rw [h.stripVariants_body, List.append_nil] at hread
    rw [text_eq_joinVariants, joinVariants, hread]

/-- **Reduced parts** are read as they were written, unless a hyphen was written before a hyphen. -/
theorem sameParts_readTrimmed_iff (h : Reduced p) :
    SameParts p (readTrimmed p.text) ↔ ¬ (p.negative = true ∧ p.utility.head? = some '-') := by
  rw [readTrimmed_text h, body, stripFlags_writeFlags h.bang h.hyphen]
  split
  next hhyphens =>
      refine iff_of_false (fun hsame => ?_) (not_not_intro hhyphens)
      have hnegative := hsame.negative
      rw [hhyphens.1] at hnegative
      cases hnegative
  next hhyphens => exact iff_of_true ⟨rfl, rfl, rfl, rfl⟩ hhyphens

/-! ### Blanks and lengths -/

theorem joinVariants_ne_nil (ht : t ≠ []) (variants : List Text) : joinVariants t variants ≠ [] :=
  Text.join_concat_ne_nil ht

theorem getLast?_joinVariants (ht : t ≠ []) (variants : List Text) :
    (joinVariants t variants).getLast? = t.getLast? := by
  rw [joinVariants]
  by_cases hvariants : variants = []
  · rw [hvariants]
    rfl
  · rw [Text.join_concat hvariants, List.getLast?_append_of_ne_nil _ ht]

theorem length_joinVariants (t : Text) (variants : List Text) :
    (joinVariants t variants).length = (joinVariants [] variants).length + t.length := by
  rw [joinVariants, joinVariants]
  by_cases hvariants : variants = []
  · rw [hvariants]
    exact (Nat.zero_add _).symm
  · rw [Text.join_concat hvariants, Text.join_concat hvariants, List.append_nil,
      List.length_append]

/-- A flag is taken once, so the flags at two places can be counted together. -/
theorem length_writeFlags {i n i' n' : Bool} (hi : (i && i') = false) (hn : (n && n') = false) :
    (writeFlags (i || i') (n || n')).length =
      (writeFlags i n).length + (writeFlags i' n').length := by
  cases i <;> cases n <;> cases i' <;> cases n' <;> simp_all [writeFlags]

/-- Flags are no blanks. -/
theorem isBlank_of_mem_writeFlags {i n : Bool} {c : Char} (h : c ∈ writeFlags i n) :
    Text.isBlank c = false := by
  have hflag : c = '!' ∨ c = '-' := by
    revert h
    cases i <;> cases n <;> simp +contextual [writeFlags]
  rcases hflag with rfl | rfl <;> rfl

/-- A reduced token is written without blanks at the ends, if no blank stands at the end of the
utility, or at the start where there are no variants. -/
theorem Reduced.trim_text (h : Reduced p)
    (hfirst : p.variants = [] → ∀ c ∈ p.body.head?, Text.isBlank c = false)
    (hlast : ∀ c ∈ p.utility.getLast?, Text.isBlank c = false) : Text.trim p.text = p.text := by
  have hbody : ∀ c ∈ p.body.getLast?, Text.isBlank c = false := by
    intro c hc
    by_cases hutility : p.utility = []
    · rw [body, hutility, List.append_nil] at hc
      exact isBlank_of_mem_writeFlags (List.mem_of_mem_getLast? hc)
    · rw [body, List.getLast?_append_of_ne_nil _ hutility] at hc
      exact hlast c hc
  by_cases hvariants : p.variants = []
  · rw [text_of_no_variants hvariants]
    exact Text.trim_eq_self (hfirst hvariants) hbody
  · obtain ⟨v, rest, hchain⟩ := List.exists_cons_of_ne_nil hvariants
    have hv := (h.detaches v (by simp [hchain])).variant
    rw [text_eq_joinVariants]
    refine Text.trim_eq_self (fun c hc => ?_) fun c hc => hbody c ?_
    · cases v with
      | nil => cases hv
      | cons d v =>
          rw [hchain, joinVariants, List.cons_append, Text.join_cons (by simp)] at hc
          cases hc
          exact (ne_of_isVariant hv).1
    · rwa [getLast?_joinVariants (h.behind hvariants)] at hc

/-- Without variants a token is written as it was read. -/
theorem text_readTrimmed (h : (readTrimmed t).variants = []) : (readTrimmed t).text = t := by
  obtain ⟨i, n, i', n', hapart⟩ := exists_takenApart t
  obtain ⟨hi', hn'⟩ := hapart.behind h
  have htext := hapart.text
  rw [h, hi', hn'] at htext
  rw [text_of_no_variants h, body, hapart.important, hapart.negative, hi', hn', Bool.or_false,
    Bool.or_false]
  exact htext.symm

/-- A token is written as long as it was. -/
theorem length_text_readTrimmed (t : Text) : (readTrimmed t).text.length = t.length := by
  obtain ⟨i, n, i', n', hapart⟩ := exists_takenApart t
  have hlength := congrArg List.length hapart.text
  rw [List.length_append, length_joinVariants, List.length_append] at hlength
  rw [text_eq_joinVariants, length_joinVariants, body, List.length_append, hapart.important,
    hapart.negative, length_writeFlags hapart.important_once hapart.negative_once]
  omega

/-- A token ends as it did. -/
theorem getLast?_utility_readTrimmed (h : (readTrimmed t).utility ≠ []) :
    (readTrimmed t).utility.getLast? = t.getLast? := by
  obtain ⟨i, n, i', n', hapart⟩ := exists_takenApart t
  have hbehind : writeFlags i' n' ++ (readTrimmed t).utility ≠ [] :=
    List.append_ne_nil_of_right_ne_nil _ h
  have hlast := congrArg List.getLast? hapart.text
  rw [List.getLast?_append_of_ne_nil _ (joinVariants_ne_nil hbehind _),
    getLast?_joinVariants hbehind, List.getLast?_append_of_ne_nil _ h] at hlast
  exact hlast.symm

/-- A token that has been read is written without blanks at the ends. -/
theorem trim_text_readTrimmed (htrim : Text.trim t = t) :
    Text.trim (readTrimmed t).text = (readTrimmed t).text := by
  refine (reduced_readTrimmed t).trim_text (fun hvariants c hc => ?_) fun c hc => ?_
  · rw [← text_of_no_variants hvariants, text_readTrimmed hvariants, ← htrim] at hc
    exact Text.head?_trim t c hc
  · by_cases hutility : (readTrimmed t).utility = []
    · rw [hutility] at hc
      cases hc
    · rw [getLast?_utility_readTrimmed hutility, ← htrim] at hc
      exact Text.getLast?_trim t c hc

/-! ### Reading again -/

/-- Parts with a utility that is read as itself are reduced. -/
theorem reduced_of_bare (hvariants : ∀ v ∈ p.variants, Detaches v) (hne : p.utility ≠ [])
    (hbare : readTrimmed p.utility = { original := p.utility, utility := p.utility }) :
    Reduced p := by
  have hutility := reduced_readTrimmed p.utility
  rw [hbare] at hutility
  exact ⟨hvariants, fun _ => List.append_ne_nil_of_right_ne_nil _ hne,
    fun _ => hutility.lacks (.inl rfl), fun _ _ => hutility.bang rfl rfl,
    fun _ => hutility.hyphen rfl⟩

/-- The body of a token starts with a flag or as its utility does. -/
theorem isBlank_of_head?_body (hutility : ∀ c ∈ p.utility.head?, Text.isBlank c = false) :
    ∀ c ∈ p.body.head?, Text.isBlank c = false := by
  intro c hc
  rw [body, List.head?_append, Option.mem_def, Option.or_eq_some_iff] at hc
  rcases hc with hflag | ⟨-, hc⟩
  · exact isBlank_of_mem_writeFlags (List.mem_of_mem_head? hflag)
  · exact hutility c hc

/-- Parts with a utility that is read as itself are read as they were written. -/
theorem read_text_of_bare (hvariants : ∀ v ∈ p.variants, Detaches v) (hne : p.utility ≠ [])
    (hbare : read p.utility limit = { original := p.utility, utility := p.utility })
    (hhyphens : ¬ (p.negative = true ∧ p.utility.head? = some '-'))
    (hlimit : limit.allows p.text.length) : read p.text limit = { p with original := p.text } := by
  have hlength : p.utility.length ≤ p.text.length := by
    rw [text_eq_joinVariants, length_joinVariants, body, List.length_append]
    omega
  have htrim : Text.trim p.utility = p.utility := by
    have horiginal := original_read p.utility limit
    rw [hbare] at horiginal
    exact horiginal.symm
  have hfirst : ∀ c ∈ p.utility.head?, Text.isBlank c = false := by
    rw [← htrim]
    exact Text.head?_trim p.utility
  have hlast : ∀ c ∈ p.utility.getLast?, Text.isBlank c = false := by
    rw [← htrim]
    exact Text.getLast?_trim p.utility
  rw [read_of_trim htrim (Limit.allows_of_le hlimit hlength)] at hbare
  have hreduced : Reduced p := reduced_of_bare hvariants hne hbare
  have hwritten : Text.trim p.text = p.text :=
    hreduced.trim_text (fun _ => isBlank_of_head?_body hfirst) hlast
  rw [read_of_trim hwritten hlimit, readTrimmed_text hreduced, body,
    stripFlags_writeFlags hreduced.bang hreduced.hyphen, if_neg hhyphens]

/-- **Reading undoes writing.**  Let a token be written of variants that end at the colon behind
them and of a utility that is read as itself, with any flags, but not with a hyphen before a hyphen.
If it is within the limit, it is read as it was written. -/
theorem read_write {variants : List Text} {utility : Text} {negative important : Bool}
    {limit : Limit}
    (hvariants : ∀ v ∈ variants,
      isVariant v ∧ ClassList.topColon? (v ++ [':']) = some v.length)
    (hne : utility ≠ []) (hbare : read utility limit = { original := utility, utility })
    (hhyphens : ¬ (negative = true ∧ utility.head? = some '-'))
    (hlimit : limit.allows (write utility variants negative important).length) :
    read (write utility variants negative important) limit =
      { original := write utility variants negative important, variants, utility, negative,
        important } :=
  read_text_of_bare (p := { original := [], variants, utility, negative, important })
    (fun v hv => ⟨(hvariants v hv).1, (hvariants v hv).2⟩) hne hbare hhyphens hlimit

theorem read_write_brackets :
    (∀ v ∈ ["md".toList, "data-[a:b]".toList, "[&:hover]".toList],
      isVariant v ∧ ClassList.topColon? (v ++ [':']) = some v.length) ∧
    "w-[calc(1px)]".toList ≠ [] ∧
    read "w-[calc(1px)]".toList (.atMost 50) =
      { original := "w-[calc(1px)]".toList, utility := "w-[calc(1px)]".toList } ∧
    read (write "w-[calc(1px)]".toList ["md".toList, "data-[a:b]".toList, "[&:hover]".toList]
        true true) (.atMost 50) =
      { original := "md:data-[a:b]:[&:hover]:!-w-[calc(1px)]".toList,
        variants := ["md".toList, "data-[a:b]".toList, "[&:hover]".toList],
        utility := "w-[calc(1px)]".toList, negative := true, important := true } := by
  have hvariants : ∀ v ∈ ["md".toList, "data-[a:b]".toList, "[&:hover]".toList],
      isVariant v ∧ ClassList.topColon? (v ++ [':']) = some v.length := by
    decide
  have hbare : read "w-[calc(1px)]".toList (.atMost 50) =
      { original := "w-[calc(1px)]".toList, utility := "w-[calc(1px)]".toList } := by
    decide +kernel
  exact ⟨hvariants, by decide, hbare,
    read_write hvariants (by decide) hbare (by decide) (by decide)⟩

/-- **Writing anew.**  A token within the limit that is read, written from its parts and read again
has the same parts, unless it is negative and its utility starts with a hyphen. -/
theorem sameParts_text_iff {token : Text} {limit : Limit}
    (hlimit : limit.allows (Text.trim token).length) :
    SameParts (read token limit) (read (read token limit).text limit) ↔
      ¬ ((read token limit).negative = true ∧
        (read token limit).utility.head? = some '-') := by
  have hread : read token limit = readTrimmed (Text.trim token) := by
    rw [read]
    exact if_pos hlimit
  have htrim := trim_text_readTrimmed (Text.trim_trim token)
  rw [hread, read_of_trim htrim (by rwa [length_text_readTrimmed])]
  exact sameParts_readTrimmed_iff (reduced_readTrimmed (Text.trim token))

/-- The exception is met: the hyphen of `-p-4` is not the flag any more. -/
theorem sameParts_text_iff_hyphens :
    ((Limit.atMost 20).allows (Text.trim " -md:-p-4 ".toList).length ∧
      (read " -md:-p-4 ".toList (.atMost 20)).text = "md:--p-4".toList ∧
      ¬ SameParts (read " -md:-p-4 ".toList (.atMost 20)) (read "md:--p-4".toList (.atMost 20))) ∧
    ((Limit.atMost 20).allows (Text.trim "-md:!p-4".toList).length ∧
      (read "-md:!p-4".toList (.atMost 20)).text = "md:!-p-4".toList ∧
      SameParts (read "-md:!p-4".toList (.atMost 20)) (read "md:!-p-4".toList (.atMost 20))) := by
  have hread : read " -md:-p-4 ".toList (.atMost 20) =
      { original := "-md:-p-4".toList, variants := ["md".toList], utility := "-p-4".toList,
        negative := true } := by
    decide +kernel
  have hread' : read "-md:!p-4".toList (.atMost 20) =
      { original := "-md:!p-4".toList, variants := ["md".toList], utility := "p-4".toList,
        negative := true, important := true } := by
    decide +kernel
  have hlimit : (Limit.atMost 20).allows (Text.trim " -md:-p-4 ".toList).length := by decide
  have hlimit' : (Limit.atMost 20).allows (Text.trim "-md:!p-4".toList).length := by decide
  have hlost := sameParts_text_iff hlimit
  have hkept := sameParts_text_iff hlimit'
  rw [hread] at hlost ⊢
  rw [hread'] at hkept ⊢
  exact ⟨⟨hlimit, rfl, mt hlost.1 (by decide)⟩, hlimit', rfl, hkept.2 (by decide)⟩

end UtilityCss.ClassToken

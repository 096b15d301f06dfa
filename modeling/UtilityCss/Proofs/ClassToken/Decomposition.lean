import UtilityCss.Proofs.ClassToken.Chain

/-!
# Class tokens — nothing is lost in reading

A token is taken apart into flags, variants with a colon after each, flags again and a utility, and
these make up its text.

**Decomposition** (`read_takenApart`).  A token within the limit is read so that its parts, put
together, give its text back; a flag counts wherever it stands and is taken once; every variant goes
up to the first top-level colon of what is left there; and no variant is left in front of the
utility.

`Stripped` is the relation of a text to the variants that are taken off its start and to the rest,
with one constructor for each turn of the loop.  The flags are taken off in two places; at the
second one, those that have been found at the first are left alone (`stripMoreFlags_eq`).
-/

namespace UtilityCss.ClassToken

variable {t v rest utility : Text} {variants before after : List Text}

/-! ### Variants -/

/-- No variant can be taken off the start: the first top-level colon, if there is one, is the first
or the last character, or what stands before it is no variant. -/
def LacksVariant (t : Text) : Prop :=
  ∀ i, ClassList.topColon? t = some i → i = 0 ∨ i + 1 = t.length ∨ isVariant (t.take i) = false

/-- The variants that are taken off the start of a text, one after the other, and what is left. -/
inductive Stripped : Text → List Text → Text → Prop where
  | done {t : Text} (hlacks : LacksVariant t) : Stripped t [] t
  | variant {t v rest utility : Text} {variants : List Text}
      (hcolon : ClassList.breakColon? t = some (v, rest)) (hrest : rest ≠ []) (hv : isVariant v)
      (h : Stripped rest variants utility) : Stripped t (v :: variants) utility

theorem lacksVariant_of_breakColon?
    (h : ∀ v rest, ClassList.breakColon? t = some (v, rest) → rest = [] ∨ isVariant v = false) :
    LacksVariant t := by
  intro i hi
  obtain ⟨⟨v, rest⟩, hcolon, rfl⟩ := Option.map_eq_some_iff.1 hi
  have htext := ClassList.eq_of_breakColonAt? hcolon
  rcases h v rest hcolon with hnil | hvariant
  · exact .inr (.inl (by simp [htext, hnil]))
  · exact .inr (.inr (by simpa [htext] using hvariant))

/-- **The loop** takes off what the relation says. -/
theorem stripped_stripVariants (t : Text) :
    Stripped t (stripVariants t).1 (stripVariants t).2 := by
  fun_induction stripVariants t with
  | case1 t hnone =>
      refine .done (lacksVariant_of_breakColon? fun v rest hcolon => ?_)
      rw [hnone] at hcolon
      cases hcolon
  | case2 t v rest hcolon _ hstop =>
      refine .done (lacksVariant_of_breakColon? fun v' rest' hcolon' => ?_)
      rw [hcolon] at hcolon'
      cases hcolon'
      simpa using hstop
  | case3 t v rest hcolon _ hgo variants utility hrest ih =>
      rw [hrest] at ih
      simp only [Bool.or_eq_true, not_or, List.isEmpty_iff, Bool.not_eq_true', Bool.not_eq_false]
        at hgo
      exact .variant hcolon hgo.1 hgo.2 ih

/-- The variants and what is left make up the text. -/
theorem Stripped.eq_joinVariants (h : Stripped t variants utility) :
    t = joinVariants utility variants := by
  induction h with
  | done => rfl
  | variant hcolon _ _ _ ih =>
      rw [ClassList.eq_of_breakColonAt? hcolon, ih, joinVariants, joinVariants, List.cons_append,
        Text.join_cons (by simp), List.append_assoc, List.singleton_append]

/-- From every variant on, the text is that variant and the rest, cut at the first top-level
colon. -/
theorem Stripped.of_append (h : Stripped t variants utility)
    (hvariants : variants = before ++ v :: after) :
    isVariant v ∧
      ClassList.breakColon? (joinVariants utility (v :: after)) =
        some (v, joinVariants utility after) := by
  induction h generalizing before with
  | done => exact absurd hvariants (by simp)
  | variant hcolon hrest hv hstripped ih =>
      cases before with
      | nil =>
          obtain ⟨rfl, rfl⟩ := List.cons.inj hvariants
          rw [← hstripped.eq_joinVariants,
            ← (Stripped.variant hcolon hrest hv hstripped).eq_joinVariants]
          exact ⟨hv, hcolon⟩
      | cons w before => exact ih (List.cons.inj hvariants).2

theorem Stripped.lacksVariant (h : Stripped t variants utility) : LacksVariant utility := by
  induction h with
  | done hlacks => exact hlacks
  | variant _ _ _ _ ih => exact ih

/-! ### Flags -/

/-- Takes flags off the start of a text, but none that has been found already. -/
def stripMoreFlags (important negative : Bool) (t : Text) : Bool × Bool × Text :=
  let (important, rest) := stripImportant important t
  let (negative, rest) := stripNegative negative rest
  (important, negative, rest)

theorem stripImportant_eq (important : Bool) (t : Text) :
    ∃ i, (stripImportant important t).1 = (important || i) ∧ (important && i) = false ∧
      t = writeFlags i false ++ (stripImportant important t).2 := by
  cases important with
  | true =>
      have hkept : stripImportant true t = (true, t) := by
        unfold stripImportant
        split <;> rfl
      exact ⟨false, by simp [hkept, writeFlags]⟩
  | false =>
      rcases stripImportant_cases t with ⟨rest, rfl, hstrip⟩ | ⟨-, hstrip⟩
      · exact ⟨true, by simp [hstrip, writeFlags]⟩
      · exact ⟨false, by simp [hstrip, writeFlags]⟩

theorem stripNegative_eq (negative : Bool) (t : Text) :
    ∃ n, (stripNegative negative t).1 = (negative || n) ∧ (negative && n) = false ∧
      t = writeFlags false n ++ (stripNegative negative t).2 := by
  cases negative with
  | true => exact ⟨false, by simp [stripNegative, writeFlags]⟩
  | false =>
      rcases stripNegative_cases t with ⟨rest, rfl, -, hstrip⟩ | ⟨-, hstrip⟩
      · exact ⟨true, by simp [hstrip, writeFlags]⟩
      · exact ⟨false, by simp [hstrip, writeFlags]⟩

/-- What is taken off is written before what is left, and no flag is found twice. -/
theorem stripMoreFlags_eq (important negative : Bool) (t : Text) :
    ∃ i n, (stripMoreFlags important negative t).1 = (important || i) ∧
      (important && i) = false ∧ (stripMoreFlags important negative t).2.1 = (negative || n) ∧
      (negative && n) = false ∧
      t = writeFlags i n ++ (stripMoreFlags important negative t).2.2 := by
  obtain ⟨i, hi, hionce, htext⟩ := stripImportant_eq important t
  obtain ⟨n, hn, hnonce, hrest⟩ := stripNegative_eq negative (stripImportant important t).2
  refine ⟨i, n, hi, hionce, hn, hnonce, ?_⟩
  -- `!` is looked for before `-`, so the flags stand in the order in which they are written
  calc t = writeFlags i false ++ (stripImportant important t).2 := htext
    _ = writeFlags i false ++ (writeFlags false n ++
          (stripNegative negative (stripImportant important t).2).2) := by rw [← hrest]
    _ = writeFlags i n ++ (stripMoreFlags important negative t).2.2 := by
        simp [writeFlags, stripMoreFlags]

/-- A token with variants may have more flags behind them. -/
theorem readTrimmed_of_variants (h : (stripVariants (stripFlags t).2.2).1 ≠ []) :
    readTrimmed t =
      let (important, negative, rest) := stripFlags t
      let (important, negative, utility) :=
        stripMoreFlags important negative (stripVariants rest).2
      { original := t, variants := (stripVariants rest).1, utility, negative, important } := by
  simp only [stripFlags] at h
  simp [readTrimmed, stripFlags, stripMoreFlags, h]

/-! ### Reading -/

/-- How a text is taken apart: the flags `!` and `-` in front of the variants, if `i` and `n` say
so, and the flags behind them, if `i'` and `n'` do. -/
structure TakenApart (t : Text) (p : ClassToken) (i n i' n' : Bool) : Prop where
  original : p.original = t
  /-- The parts make up the text. -/
  text : t = writeFlags i n ++ joinVariants (writeFlags i' n' ++ p.utility) p.variants
  /-- The flags in front are all that the text starts with. -/
  front : stripFlags t = (i, n, joinVariants (writeFlags i' n' ++ p.utility) p.variants)
  important : p.important = (i || i')
  important_once : (i && i') = false
  negative : p.negative = (n || n')
  negative_once : (n && n') = false
  /-- Without variants there is one place for flags only. -/
  behind : p.variants = [] → i' = false ∧ n' = false
  /-- A variant goes up to the first top-level colon of what is left there. -/
  variants : ∀ before v after, p.variants = before ++ v :: after → isVariant v ∧
    ClassList.topColon? (joinVariants (writeFlags i' n' ++ p.utility) (v :: after)) =
      some v.length
  /-- As many variants are taken off as there are. -/
  utility : LacksVariant (writeFlags i' n' ++ p.utility)

/-- A text is taken apart as its flags and its variants are taken off. -/
theorem takenApart_of_stripped {p : ClassToken} {i n i' n' : Bool} (horiginal : p.original = t)
    (hfront : stripFlags t = (i, n, rest))
    (hstripped : Stripped rest p.variants (writeFlags i' n' ++ p.utility))
    (himportant : p.important = (i || i')) (hionce : (i && i') = false)
    (hnegative : p.negative = (n || n')) (hnonce : (n && n') = false)
    (hbehind : p.variants = [] → i' = false ∧ n' = false) : TakenApart t p i n i' n' := by
  have hwritten := writeFlags_stripFlags t
  have hjoined := hstripped.eq_joinVariants
  rw [hfront, hjoined] at hwritten
  refine ⟨horiginal, hwritten.symm, by rw [hfront, ← hjoined], himportant, hionce, hnegative,
    hnonce, hbehind, ?_, hstripped.lacksVariant⟩
  intro before v after hvariants
  obtain ⟨hv, hcolon⟩ := hstripped.of_append hvariants
  exact ⟨hv, by rw [ClassList.topColon?, hcolon]; rfl⟩

/-- A trimmed token is taken apart. -/
theorem exists_takenApart (t : Text) : ∃ i n i' n', TakenApart t (readTrimmed t) i n i' n' := by
  have hstripped := stripped_stripVariants (stripFlags t).2.2
  by_cases hvariants : (stripVariants (stripFlags t).2.2).1 = []
  · -- all that follows the flags is the utility
    rw [stripVariants_of_fst_eq_nil hvariants] at hstripped
    rw [readTrimmed_of_no_variants hvariants]
    exact ⟨(stripFlags t).1, (stripFlags t).2.1, false, false,
      takenApart_of_stripped rfl rfl hstripped (by simp) (by simp) (by simp) (by simp)
        fun _ => ⟨rfl, rfl⟩⟩
  · obtain ⟨i', n', hi, hionce, hn, hnonce, htext⟩ :=
      stripMoreFlags_eq (stripFlags t).1 (stripFlags t).2.1 (stripVariants (stripFlags t).2.2).2
    rw [htext] at hstripped
    rw [readTrimmed_of_variants hvariants]
    exact ⟨(stripFlags t).1, (stripFlags t).2.1, i', n',
      takenApart_of_stripped rfl rfl hstripped hi hionce hn hnonce
        fun hnone => absurd hnone hvariants⟩

/-- A token keeps its text without the blanks around it, whatever the limit is. -/
theorem original_read (token : Text) (limit : Limit) :
    (read token limit).original = Text.trim token := by
  rw [read]
  split
  · obtain ⟨i, n, i', n', hapart⟩ := exists_takenApart (Text.trim token)
    exact hapart.original
  · rfl

/-- **Decomposition.**  A token within the limit keeps its text without the blanks around it, and
that text is made up of flags, the variants with a colon after each, more flags and the utility.
Each flag is found where it stands and once only; without variants all flags stand in front.  Every
variant goes up to the first top-level colon of what is left there, and behind them no further one
can be taken off. -/
theorem read_takenApart {token : Text} {limit : Limit}
    (hlimit : limit.allows (Text.trim token).length) :
    (read token limit).original = Text.trim token ∧
      ∃ i n i' n', TakenApart (Text.trim token) (read token limit) i n i' n' := by
  have hread : read token limit = readTrimmed (Text.trim token) := by
    rw [read]
    exact if_pos hlimit
  obtain ⟨i, n, i', n', hapart⟩ := exists_takenApart (Text.trim token)
  rw [hread]
  exact ⟨hapart.original, i, n, i', n', hapart⟩

theorem read_takenApart_nested :
    (Limit.atMost 20).allows (Text.trim " -md:[a:b]:!w-[c:d] ".toList).length ∧
      read " -md:[a:b]:!w-[c:d] ".toList (.atMost 20) =
        { original := "-md:[a:b]:!w-[c:d]".toList, variants := ["md".toList, "[a:b]".toList],
          utility := "w-[c:d]".toList, negative := true, important := true } ∧
      ∃ i n i' n', TakenApart (Text.trim " -md:[a:b]:!w-[c:d] ".toList)
        (read " -md:[a:b]:!w-[c:d] ".toList (.atMost 20)) i n i' n' := by
  have hlimit : (Limit.atMost 20).allows (Text.trim " -md:[a:b]:!w-[c:d] ".toList).length := by
    decide
  exact ⟨hlimit, by decide +kernel, (read_takenApart hlimit).2⟩

end UtilityCss.ClassToken

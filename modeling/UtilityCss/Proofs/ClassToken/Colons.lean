import UtilityCss.Proofs.ClassToken.Decomposition

/-!
# Class tokens — colons at the top level

The colons of a token are looked for in two ways: one splits the whole text at its top-level colons
and drops empty pieces, the other goes up to the first of them only, and the variants are taken off
by it.

**The two agree** (`splitOn_colon`).  In a text without backslashes, what stands before the first
top-level colon is the first piece, unless it is empty, and the others are those of what follows the
colon; a text without such a colon is one piece.  So the variants of a token without a flag at its
start are its first pieces.

A backslash hides the character after it from the second way only.  Without one, the text is uncut
up to the colon that is found (`uncutFrom_of_breakColonAt?`).
-/

namespace UtilityCss

namespace ClassList

variable {depth : Nat} {t head tail : Text}

/-- A text in which no colon is found is not cut at colons. -/
theorem uncutFrom_of_breakColonAt?_eq_none (hbackslash : '\\' ∉ t)
    (h : breakColonAt? depth t = none) : UncutFrom (· == ':') depth t := by
  induction t generalizing depth with
  | nil => exact uncutFrom_nil _ depth
  | cons c t ih =>
      rw [List.mem_cons, not_or] at hbackslash
      rw [breakColonAt?_cons (Ne.symm hbackslash.1)] at h
      split at h
      next => cases h
      next hcut =>
          refine uncutFrom_cons_iff.2 ⟨fun hc hdepth => hcut ?_,
            ih hbackslash.2 (Option.map_eq_none_iff.1 h)⟩
          simp [hc, hdepth]

/-- The first colon that is found is the first cut. -/
theorem uncutFrom_of_breakColonAt? (hbackslash : '\\' ∉ t)
    (h : breakColonAt? depth t = some (head, tail)) :
    UncutFrom (· == ':') depth head ∧ head.foldl depthAfter depth = 0 := by
  induction t generalizing depth head with
  | nil => cases h
  | cons c t ih =>
      rw [List.mem_cons, not_or] at hbackslash
      rw [breakColonAt?_cons (Ne.symm hbackslash.1)] at h
      split at h
      next hcut =>
          cases h
          simp only [Bool.and_eq_true, beq_iff_eq] at hcut
          exact ⟨uncutFrom_nil _ depth, hcut.2⟩
      next hcut =>
          obtain ⟨⟨first, rest⟩, hfirst, heq⟩ := Option.map_eq_some_iff.1 h
          cases heq
          obtain ⟨huncut, hdepth⟩ := ih hbackslash.2 hfirst
          refine ⟨uncutFrom_cons_iff.2 ⟨fun hc hzero => hcut ?_, huncut⟩, hdepth⟩
          simp [hc, hzero]

theorem splitOn_of_breakColon?_eq_none (hbackslash : '\\' ∉ t) (h : breakColon? t = none) :
    splitOn [':'] t = Text.attach t [] := by
  rw [splitOn_eq_splitTop rfl rfl]
  exact splitTop_of_uncut (uncutFrom_of_breakColonAt?_eq_none hbackslash h)

/-- **The first colon** divides a text into its first piece and those of what follows. -/
theorem splitOn_of_breakColon? (hbackslash : '\\' ∉ t) (h : breakColon? t = some (head, tail)) :
    splitOn [':'] t = Text.attach head (splitOn [':'] tail) := by
  obtain ⟨huncut, hdepth⟩ := uncutFrom_of_breakColonAt? hbackslash h
  rw [eq_of_breakColonAt? h, splitOn_eq_splitTop rfl rfl, splitOn_eq_splitTop rfl rfl]
  exact splitTop_cut huncut hdepth rfl tail

end ClassList

namespace ClassToken

open ClassList

variable {t utility : Text} {variants : List Text}

/-- **The variants** that are taken off are the first pieces, one with each colon. -/
theorem Stripped.prefix_splitOn (h : Stripped t variants utility) (hbackslash : '\\' ∉ t) :
    variants <+: splitOn [':'] t := by
  induction h with
  | done => exact List.nil_prefix
  | @variant t v rest utility variants hcolon hrest hv hstripped ih =>
      have htext := eq_of_breakColonAt? hcolon
      have hbehind : '\\' ∉ rest := fun hmem => hbackslash (by simp [htext, hmem])
      have hne : v ≠ [] := by
        rintro rfl
        cases hv
      rw [splitOn_of_breakColon? hbackslash hcolon]
      simpa [Text.attach, hne] using ih hbehind

theorem variants_read_prefix {limit : Limit} (hbackslash : '\\' ∉ t)
    (hlimit : limit.allows t.length) (htrim : Text.trim t = t) (hflag : isFlagged t = false) :
    (read t limit).variants <+: splitOn [':'] t := by
  rw [read_of_trim htrim hlimit, readTrimmed_of_not_isFlagged hflag]
  exact (stripped_stripVariants t).prefix_splitOn hbackslash

/-- **The two ways of looking for colons agree** on a text without backslashes.  A text without a
top-level colon is one piece, or none if it is empty.  Otherwise what stands before the first
top-level colon is a piece, unless it is empty, and the others are the pieces of what follows.  So
the variants of a token, within the limit, without blanks at its ends and a flag at its start, are
its first pieces. -/
theorem splitOn_colon (hbackslash : '\\' ∉ t) :
    (topColon? t = none → splitOn [':'] t = if t = [] then [] else [t]) ∧
    (∀ i, topColon? t = some i → splitOn [':'] t =
      (if i = 0 then [] else [t.take i]) ++ splitOn [':'] (t.drop (i + 1))) ∧
    ∀ limit : Limit, limit.allows t.length → Text.trim t = t → isFlagged t = false →
      (read t limit).variants <+: splitOn [':'] t := by
  refine ⟨fun hnone => ?_, fun i hi => ?_, fun limit => variants_read_prefix hbackslash⟩
  · rw [splitOn_of_breakColon?_eq_none hbackslash (Option.map_eq_none_iff.1 hnone), Text.attach]
    simp
  · obtain ⟨⟨head, tail⟩, hcolon, rfl⟩ := Option.map_eq_some_iff.1 hi
    have htext := eq_of_breakColonAt? hcolon
    have htake : t.take head.length = head := by simp [htext]
    have hdrop : t.drop (head.length + 1) = tail := by simp [htext]
    rw [splitOn_of_breakColon? hbackslash hcolon, htake, hdrop]
    cases head <;> rfl

/-- Variants with a bracketed colon, and then a colon with nothing before it. -/
theorem splitOn_colon_brackets :
    let t := "md:[&:hover]:a::b]:c".toList
    '\\' ∉ t ∧ topColon? t = some 2 ∧ Text.trim t = t ∧ isFlagged t = false ∧
      (read t (.atMost 20)).variants = ["md".toList, "[&:hover]".toList, "a".toList] ∧
      splitOn [':'] t = "md".toList :: splitOn [':'] "[&:hover]:a::b]:c".toList ∧
      (read t (.atMost 20)).variants <+: splitOn [':'] t := by
  intro t
  have hbackslash : '\\' ∉ t := by decide +kernel
  have hcolon : topColon? t = some 2 := by decide +kernel
  have htrim : Text.trim t = t := by decide +kernel
  obtain ⟨-, hsplit, hvariants⟩ := splitOn_colon hbackslash
  exact ⟨hbackslash, hcolon, htrim, rfl, by decide +kernel, hsplit 2 hcolon,
    hvariants (.atMost 20) (by decide +kernel) htrim rfl⟩

end ClassToken

end UtilityCss

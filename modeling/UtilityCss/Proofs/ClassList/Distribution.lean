import Mathlib.Data.List.Forall2
import UtilityCss.Proofs.ClassList.Forest
import UtilityCss.Proofs.ClassToken.Chain

/-!
# Class lists — what a group does to its tokens

A group `md:hover:(a b)` is read as its tokens behind its chain (`readTokens_writeGroup`).  This is
the same as to read the tokens by themselves and to put the variants of the chain before their own,
with one exception: `hover:(!md:p-4)` stands for `hover:!md:p-4`, and there `md:p-4` is the utility,
while `!md:p-4` by itself has the variant `md` (`not_always_distributes`).

**Distribution** (`readTokens_group`).  The chain is all that changes for a token exactly if the
token does not start with a flag or has no variants of its own.  A token that starts with a flag has
the variants of the chain only, and all that follows its flags is the utility.
-/

namespace UtilityCss.ClassList

open ClassToken (isIdentifier isFlagged stripFlags writeFlags Distributes)

variable {chain tokens : List Text} {t token : Text} {limit : ClassToken.Limit}

/-! ### Bare tokens -/

/-- A character of a bare token: no blank, no backslash and no bracket. -/
def isBareChar (c : Char) : Bool :=
  isPlainChar c && isFlat c

/-- A bare token: not empty, and of such characters only. -/
def isBare (t : Text) : Bool :=
  !t.isEmpty && t.all isBareChar

theorem isBare_iff : isBare t ↔ t ≠ [] ∧ ∀ c ∈ t, isBareChar c := by
  simp [isBare]

theorem depthThrough?_of_isFlat (h : ∀ c ∈ t, isFlat c) (depth : Nat) :
    depthThrough? depth t = some depth := by
  induction t with
  | nil => rfl
  | cons c t ih =>
      have hc := h c List.mem_cons_self
      simp [isFlat, isOpener, isCloser] at hc
      rw [depthThrough?, ih fun d hd => h d (List.mem_cons_of_mem c hd)]
      simp [hc]

/-- A bare token is plain. -/
theorem isPlain_of_isBare (h : isBare t) : isPlain t := by
  obtain ⟨hne, hbare⟩ := isBare_iff.1 h
  simp only [isBareChar, Bool.and_eq_true] at hbare
  simp only [isPlain, Bool.and_eq_true, List.all_eq_true, beq_iff_eq, Bool.not_eq_true',
    List.isEmpty_eq_false_iff]
  exact ⟨⟨hne, fun c hc => (hbare c hc).1⟩, depthThrough?_of_isFlat (fun c hc => (hbare c hc).2) 0⟩

/-- A bare token is a word. -/
theorem isSolid_of_isBare (h : isBare t) : Text.isSolid t := by
  obtain ⟨hne, hbare⟩ := isBare_iff.1 h
  refine Text.isSolid_iff.2 ⟨hne, fun c hc => ?_⟩
  have hc := hbare c hc
  simp [isBareChar, isPlainChar] at hc
  exact hc.1.1

theorem isBare_of_isIdentifier (h : isIdentifier t) : isBare t := by
  refine isBare_iff.2 ⟨ClassToken.ne_nil_of_isIdentifier h, fun c hc => ?_⟩
  obtain ⟨hblank, -, hbackslash, hflat, -⟩ :=
    ClassToken.facts_of_isIdentifierChar (ClassToken.isIdentifierChar_of_mem h hc)
  simp [isBareChar, isPlainChar, hblank, hbackslash, hflat]

/-- Bare tokens that are joined by colons are one bare token. -/
theorem isBare_join {ts : List Text} (hne : ts ≠ []) (h : ∀ t ∈ ts, isBare t) :
    isBare (Text.join [':'] ts) := by
  refine isBare_iff.2 ⟨?_, fun c hc => ?_⟩
  · obtain ⟨before, last, rfl⟩ : ∃ before last, ts = before ++ [last] :=
      ⟨ts.dropLast, ts.getLast hne, (List.dropLast_concat_getLast hne).symm⟩
    exact Text.join_concat_ne_nil (isBare_iff.1 (h last (by simp))).1
  · rcases Text.mem_join hc with ⟨t, ht, hct⟩ | hcolon
    · exact (isBare_iff.1 (h t ht)).2 c hct
    · rw [List.mem_singleton.1 hcolon]
      rfl

theorem isVariantChain_join (hne : chain ≠ []) (hchain : ∀ v ∈ chain, isIdentifier v) :
    ClassToken.isVariantChain (Text.join [':'] chain) := by
  have hsplit : splitOn [':'] (Text.join [':'] chain) = chain := by
    refine splitTop_join rfl fun v hv => ⟨ClassToken.ne_nil_of_isIdentifier (hchain v hv),
      fun c hc => ?_⟩
    obtain ⟨-, hcolon, -, hflat, -⟩ :=
      ClassToken.facts_of_isIdentifierChar (ClassToken.isIdentifierChar_of_mem (hchain v hv) hc)
    simp [hcolon, hflat]
  simp only [ClassToken.isVariantChain, hsplit, Bool.and_eq_true, List.all_eq_true,
    beq_self_eq_true, Bool.not_eq_true', List.isEmpty_eq_false_iff]
  exact ⟨⟨hne, trivial⟩, fun v hv => ClassToken.isVariant_of_isIdentifier (hchain v hv)⟩

/-! ### The group as it is written -/

/-- A group of tokens behind a chain, with single spaces between the tokens. -/
def writeGroup (chain tokens : List Text) : Text :=
  Text.join [':'] chain ++ [':', '('] ++ Text.join [' '] tokens ++ [')']

theorem flattenAll_tokens (tokens : List Text) : flattenAll (tokens.map .token) = tokens := by
  induction tokens with
  | nil => rfl
  | cons t tokens ih => rw [List.map_cons, flattenAll, Item.flatten, ih, List.singleton_append]

theorem written_join (htokens : ∀ t ∈ tokens, isBare t) {gap : Text}
    (hgap : gap.all Text.isBlank) :
    Written (tokens.map .token) (gap ++ Text.join [' '] tokens) := by
  induction tokens generalizing gap with
  | nil =>
      rw [Text.join, List.append_nil]
      exact .nil hgap
  | cons t tokens ih =>
      have ht := isPlain_of_isBare (htokens t List.mem_cons_self)
      cases tokens with
      | nil =>
          have hlast : Written [.token t] (gap ++ t ++ []) := .token hgap ht rfl (.nil rfl)
          rwa [List.append_nil] at hlast
      | cons u rest =>
          -- the space after the token is the gap before the next one
          have hrest : Written ((u :: rest).map .token) ([' '] ++ Text.join [' '] (u :: rest)) :=
            ih (fun v hv => htokens v (List.mem_cons_of_mem t hv)) rfl
          rw [Text.join_cons (by simp), List.append_assoc, ← List.append_assoc]
          exact .token hgap ht rfl hrest

theorem written_writeGroup (hne : chain ≠ []) (hchain : ∀ v ∈ chain, isIdentifier v)
    (htokens : ∀ t ∈ tokens, isBare t) :
    Written [.group (Text.join [':'] chain) (tokens.map .token)] (writeGroup chain tokens) := by
  have hplain := isPlain_of_isBare
    (isBare_join hne fun v hv => isBare_of_isIdentifier (hchain v hv))
  have hinner : Written (tokens.map .token) ([] ++ Text.join [' '] tokens) :=
    written_join htokens rfl
  have hgroup : Written [.group (Text.join [':'] chain) (tokens.map .token)]
      ([] ++ Text.join [':'] chain ++ [':', '('] ++ ([] ++ Text.join [' '] tokens) ++ [')'] ++
        []) :=
    .group rfl hplain (isVariantChain_join hne hchain) hinner rfl (.nil rfl)
  rwa [List.nil_append, List.nil_append, List.append_nil] at hgroup

theorem expand_writeGroup (hne : chain ≠ []) (hchain : ∀ v ∈ chain, isIdentifier v)
    (htokens : ∀ t ∈ tokens, isBare t) :
    expand (writeGroup chain tokens) = tokens.map fun t => Text.join [':'] (chain ++ [t]) := by
  have hitems : flattenAll [.group (Text.join [':'] chain) (tokens.map .token)] =
      tokens.map fun t => Text.join [':'] (chain ++ [t]) := by
    simp only [flattenAll, Item.flatten, flattenAll_tokens, List.append_nil, Text.join_concat hne,
      List.append_assoc, List.singleton_append]
  rw [expand, flush_scan_of_written (written_writeGroup hne hchain htokens), hitems]
  rfl

/-! ### The group as it is read -/

/-- A bare token behind a chain is a word. -/
theorem isSolid_join (hchain : ∀ v ∈ chain, isIdentifier v) (ht : isBare t) :
    Text.isSolid (Text.join [':'] (chain ++ [t])) := by
  refine isSolid_of_isBare (isBare_join (by simp) fun u hu => ?_)
  rcases List.mem_append.1 hu with hu | hu
  · exact isBare_of_isIdentifier (hchain u hu)
  · rwa [List.mem_singleton.1 hu]

/-- **A group** is read as its tokens, each behind the chain. -/
theorem readTokens_writeGroup (hne : chain ≠ []) (hchain : ∀ v ∈ chain, isIdentifier v)
    (htokens : ∀ t ∈ tokens, isBare t) (limit : ClassToken.Limit) :
    readTokens (writeGroup chain tokens) limit =
      tokens.map fun t => ClassToken.read (Text.join [':'] (chain ++ [t])) limit := by
  have hsolid : ∀ w ∈ tokens.map fun t => Text.join [':'] (chain ++ [t]), Text.isSolid w := by
    rw [List.forall_mem_map]
    exact fun t ht => isSolid_join hchain (htokens t ht)
  -- the expanded list is joined and cut again, which gives back what has been expanded
  rw [readTokens, ClassToken.readWords, expandText, expand_writeGroup hne hchain htokens,
    Text.words_join hsolid, List.map_map]
  rfl

/-- A word within the limit is read as it is. -/
theorem read_of_isSolid (h : Text.isSolid t) (hlimit : limit.allows t.length) :
    ClassToken.read t limit = ClassToken.readTrimmed t :=
  ClassToken.read_of_trim (Text.trim_of_isSolid h) hlimit

/-- A token is within the limit if it is with a chain before it. -/
theorem allows_of_allows_join
    (hlimit : limit.allows (Text.join [':'] (chain ++ [t])).length) : limit.allows t.length := by
  refine ClassToken.Limit.allows_of_le hlimit ?_
  by_cases hchain : chain = []
  · rw [hchain]
    rfl
  · rw [Text.join_concat hchain, List.length_append]
    omega

/-- **Distribution.**  Let a group be written with a chain of identifiers and bare tokens, all of
them within the limit behind the chain.  Then one token is read for each of them.  The chain is all
that changes for it exactly if it does not start with a flag or has no variants of its own; and if
it starts with a flag, it has the variants of the chain only, its flags are those at its start, and
all that follows them is the utility. -/
theorem readTokens_group {chain tokens : List Text} {limit : ClassToken.Limit} (hne : chain ≠ [])
    (hchain : ∀ v ∈ chain, isIdentifier v) (htokens : ∀ t ∈ tokens, isBare t)
    (hlimit : ∀ t ∈ tokens, limit.allows (Text.join [':'] (chain ++ [t])).length) :
    List.Forall₂
      (fun token read =>
        (Distributes chain (ClassToken.read token limit) read ↔
          isFlagged token = false ∨ (ClassToken.read token limit).variants = []) ∧
        (isFlagged token = true →
          read.variants = chain ∧
          stripFlags token = (read.important, read.negative, read.utility) ∧
          token = writeFlags read.important read.negative ++ read.utility))
      tokens (readTokens (writeGroup chain tokens) limit) := by
  rw [readTokens_writeGroup hne hchain htokens, List.forall₂_map_right_iff, List.forall₂_same]
  intro token htoken
  have hbare := htokens token htoken
  have hwithin := hlimit token htoken
  rw [read_of_isSolid (isSolid_of_isBare hbare) (allows_of_allows_join hwithin),
    read_of_isSolid (isSolid_join hchain hbare) hwithin]
  exact ⟨ClassToken.distributes_iff hne hchain (isBare_iff.1 hbare).1,
    ClassToken.readTrimmed_join_of_isFlagged hne hchain⟩

theorem readTokens_group_flags :
    List.Forall₂
      (fun token read =>
        (Distributes ["md".toList, "hover".toList] (ClassToken.read token) read ↔
          isFlagged token = false ∨ (ClassToken.read token).variants = []) ∧
        (isFlagged token = true →
          read.variants = ["md".toList, "hover".toList] ∧
          stripFlags token = (read.important, read.negative, read.utility) ∧
          token = writeFlags read.important read.negative ++ read.utility))
      ["sm:!p-4".toList, "!-m-2".toList, "-sm:m-2".toList]
      (readTokens "md:hover:(sm:!p-4 !-m-2 -sm:m-2)".toList) :=
  readTokens_group (by decide) (by decide) (by decide) (by decide)

/-- The chain is not all that changes for every token. -/
theorem not_always_distributes :
    ¬ ∀ (chain tokens : List Text) (limit : ClassToken.Limit), chain ≠ [] →
      (∀ v ∈ chain, isIdentifier v) → tokens ≠ [] → (∀ t ∈ tokens, isBare t) →
      (∀ t ∈ tokens, limit.allows (Text.join [':'] (chain ++ [t])).length) →
      List.Forall₂ (fun token read => Distributes chain (ClassToken.read token limit) read) tokens
        (readTokens (writeGroup chain tokens) limit) := by
  intro h
  have hgroup := h ["hover".toList] ["!md:p-4".toList] ClassToken.defaultLimit (by decide)
    (by decide) (by decide) (by decide) (by decide)
  have hread : readTokens (writeGroup ["hover".toList] ["!md:p-4".toList]) =
      [{ original := "hover:!md:p-4".toList, variants := ["hover".toList],
         utility := "md:p-4".toList, important := true }] := by
    decide +kernel
  have hown : (ClassToken.read "!md:p-4".toList).variants = ["md".toList] := by
    decide +kernel
  rw [hread] at hgroup
  obtain ⟨hdistributes, -⟩ := List.forall₂_cons.1 hgroup
  have hvariants := hdistributes.variants
  rw [hown] at hvariants
  exact absurd hvariants (by decide)

end UtilityCss.ClassList

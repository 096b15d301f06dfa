import UtilityCss.Platform.Plain
import UtilityCss.Proofs.Pattern.Leading
import UtilityCss.Proofs.Registry.FullScan

/-!
# Registry — rules that start with words

A utility is looked up among the rules of its word, and a rule's word is read off the text of its
pattern.  Nothing checks that the pattern only matches utilities of that word: `p-(?#c)*4-x` has the
word `p` and matches `p4-x`, which is looked up among the rules of `p4` (`not_always_startsWith`).

**Words that can be trusted** (`firstClaim_of_startsWith`).  Let a rule be given no flags, and let
its pattern be a word, a hyphen and a rest that has no bar outside of groups and sets and, behind
the comments at its start, no quantifier that the hyphen could be missing under.  Then the rule has
that word, and every utility that it claims starts with it.  If all rules are of this form, the
index does not show: every utility gets the first claim among all rules.

* `Pattern.WordDash.leadingWord?_of_run?`: a text that such a pattern matches starts with the word.
* `firstClaim_choose_of_word`: looking among the rules of one word is enough if only they claim.
-/

namespace UtilityCss

/-- A rule is given no flags, and its pattern can be read alone and is a word, a hyphen and a
rest. -/
structure Rule.StartsWith [Pattern.Names] (rule : Rule) (word : Text) : Prop where
  flags : rule.flags = none
  readable : (Pattern.ofText rule.source {}).isOk = true
  form : ∃ rest, Pattern.WordDash rule.source word rest

namespace Registry

variable {rule : Rule} {word utility : Text} {compiled : CompiledRule}

/-- If all rules that claim a utility have its word, it gets the first claim among all rules. -/
theorem firstClaim_choose_of_word {rules : List CompiledRule}
    (hown : ∀ x ∈ rules, (x.match? utility).isSome → x.word = Pattern.leadingWord? utility) :
    FirstClaim rules utility (choose rules utility) := by
  rw [firstClaim_iff, choose_eq_scan_iff]
  cases hscan : scan rules utility with
  | none => exact .inl rfl
  | some found =>
      obtain ⟨hmem, hclaim⟩ := mem_of_firstMatch? hscan
      refine .inr (.inr (.inr ⟨found, rfl, ?_⟩))
      exact hown found.rule (mem_inOrder.1 hmem) (by rw [hclaim]; rfl)

section

variable [Platform]

theorem of_compile (h : rule.compile = .ok compiled) :
    Pattern.ofRule rule.source rule.flags = .ok compiled.pattern ∧
      compiled.word = Pattern.literalWord? rule.source := by
  rw [Rule.compile] at h
  split at h
  · cases h
  · split at h
    next => cases h
    next pattern hpattern =>
        cases h
        exact ⟨hpattern, rfl⟩

theorem word_of_startsWith (h : rule.StartsWith word) (hcompiled : rule.compile = .ok compiled) :
    compiled.word = some word := by
  obtain ⟨rest, hform⟩ := h.form
  rw [(of_compile hcompiled).2, hform.literalWord?]

/-- A rule that starts with a word claims utilities that start with it. -/
theorem leadingWord?_of_startsWith (h : rule.StartsWith word)
    (hcompiled : rule.compile = .ok compiled) (hclaim : (compiled.match? utility).isSome) :
    Pattern.leadingWord? utility = some word := by
  obtain ⟨rest, hform⟩ := h.form
  obtain ⟨hpattern, -⟩ := of_compile hcompiled
  rw [h.flags] at hpattern
  cases hread : Pattern.ofText rule.source {} with
  | error fault =>
      have hreadable := h.readable
      rw [hread] at hreadable
      cases hreadable
  | ok alone =>
      refine hform.leadingWord?_of_run? hread ?_
      rw [← Pattern.run?_anchored hread hpattern]
      rwa [CompiledRule.match?, Option.isSome_map, Pattern.fullMatch?, Option.isSome_map] at hclaim

/-- **Words that can be trusted.**  A rule that starts with a word is registered under it, and every
utility that it claims starts with that word.  If all rules of a registry start with words, it
answers for every utility with the first claim among all of them. -/
theorem firstClaim_of_startsWith (strict : Bool) (ops : List Op) :
    let r := run { strict } ops
    (∀ (rule : Rule) (word : Text) (compiled : CompiledRule), rule.StartsWith word →
      rule.compile = .ok compiled → compiled.word = some word ∧
        ∀ utility, (compiled.match? utility).isSome → Pattern.leadingWord? utility = some word) ∧
    ((∀ x ∈ r.rules, ∃ word, x.rule.StartsWith word) →
      ∀ utility, FirstClaim r.rules utility (r.claim utility).1) := by
  intro r
  refine ⟨fun rule word compiled h hcompiled => ⟨word_of_startsWith h hcompiled, fun utility =>
    leadingWord?_of_startsWith h hcompiled⟩, fun hall utility => ?_⟩
  have hvalid : Valid r := ((valid_empty strict).run ops).2.2
  rw [(hvalid.claim utility).1]
  refine firstClaim_choose_of_word fun x hx hclaim => ?_
  obtain ⟨word, hword⟩ := hall x hx
  have hcompiled := hvalid.rules.compiled x hx
  rw [word_of_startsWith hword hcompiled, leadingWord?_of_startsWith hword hcompiled hclaim]

end

/-- Two rules that start with words: one has a comment and a bar in groups, the other an anchor of
its own and a bar in a set. -/
def worded : Rule × Rule :=
  ({ source := "p-(?#p|m)(\\d+|auto)".toList },
    { source := "^mx-+[]|a-z]*".toList, priority := 1 })

theorem firstClaim_of_startsWith_worded :
    worded.1.StartsWith "p".toList ∧
    (∃ compiled, worded.1.compile = .ok compiled ∧ (compiled.match? "p-12".toList).isSome ∧
      compiled.word = some "p".toList ∧ Pattern.leadingWord? "p-12".toList = some "p".toList) ∧
    ∃ r, run {} [.addAll [worded.1, worded.2]] = r ∧ r.rules.length = 2 ∧
      (∀ x ∈ r.rules, ∃ word, x.rule.StartsWith word) ∧
        ∀ utility, FirstClaim r.rules utility (r.claim utility).1 := by
  have hspacing : ∀ rule : Rule, rule.flags = none → rule.source = worded.1.source →
      rule.StartsWith "p".toList := by
    intro rule hflags hsource
    refine ⟨hflags, ?_, "(?#p|m)(\\d+|auto)".toList, ?_⟩
    · rw [hsource]
      decide +kernel
    · rw [hsource]
      exact ⟨.inl rfl, by decide, by decide, by decide⟩
  have hmargin : ∀ rule : Rule, rule.flags = none → rule.source = worded.2.source →
      rule.StartsWith "mx".toList := by
    intro rule hflags hsource
    refine ⟨hflags, ?_, "+[]|a-z]*".toList, ?_⟩
    · rw [hsource]
      decide +kernel
    · rw [hsource]
      exact ⟨.inr rfl, by decide, by decide, by decide⟩
  have hrules : ∀ x ∈ (run {} [.addAll [worded.1, worded.2]]).rules,
      ∃ word, x.rule.StartsWith word := by
    have hsources : (run {} [.addAll [worded.1, worded.2]]).rules.all (fun x =>
        x.rule.flags.isNone && (x.rule.source == worded.1.source ||
          x.rule.source == worded.2.source)) = true := by decide +kernel
    intro x hx
    have hx' := List.all_eq_true.1 hsources x hx
    simp only [Bool.and_eq_true, Bool.or_eq_true, beq_iff_eq, Option.isNone_iff_eq_none] at hx'
    rcases hx'.2 with hsource | hsource
    · exact ⟨_, hspacing _ hx'.1 hsource⟩
    · exact ⟨_, hmargin _ hx'.1 hsource⟩
  have hclaims : (worded.1.compile.toOption.map
      fun compiled => (compiled.match? "p-12".toList).isSome) = some true := by decide +kernel
  have hstarts := hspacing worded.1 rfl rfl
  have hlength : (run {} [.addAll [worded.1, worded.2]]).rules.length = 2 := by decide +kernel
  have hfirst := firstClaim_of_startsWith false [.addAll [worded.1, worded.2]]
  generalize hr : run {} [.addAll [worded.1, worded.2]] = r at hrules hlength hfirst
  refine ⟨hstarts, ?_, r, rfl, hlength, hrules, hfirst.2 hrules⟩
  cases hcompiled : worded.1.compile with
  | error failure =>
      rw [hcompiled] at hclaims
      cases hclaims
  | ok compiled =>
      rw [hcompiled] at hclaims
      have hclaim := Option.some.inj hclaims
      obtain ⟨hword, hleading⟩ := (firstClaim_of_startsWith false []).1 _ _ _ hstarts hcompiled
      exact ⟨compiled, rfl, hclaim, hword, hleading _ hclaim⟩

/-- Two rules of a word, a hyphen and a rest.  The rest of the first is a comment and a quantifier,
under which the hyphen may be missing. -/
def commented : Rule × Rule :=
  ({ source := "p-(?#c)*4-x".toList, priority := 1 }, { source := "p4-x".toList })

/-- If only the first character of the rest is looked at, a rule of one word claims a utility of
another, and the rule that answers is not the first that claims it. -/
theorem not_always_startsWith :
    (∀ rule ∈ [commented.1, commented.2], (Pattern.ofText rule.source {}).isOk ∧
      ∃ word rest, Pattern.isLeadingWord word ∧ rule.source = word ++ '-' :: rest ∧
        rest.head?.all (!Pattern.mayDrop ·) ∧ Pattern.hasOuterBar rest = false) ∧
    ∃ r, run {} [.addAll [commented.1, commented.2]] = r ∧
      r.rules.map (fun x => (x.rule.source, x.word, (x.match? "p4-x".toList).isSome)) =
        [(commented.1.source, some "p".toList, true),
          (commented.2.source, some "p4".toList, true)] ∧
      Pattern.leadingWord? "p4-x".toList = some "p4".toList ∧
      ¬ FirstClaim r.rules "p4-x".toList (r.claim "p4-x".toList).1 := by
  have hsorted : inOrder (run {} [.addAll [commented.1, commented.2]]).rules =
      (run {} [.addAll [commented.1, commented.2]]).rules :=
    List.mergeSort_of_pairwise (by decide +kernel)
  have hscan : (scan (run {} [.addAll [commented.1, commented.2]]).rules "p4-x".toList).map
      (·.rule.rule.priority) = some 1 := by
    rw [scan, hsorted]
    decide +kernel
  have hanswer : ((run {} [.addAll [commented.1, commented.2]]).claim "p4-x".toList).1.map
      (·.rule.rule.priority) = some 0 := by
    have hvalid := ((valid_empty false).run [.addAll [commented.1, commented.2]]).2.2
    rw [(hvalid.claim _).1, choose, candidates, hsorted]
    decide +kernel
  have hrules : (run {} [.addAll [commented.1, commented.2]]).rules.map
      (fun x => (x.rule.source, x.word, (x.match? "p4-x".toList).isSome)) =
        [(commented.1.source, some "p".toList, true),
          (commented.2.source, some "p4".toList, true)] := by decide +kernel
  generalize hr : run {} [.addAll [commented.1, commented.2]] = r at hscan hanswer hrules
  refine ⟨?_, r, rfl, hrules, by decide, fun hfirst => ?_⟩
  · simp only [List.forall_mem_cons]
    exact ⟨⟨by decide +kernel, "p".toList, "(?#c)*4-x".toList, by decide⟩,
      ⟨by decide +kernel, "p4".toList, "x".toList, by decide⟩, List.forall_mem_nil _⟩
  · rw [firstClaim_iff.1 hfirst, hscan] at hanswer
    cases hanswer

end Registry

end UtilityCss

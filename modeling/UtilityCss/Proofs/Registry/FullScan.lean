import UtilityCss.Platform.Plain
import UtilityCss.Proofs.Registry.Lookup

/-!
# Registry — looking among all rules

A utility whose word some rule starts with is looked up among the rules of that word alone.  `scan`
is the answer that all rules together would give; it is the first claim among them, and the only one
(`firstClaim_iff`).

**Agreement** (`claim_eq_scan_iff`).  The registry answers as all rules would exactly if no rule
claims the utility, or the utility has no word that a rule starts with, or the rule that would
answer starts with that word itself.  A rule of another word is hidden as soon as one rule of the
utility's word is registered, whether that rule claims the utility or not.

The rules of a word stand among each other as they stand among all rules, so if the first rule that
claims the utility is one of them, it is the first among them too (`firstMatch?_filter`).
-/

namespace UtilityCss.Registry

variable {rules : List CompiledRule} {utility : Text}

/-- The answer for a utility when all rules are tried. -/
def scan (rules : List CompiledRule) (utility : Text) : Option Match :=
  firstMatch? (inOrder rules) utility

/-! ### The first claim is the only one -/

/-- Of two rules that are each the first to claim a utility, neither stands behind the other. -/
theorem not_first_behind {before after middle : List CompiledRule} {r r' : CompiledRule}
    {found found' : Match} (hr : r.match? utility = some found)
    (hr' : r'.match? utility = some found')
    (hafter : ∀ x ∈ middle ++ r' :: after, (x.match? utility).isSome →
      x.rule.priority ≤ r.rule.priority)
    (hbefore : ∀ x ∈ before ++ r :: middle, (x.match? utility).isSome →
      x.rule.priority < r'.rule.priority) : False := by
  have hle := hafter r' (by simp) (by rw [hr']; rfl)
  have hlt := hbefore r (by simp) (by rw [hr]; rfl)
  omega

theorem FirstClaim.unique {answer answer' : Option Match} (h : FirstClaim rules utility answer)
    (h' : FirstClaim rules utility answer') : answer = answer' := by
  cases answer with
  | none =>
      cases answer' with
      | none => rfl
      | some found' =>
          obtain ⟨before, r, after, rfl, hr, -⟩ := h'
          rw [h r (by simp)] at hr
          cases hr
  | some found =>
      obtain ⟨before, r, after, hrules, hr, hbefore, hafter⟩ := h
      cases answer' with
      | none =>
          rw [h' r (by simp [hrules])] at hr
          cases hr
      | some found' =>
          obtain ⟨before', r', after', hrules', hr', hbefore', hafter'⟩ := h'
          rw [hrules, List.append_eq_append_iff] at hrules'
          -- the two rules stand in the same place, or one of them stands behind the other
          rcases hrules' with ⟨middle, rfl, hmiddle⟩ | ⟨middle, rfl, hmiddle⟩
          · cases middle with
            | nil =>
                obtain ⟨rfl, -⟩ := List.cons.inj hmiddle
                rw [hr] at hr'
                exact hr'
            | cons x middle =>
                obtain ⟨rfl, rfl⟩ := List.cons.inj hmiddle
                exact (not_first_behind hr hr' hafter hbefore').elim
          · cases middle with
            | nil =>
                obtain ⟨rfl, -⟩ := List.cons.inj hmiddle
                rw [hr] at hr'
                exact hr'
            | cons x middle =>
                obtain ⟨rfl, rfl⟩ := List.cons.inj hmiddle
                exact (not_first_behind hr' hr hafter' hbefore).elim

/-- The first claim among all rules is what they answer when they are tried in order. -/
theorem firstClaim_iff {answer : Option Match} :
    FirstClaim rules utility answer ↔ answer = scan rules utility := by
  constructor
  · intro h
    exact h.unique (firstClaim_inOrder utility rules)
  · rintro rfl
    exact firstClaim_inOrder utility rules

/-! ### Looking among some of the rules -/

/-- The rule that answers is one of those that are tried, and claims the utility. -/
theorem mem_of_firstMatch? {found : Match} (h : firstMatch? rules utility = some found) :
    found.rule ∈ rules ∧ found.rule.match? utility = some found := by
  obtain ⟨r, hr, hclaim⟩ := List.exists_of_findSome?_eq_some h
  rw [rule_of_match? hclaim]
  exact ⟨hr, hclaim⟩

/-- The rule that answers still does if others are left out. -/
theorem firstMatch?_filter {found : Match} (h : firstMatch? rules utility = some found)
    {p : CompiledRule → Bool} (hp : p found.rule) :
    firstMatch? (rules.filter p) utility = some found := by
  obtain ⟨before, r, after, rfl, hclaim, hbefore⟩ := List.findSome?_eq_some_iff.1 h
  rw [rule_of_match? hclaim] at hp
  have hnone : (before.filter p).findSome? (·.match? utility) = none := by
    rw [List.findSome?_eq_none_iff]
    intro x hx
    exact hbefore x (List.mem_filter.1 hx).1
  rw [firstMatch?, List.filter_append, List.filter_cons_of_pos hp, List.findSome?_append, hnone,
    Option.none_or, List.findSome?_cons, hclaim]

/-- A utility is looked up among all rules, or among those of its word if there are any. -/
theorem candidates_cases (rules : List CompiledRule) (utility : Text) :
    candidates rules utility = inOrder rules ∧
        (Pattern.leadingWord? utility = none ∨ ∀ r ∈ rules, r.word ≠ Pattern.leadingWord? utility) ∨
    (Pattern.leadingWord? utility ≠ none ∧ ∃ r ∈ rules, r.word = Pattern.leadingWord? utility) ∧
      candidates rules utility =
        (inOrder rules).filter (·.word == Pattern.leadingWord? utility) := by
  rw [candidates]
  cases Pattern.leadingWord? utility with
  | none => exact .inl ⟨rfl, .inl rfl⟩
  | some word =>
      cases hsharing : (inOrder rules).filter (·.word == some word) with
      | nil =>
          refine .inl ⟨by simp [hsharing], .inr fun r hr hword => ?_⟩
          have hmem : r ∈ (inOrder rules).filter (·.word == some word) :=
            List.mem_filter.2 ⟨mem_inOrder.2 hr, by simp [hword]⟩
          rw [hsharing] at hmem
          cases hmem
      | cons r sharing =>
          have hmem : r ∈ (inOrder rules).filter (·.word == some word) := by simp [hsharing]
          obtain ⟨hr, hword⟩ := List.mem_filter.1 hmem
          exact .inr ⟨⟨Option.some_ne_none word, r, mem_inOrder.1 hr, eq_of_beq hword⟩,
            by simp [hsharing]⟩

theorem mem_of_mem_candidates {r : CompiledRule} (h : r ∈ candidates rules utility) :
    r ∈ rules := by
  rcases candidates_cases rules utility with ⟨hall, -⟩ | ⟨-, hshared⟩
  · rw [hall] at h
    exact mem_inOrder.1 h
  · rw [hshared] at h
    exact mem_inOrder.1 (List.mem_filter.1 h).1

/-- The rules answer as all of them would exactly if the rule that would answer is not hidden. -/
theorem choose_eq_scan_iff (rules : List CompiledRule) (utility : Text) :
    choose rules utility = scan rules utility ↔
      scan rules utility = none ∨ Pattern.leadingWord? utility = none ∨
      (∀ r ∈ rules, r.word ≠ Pattern.leadingWord? utility) ∨
      ∃ found, scan rules utility = some found ∧
        found.rule.word = Pattern.leadingWord? utility := by
  rw [choose]
  rcases candidates_cases rules utility with ⟨hall, hword⟩ | ⟨⟨hword, r, hr, hown⟩, hshared⟩
  · rw [hall]
    exact iff_of_true rfl (.inr (hword.imp_right .inl))
  · rw [hshared]
    constructor
    · intro heq
      cases hscan : scan rules utility with
      | none => exact .inl rfl
      | some found =>
          rw [hscan] at heq
          obtain ⟨hmem, -⟩ := mem_of_firstMatch? heq
          exact .inr (.inr (.inr ⟨found, rfl, eq_of_beq (List.mem_filter.1 hmem).2⟩))
    · rintro (hnone | hnoWord | hfree | ⟨found, hfound, hsame⟩)
      · rw [hnone]
        refine List.findSome?_eq_none_iff.2 fun x hx => ?_
        exact List.findSome?_eq_none_iff.1 hnone x (List.mem_filter.1 hx).1
      · exact absurd hnoWord hword
      · exact absurd hown (hfree r hr)
      · rw [hfound]
        exact firstMatch?_filter hfound (by simp [hsame])

section

variable [Platform]

/-- **Agreement.**  Whatever has been registered, removed and looked up before: the registry answers
as all of its rules would exactly if no rule claims the utility, or the utility has no word, or no
rule starts with that word, or the rule that would answer does.  A rule that answers is registered
and claims the utility; and if only rules of the utility's word claim it, the first claim among all
rules answers. -/
theorem claim_eq_scan_iff (strict : Bool) (ops : List Op) (utility : Text) :
    let r := run { strict } ops
    (∀ full, FirstClaim r.rules utility full ↔ full = scan r.rules utility) ∧
    ((r.claim utility).1 = scan r.rules utility ↔
      scan r.rules utility = none ∨ Pattern.leadingWord? utility = none ∨
      (∀ x ∈ r.rules, x.word ≠ Pattern.leadingWord? utility) ∨
      ∃ found, scan r.rules utility = some found ∧
        found.rule.word = Pattern.leadingWord? utility) ∧
    (∀ found, (r.claim utility).1 = some found →
      found.rule ∈ r.rules ∧ found.rule.match? utility = some found) ∧
    ((∀ x ∈ r.rules, (x.match? utility).isSome → x.word = Pattern.leadingWord? utility) →
      FirstClaim r.rules utility (r.claim utility).1) := by
  intro r
  have hanswer : (r.claim utility).1 = choose r.rules utility :=
    (((valid_empty strict).run ops).2.2.claim utility).1
  rw [hanswer]
  refine ⟨fun full => firstClaim_iff, choose_eq_scan_iff r.rules utility, fun found hfound => ?_,
    fun hown => ?_⟩
  · obtain ⟨hmem, hclaim⟩ := mem_of_firstMatch? hfound
    exact ⟨mem_of_mem_candidates hmem, hclaim⟩
  · rw [firstClaim_iff, choose_eq_scan_iff]
    cases hscan : scan r.rules utility with
    | none => exact .inl rfl
    | some found =>
        obtain ⟨hmem, hclaim⟩ := mem_of_firstMatch? hscan
        refine .inr (.inr (.inr ⟨found, rfl, ?_⟩))
        exact hown found.rule (mem_inOrder.1 hmem) (by rw [hclaim]; rfl)

end

/-- A rule without a word is hidden by one of the utility's word, although its priority is
higher. -/
example :
    let rules : List Rule :=
      [{ source := "p-(\\d+)".toList, name := .str "own" },
       { source := "(p|m)-4".toList, name := .str "hidden", priority := 10 }]
    let r := run {} [.addAll rules]
    ((r.claim "p-4".toList).1.map (·.captures), (scan r.rules "p-4".toList).map (·.captures)) =
      (some ["p-4".toList, "4".toList], some ["p-4".toList, "p".toList]) := by
  cbv

end UtilityCss.Registry

import UtilityCss.Registry.Basic

/-!
# Registry — the order in which rules are tried

`Registry.inOrder` sorts rules by falling priority and keeps those of one priority as they were
registered.  What that order decides can be said without sorting: of the rules that claim a
utility, the one of highest priority answers, and among several of them the earliest.  `FirstClaim`
is that statement, about rules in the order of registration.

* `inOrder_cons`: a rule that is registered before others is put into their order and moves none
  of them.
* `inOrder_filter`: sorting and leaving rules out commute.
* `firstClaim_choose`: the answer of `Registry.choose` is the first claim among the rules that a
  utility is looked up among (`eligible`).
-/

namespace UtilityCss.Registry

/-! ### Sorting -/

/-- Rules are tried in the order of falling priority. -/
def precedes (a b : CompiledRule) : Bool :=
  decide (b.rule.priority ≤ a.rule.priority)

theorem precedes_trans (a b c : CompiledRule) (hab : precedes a b) (hbc : precedes b c) :
    precedes a c := by
  simp only [precedes, decide_eq_true_eq] at *
  omega

theorem precedes_total (a b : CompiledRule) : precedes a b || precedes b a := by
  simp only [precedes, Bool.or_eq_true, decide_eq_true_eq]
  omega

theorem mem_inOrder {rules : List CompiledRule} {r : CompiledRule} :
    r ∈ inOrder rules ↔ r ∈ rules :=
  List.mem_mergeSort

theorem inOrder_pairwise (rules : List CompiledRule) :
    (inOrder rules).Pairwise fun a b => b.rule.priority ≤ a.rule.priority :=
  (List.pairwise_mergeSort precedes_trans precedes_total rules).imp fun h => by
    simpa [precedes] using h

/-- `b` has a higher priority than `a`. -/
def outranks (b a : CompiledRule) : Bool :=
  decide (a.rule.priority < b.rule.priority)

/-- **One rule more.**  A rule that is registered before others stands, in the order, after those of
higher priority and before the rest; the others keep their order. -/
theorem inOrder_cons (a : CompiledRule) (rules : List CompiledRule) :
    inOrder (a :: rules) =
        (inOrder rules).filter (outranks · a) ++ a :: (inOrder rules).filter (!outranks · a) ∧
      inOrder rules =
        (inOrder rules).filter (outranks · a) ++ (inOrder rules).filter (!outranks · a) := by
  obtain ⟨higher, rest, h₁, h₂, hlt⟩ := List.mergeSort_cons precedes_trans precedes_total a rules
  change inOrder (a :: rules) = higher ++ a :: rest at h₁
  change inOrder rules = higher ++ rest at h₂
  have hsorted := inOrder_pairwise (a :: rules)
  rw [h₁, List.pairwise_append, List.pairwise_cons] at hsorted
  have hhigher : ∀ b ∈ higher, outranks b a = true := fun b hb => by
    simpa [outranks, precedes] using hlt b hb
  have hrest : ∀ b ∈ rest, outranks b a = false := fun b hb => by
    simpa [outranks] using hsorted.2.1.1 b hb
  have hfirst : (inOrder rules).filter (outranks · a) = higher := by
    rw [h₂, List.filter_append, List.filter_eq_self.2 hhigher,
      List.filter_eq_nil_iff.2 (by simpa using hrest), List.append_nil]
  have hlast : (inOrder rules).filter (!outranks · a) = rest := by
    rw [h₂, List.filter_append, List.filter_eq_nil_iff.2 (by simpa using hhigher),
      List.nil_append, List.filter_eq_self.2 (by simpa using hrest)]
  rw [hfirst, hlast]
  exact ⟨h₁, h₂⟩

/-- Leaving rules out before or after sorting is the same. -/
theorem inOrder_filter (p : CompiledRule → Bool) (rules : List CompiledRule) :
    inOrder (rules.filter p) = (inOrder rules).filter p := by
  induction rules with
  | nil => simp [inOrder]
  | cons a rules ih =>
      obtain ⟨h₁, h₂⟩ := inOrder_cons a rules
      cases hp : p a with
      | false =>
          rw [List.filter_cons_of_neg (by simp [hp]), h₁, List.filter_append,
            List.filter_cons_of_neg (by simp [hp]), ← List.filter_append, ← h₂, ih]
      | true =>
          rw [List.filter_cons_of_pos hp, (inOrder_cons a _).1, ih, h₁, List.filter_append,
            List.filter_cons_of_pos hp]
          simp only [List.filter_filter, Bool.and_comm]

/-! ### The first claim -/

/-- The rules that a utility is looked up among, in the order of registration: those that start with
its word, if it has one and there are any, and else all of them. -/
def eligible (rules : List CompiledRule) (utility : Text) : List CompiledRule :=
  match Pattern.leadingWord? utility with
  | none => rules
  | some word =>
    if rules.any (·.word == some word) then rules.filter (·.word == some word) else rules

/-- The answer that rules give for a utility when they are tried by falling priority, and those of
one priority in the order in which they stand here: the claim of a rule of which no earlier one that
claims has the same priority, and no other that claims a higher one. -/
def FirstClaim (rules : List CompiledRule) (utility : Text) : Option Match → Prop
  | none => ∀ r ∈ rules, r.match? utility = none
  | some found => ∃ before r after, rules = before ++ r :: after ∧ r.match? utility = some found ∧
      (∀ x ∈ before, (x.match? utility).isSome → x.rule.priority < r.rule.priority) ∧
      ∀ x ∈ after, (x.match? utility).isSome → x.rule.priority ≤ r.rule.priority

theorem rule_of_match? {r : CompiledRule} {utility : Text} {found : Match}
    (h : r.match? utility = some found) : found.rule = r := by
  simp only [CompiledRule.match?, Option.map_eq_some_iff] at h
  obtain ⟨groups, -, rfl⟩ := h
  rfl

/-- A rule before the others does not change the answer if it does not claim the utility, or a rule
of higher priority does. -/
theorem FirstClaim.cons {rules : List CompiledRule} {utility : Text} {answer : Option Match}
    (h : FirstClaim rules utility answer) {a : CompiledRule}
    (ha : (a.match? utility).isSome →
      ∃ found, answer = some found ∧ a.rule.priority < found.rule.rule.priority) :
    FirstClaim (a :: rules) utility answer := by
  cases answer with
  | none =>
      intro r hr
      rcases List.mem_cons.1 hr with rfl | hr
      · cases hclaim : r.match? utility with
        | none => rfl
        | some found => simpa using ha (by rw [hclaim]; rfl)
      · exact h r hr
  | some found =>
      obtain ⟨before, r, after, rfl, hr, hbefore, hafter⟩ := h
      refine ⟨a :: before, r, after, rfl, hr, fun x hx hclaims => ?_, hafter⟩
      rcases List.mem_cons.1 hx with rfl | hx
      · obtain ⟨_, hfound, hlt⟩ := ha hclaims
        rwa [← Option.some.inj hfound, rule_of_match? hr] at hlt
      · exact hbefore x hx hclaims

/-- **Trying rules in order gives the first claim.** -/
theorem firstClaim_inOrder (utility : Text) (rules : List CompiledRule) :
    FirstClaim rules utility (firstMatch? (inOrder rules) utility) := by
  induction rules with
  | nil => simp [inOrder, firstMatch?, FirstClaim]
  | cons a rules ih =>
      obtain ⟨h₁, h₂⟩ := inOrder_cons a rules
      rw [firstMatch?, h₂, List.findSome?_append] at ih
      rw [firstMatch?, h₁, List.findSome?_append, List.findSome?_cons]
      cases hhigher : ((inOrder rules).filter (outranks · a)).findSome? (·.match? utility) with
      | some found =>
          rw [hhigher] at ih
          obtain ⟨b, hb, hclaim⟩ := List.exists_of_findSome?_eq_some hhigher
          have hlt : a.rule.priority < b.rule.priority := by
            simpa [outranks] using (List.mem_filter.1 hb).2
          exact ih.cons fun _ => ⟨found, rfl, by rwa [rule_of_match? hclaim]⟩
      | none =>
          rw [hhigher, Option.none_or] at ih
          rw [Option.none_or]
          cases hclaim : a.match? utility with
          | none => exact ih.cons fun h => by simp [hclaim] at h
          | some found =>
              refine ⟨[], a, rules, rfl, hclaim, by simp, fun x hx hx' => ?_⟩
              refine Int.not_lt.1 fun hlt => ?_
              have hmem : x ∈ (inOrder rules).filter (outranks · a) :=
                List.mem_filter.2 ⟨mem_inOrder.2 hx, by simpa [outranks] using hlt⟩
              rw [List.findSome?_eq_none_iff.1 hhigher x hmem] at hx'
              cases hx'

theorem candidates_eq_inOrder (rules : List CompiledRule) (utility : Text) :
    candidates rules utility = inOrder (eligible rules utility) := by
  rw [candidates, eligible]
  cases Pattern.leadingWord? utility with
  | none => rfl
  | some word =>
      have hany : ((inOrder rules).filter (·.word == some word)).isEmpty =
          !rules.any (·.word == some word) := by
        rw [Bool.eq_iff_iff]
        simp [List.isEmpty_iff, List.filter_eq_nil_iff, mem_inOrder]
      simp only [hany]
      cases rules.any (·.word == some word) with
      | false => rfl
      | true => exact (inOrder_filter _ rules).symm

/-- **The answer of a registry's rules is the first claim** among those that the utility is looked
up among. -/
theorem firstClaim_choose (rules : List CompiledRule) (utility : Text) :
    FirstClaim (eligible rules utility) utility (choose rules utility) := by
  rw [choose, candidates_eq_inOrder]
  exact firstClaim_inOrder utility _

end UtilityCss.Registry

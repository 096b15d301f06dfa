import UtilityCss.Platform.Plain
import UtilityCss.Proofs.Registry.Lookup

/-!
# Registry — what a strict registry refuses

A strict registry refuses a rule that brings a name which is taken.  It looks at the name that the
rule brings, and the rule is registered under its resolved name.  The two are the same, unless the
rule brings none: then the resolved name is made of the pattern, and nothing is refused.

**Registering** (`add_strict`).  After any operations on a strict registry, a rule that is taken in
goes last and leaves the others as they are, if its name is new.  If its name is taken, it is a rule
that brought no name, and it takes the place of the one rule of that name
(`not_always_kept`).  A rule that is refused leaves the rules and the answers as they are.

* `put_of_fresh`, `put_of_taken`: where a rule is put.
-/

namespace UtilityCss.Registry

variable {rules : List CompiledRule} {new : CompiledRule}

/-! ### Where a rule is put -/

/-- A rule with a new name goes last. -/
theorem put_of_fresh (h : ∀ r ∈ rules, ¬ Json.sameKey r.name new.name) :
    put rules new = rules ++ [new] := by
  induction rules with
  | nil => rfl
  | cons r rules ih =>
      rw [put, if_neg (h r List.mem_cons_self), ih fun r' hr' => h r' (List.mem_cons_of_mem _ hr'),
        List.cons_append]

/-- A rule with a taken name takes the place of a rule of that name. -/
theorem put_of_taken (h : ∃ r ∈ rules, Json.sameKey r.name new.name) :
    ∃ before old later, rules = before ++ old :: later ∧ Json.sameKey old.name new.name ∧
      put rules new = before ++ new :: later := by
  induction rules with
  | nil => obtain ⟨r, hr, -⟩ := h; cases hr
  | cons r rules ih =>
      by_cases hr : Json.sameKey r.name new.name
      · exact ⟨[], r, rules, rfl, hr, by rw [put, if_pos hr, List.nil_append]⟩
      · obtain ⟨r', hr', hsame⟩ := h
        have hlater : ∃ r ∈ rules, Json.sameKey r.name new.name := by
          rcases List.mem_cons.1 hr' with rfl | hr'
          · exact absurd hsame hr
          · exact ⟨r', hr', hsame⟩
        obtain ⟨before, old, later, hrules, hold, hput⟩ := ih hlater
        exact ⟨r :: before, old, later, by rw [hrules, List.cons_append], hold,
          by rw [put, if_neg hr, hput, List.cons_append]⟩

section

variable [Platform]

/-! ### Registering -/

/-- Of well-formed rules, only one has the name of a rule. -/
theorem WellFormed.not_sameKey {before later : List CompiledRule} {old : CompiledRule}
    (h : WellFormed (before ++ old :: later)) (hold : Json.sameKey old.name new.name) :
    ∀ r ∈ before ++ later, ¬ Json.sameKey r.name new.name := by
  intro r hr hsame
  have hkey : r.name.key? = old.name.key? :=
    (Json.sameKey_iff.1 hsame).2.trans (Json.sameKey_iff.1 hold).2.symm
  have hdistinct := (List.perm_middle.map _).nodup_iff.1 h.distinct
  rw [List.map_cons, List.nodup_cons] at hdistinct
  exact hdistinct.1 (hkey ▸ List.mem_map_of_mem hr)

/-- A strict registry takes a rule in under a taken name only if the rule does not bring the
name. -/
theorem not_isTruthy_of_admitted? {rule : Rule} (h : admitted? true rules rule = some new)
    (htaken : rules.any fun r => Json.sameKey r.name new.name) : ¬ rule.name.isTruthy := by
  intro htruthy
  obtain ⟨hc, -⟩ := admitted?_eq_some h
  have hname : new.name = rule.name := by
    rw [(name_of_compile hc).1, Rule.resolvedName, if_pos htruthy]
  rw [hname] at htaken
  rw [admitted?, hc] at h
  simp [htruthy, htaken] at h

/-- **Registering with a strict registry.**  Whatever has been registered, removed and looked up
before: a rule that is taken in under a new name goes last, and the rules that were there stay as
they are.  If the name is taken, the rule did not bring it, and takes the place of the only rule of
that name; the others stay as they are.  A rule that is refused changes neither the rules nor the
answer for any utility. -/
theorem add_strict (ops : List Op) (rule : Rule) :
    let r := run { strict := true } ops
    let after := (r.add rule).2.1
    (∀ new, (r.add rule).1 = .ok new →
      if r.has new.name then
        ¬ rule.name.isTruthy ∧ new.name = .string (Pattern.defaultName rule.source) ∧
          ∃ before old later, r.rules = before ++ old :: later ∧
            Json.sameKey old.name new.name ∧
            (∀ other ∈ before ++ later, ¬ Json.sameKey other.name new.name) ∧
            after.rules = before ++ new :: later
      else after.rules = r.rules ++ [new]) ∧
    ∀ failure, (r.add rule).1 = .error failure →
      after.rules = r.rules ∧ ∀ utility, (after.claim utility).1 = (r.claim utility).1 := by
  intro r after
  obtain ⟨-, hstrict, hvalid⟩ : _ ∧ r.strict = true ∧ Valid r := (valid_empty true).run ops
  rcases add_cases r rule with ⟨-, failure, hadd⟩ | ⟨new, hadm, hadd⟩
  · have hafter : after = r := congrArg (·.2.1) hadd
    refine ⟨fun new hok => ?_, fun _ _ => ?_⟩
    · rw [hadd] at hok; cases hok
    · rw [hafter]; exact ⟨rfl, fun _ => rfl⟩
  · have hafter : after.rules = put r.rules new := congrArg (·.2.1.rules) hadd
    refine ⟨fun new' hok => ?_, fun failure herror => ?_⟩
    · rw [hadd] at hok
      cases hok
      rw [hstrict] at hadm
      split
      next htaken =>
          rw [has_eq_any] at htaken
          have hunnamed := not_isTruthy_of_admitted? hadm htaken
          obtain ⟨before, old, later, hrules, hold, hput⟩ :=
            put_of_taken (List.any_eq_true.1 htaken)
          refine ⟨hunnamed, ?_, before, old, later, hrules, hold, ?_, hafter.trans hput⟩
          · rw [(name_of_compile (admitted?_eq_some hadm).1).1, Rule.resolvedName,
              if_neg hunnamed]
          · exact (hrules ▸ hvalid.rules).not_sameKey hold
      next hfresh =>
          rw [has_eq_any, List.any_eq_true] at hfresh
          exact hafter.trans (put_of_fresh fun x hx hsame => hfresh ⟨x, hx, hsame⟩)
    · rw [hadd] at herror; cases herror

end

/-- Two patterns that differ in parentheses only, and no names: the second rule takes the place of
the first. -/
theorem not_always_kept :
    ¬ ∀ (ops : List Op) (rule : Rule),
      let r := run { strict := true } ops
      let after := (r.add rule).2.1
      ∀ new, (r.add rule).1 = .ok new →
        (∀ x ∈ r.rules, x ∈ after.rules) ∧ after.rules.length = r.rules.length + 1 := by
  intro hall
  have hadded := hall [.add { source := "p-(\\d+)".toList }] { source := "p-\\d+".toList }
  generalize hr : run { strict := true } [.add { source := "p-(\\d+)".toList }] = r at hadded
  cases hok : (r.add { source := "p-\\d+".toList }).1 with
  | error failure =>
      have htaken : (r.add { source := "p-\\d+".toList }).1.toOption.isSome := by
        subst hr; decide +kernel
      rw [hok] at htaken
      cases htaken
  | ok new =>
      have hlength : (r.add { source := "p-\\d+".toList }).2.1.rules.length = r.rules.length := by
        subst hr; decide +kernel
      have hmore := (hadded new hok).2
      omega

end UtilityCss.Registry

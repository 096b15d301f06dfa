import Mathlib.Data.List.Nodup
import UtilityCss.Platform.Plain
import UtilityCss.Proofs.Registry.Lookup

/-!
# Registry — the order of registration

Of rules with one priority the one that has been registered first is tried first.  Between rules of
different priorities the order of registration decides nothing: if the priorities of some rules are
pairwise distinct, then so is the place of each of them in the order in which they are tried, and
the index and every bucket of it are made from that order alone.

**Permutations** (`claim_perm`).  Rules whose names and priorities are pairwise distinct can be
registered in any order; every utility is answered by the same rule with the same captures, whatever
has been looked up before.
-/

namespace UtilityCss.Registry

variable {rules rules' : List CompiledRule}

/-! ### Priorities that differ -/

/-- Rules of different priorities have one order, however they are given. -/
theorem inOrder_perm (hperm : rules.Perm rules')
    (hpriorities : (rules.map (·.rule.priority)).Nodup) : inOrder rules = inOrder rules' := by
  refine List.Perm.eq_of_pairwise (fun a b ha hb hle hge => ?_) (inOrder_pairwise rules)
    (inOrder_pairwise rules') ?_
  · have hb : b ∈ rules := hperm.mem_iff.2 (mem_inOrder.1 hb)
    exact List.inj_on_of_nodup_map hpriorities (mem_inOrder.1 ha) hb (Int.le_antisymm hge hle)
  · exact (List.mergeSort_perm _ _).trans (hperm.trans (List.mergeSort_perm _ _).symm)

/-- The answer depends on the order in which rules are tried, and on nothing else. -/
theorem choose_eq_of_inOrder_eq (h : inOrder rules = inOrder rules') (utility : Text) :
    choose rules utility = choose rules' utility := by
  simp only [choose, candidates, h]

/-! ### Rules that can be registered together -/

section

variable [Platform]

/-- What rules are registered as, without those whose pattern cannot be read. -/
def compiledAll (rules : List Rule) : List CompiledRule :=
  rules.filterMap (·.compile.toOption)

variable {strict : Bool} {rules : List Rule}

theorem compile_of_admitted {rule : Rule} (h : (admitted? strict [] rule).isSome) :
    ∃ new, rule.compile = .ok new ∧ new.name.key?.isSome := by
  obtain ⟨new, hnew⟩ := Option.isSome_iff_exists.1 h
  exact ⟨new, admitted?_eq_some hnew⟩

/-- What is asked of the compiled rules can be asked of the rules. -/
theorem map_compiledAll {β : Type} (f : CompiledRule → β) (g : Rule → β)
    (hadmitted : ∀ rule ∈ rules, (admitted? strict [] rule).isSome)
    (hfg : ∀ rule new, rule.compile = .ok new → f new = g rule) :
    (compiledAll rules).map f = rules.map g := by
  rw [compiledAll, List.map_filterMap, ← List.filterMap_eq_map]
  refine List.filterMap_congr fun rule hrule => ?_
  obtain ⟨new, hnew, -⟩ := compile_of_admitted (hadmitted rule hrule)
  simp [hnew, Except.toOption, hfg rule new hnew]

/-- Rules of distinct names that can each be registered are well-formed together. -/
theorem wellFormed_compiledAll (hadmitted : ∀ rule ∈ rules, (admitted? strict [] rule).isSome)
    (hnames : rules.Pairwise fun a b => ¬ Json.sameKey a.resolvedName b.resolvedName) :
    WellFormed (compiledAll rules) := by
  have hcompiled : ∀ r ∈ compiledAll rules, ∃ rule ∈ rules, rule.compile = .ok r := by
    intro r hr
    obtain ⟨rule, hrule, hr⟩ := List.mem_filterMap.1 hr
    obtain ⟨new, hnew, -⟩ := compile_of_admitted (hadmitted rule hrule)
    rw [hnew] at hr
    obtain rfl : new = r := Option.some.inj hr
    exact ⟨rule, hrule, hnew⟩
  have hkeyed : ∀ rule ∈ rules, rule.resolvedName.key?.isSome := by
    intro rule hrule
    obtain ⟨new, hnew, hkey⟩ := compile_of_admitted (hadmitted rule hrule)
    rwa [(name_of_compile hnew).1] at hkey
  constructor
  case keyed =>
    intro r hr
    obtain ⟨rule, hrule, hnew⟩ := hcompiled r hr
    rw [(name_of_compile hnew).1]
    exact hkeyed rule hrule
  case distinct =>
    rw [keysOf, map_compiledAll (·.name.key?) (·.resolvedName.key?) hadmitted
      fun rule new hnew => by rw [(name_of_compile hnew).1], List.Nodup, List.pairwise_map]
    exact hnames.imp_of_mem fun ha _ hne heq => hne (Json.sameKey_iff.2 ⟨hkeyed _ ha, heq⟩)
  case compiled =>
    intro r hr
    obtain ⟨rule, hrule, hnew⟩ := hcompiled r hr
    rwa [(name_of_compile hnew).2]

/-- Rules of distinct names that can each be registered can be registered one after the other. -/
theorem addAll_of_admitted (hadmitted : ∀ rule ∈ rules, (admitted? strict [] rule).isSome)
    (hnames : rules.Pairwise fun a b => ¬ Json.sameKey a.resolvedName b.resolvedName) :
    ∃ r log, addAll { strict } rules = (.ok (), r, log) ∧ r.rules = compiledAll rules ∧
      r.Valid := by
  have hvalid := ((valid_empty strict).addAll rules).2.2
  have hwell : WellFormed (({ strict } : Registry).rules ++ compiledAll rules) :=
    wellFormed_compiledAll hadmitted hnames
  obtain ⟨r, log, hadd, hrules⟩ := (valid_empty strict).addAll_of_wellFormed hwell
  have hsource : (compiledAll rules).map (·.rule) = rules :=
    (map_compiledAll (·.rule) id hadmitted fun rule new hnew => (name_of_compile hnew).2).trans
      (List.map_id rules)
  rw [hsource] at hadd
  rw [hadd] at hvalid
  exact ⟨r, log, hadd, hrules, hvalid⟩

/-- **Permutations.**  Let rules be given that can each be registered, with pairwise distinct names
and pairwise distinct priorities.  Then they can be registered together, in the order in which they
are given and in any other; and whatever has been looked up in either registry before, both give the
same answer for a utility: the same rule with the same captures, or none. -/
theorem claim_perm (strict : Bool) {rules rules' : List Rule} (hperm : rules.Perm rules')
    (hadmitted : ∀ rule ∈ rules, (admitted? strict [] rule).isSome)
    (hnames : rules.Pairwise fun a b => ¬ Json.sameKey a.resolvedName b.resolvedName)
    (hpriorities : (rules.map (·.priority)).Nodup) :
    ∃ r r' log log', addAll { strict } rules = (.ok (), r, log) ∧
      addAll { strict } rules' = (.ok (), r', log') ∧
      ∀ before before' utility, ((r.claimAll before).2.claim utility).1 =
        ((r'.claimAll before').2.claim utility).1 := by
  have hsymm : ∀ {a b : Rule}, ¬ Json.sameKey a.resolvedName b.resolvedName →
      ¬ Json.sameKey b.resolvedName a.resolvedName := by
    intro a b hne hsame
    obtain ⟨hkey, heq⟩ := Json.sameKey_iff.1 hsame
    exact hne (Json.sameKey_iff.2 ⟨heq ▸ hkey, heq.symm⟩)
  obtain ⟨r, log, hadd, hrules, hvalid⟩ := addAll_of_admitted hadmitted hnames
  obtain ⟨r', log', hadd', hrules', hvalid'⟩ := addAll_of_admitted
    (fun rule hrule => hadmitted rule (hperm.mem_iff.2 hrule)) (hnames.perm hperm hsymm)
  have horder : inOrder r.rules = inOrder r'.rules := by
    rw [hrules, hrules']
    refine inOrder_perm (hperm.filterMap _) ?_
    rwa [map_compiledAll (·.rule.priority) (·.priority) hadmitted fun rule new hnew => by
      rw [(name_of_compile hnew).2]]
  refine ⟨r, r', log, log', hadd, hadd', fun before before' utility => ?_⟩
  obtain ⟨-, hkept, -, hvalid⟩ := hvalid.claimAll before
  obtain ⟨-, hkept', -, hvalid'⟩ := hvalid'.claimAll before'
  rw [(hvalid.claim utility).1, (hvalid'.claim utility).1, hkept, hkept']
  exact choose_eq_of_inOrder_eq horder utility

end

/-- Two rules that claim one utility. -/
def overlapping : Rule × Rule :=
  ({ source := "p-(\\d+)".toList, name := .str "number" },
    { source := "p-(4)".toList, name := .str "four", priority := 10 })

/-- The rule of higher priority answers, whichever is registered first. -/
theorem claim_perm_overlapping :
    ∃ r r' log log', addAll {} [overlapping.1, overlapping.2] = (.ok (), r, log) ∧
      addAll {} [overlapping.2, overlapping.1] = (.ok (), r', log') ∧
      ((r.claimAll ["p-5".toList]).2.claim "p-4".toList).1 = (r'.claim "p-4".toList).1 ∧
      ((r'.claim "p-4".toList).1.map fun found => (found.rule.rule.priority, found.captures)) =
        some (10, ["p-4".toList, "4".toList]) := by
  have hadmitted : ∀ rule ∈ [overlapping.1, overlapping.2], (admitted? false [] rule).isSome := by
    simp only [List.forall_mem_cons]
    exact ⟨by decide +kernel, by decide +kernel, List.forall_mem_nil _⟩
  have hnames : ¬ Json.sameKey overlapping.1.resolvedName overlapping.2.resolvedName := by decide
  obtain ⟨r, r', log, log', hadd, hadd', hclaim⟩ :=
    claim_perm false (.swap overlapping.2 overlapping.1 []) hadmitted
      (List.pairwise_pair.2 hnames) (by decide)
  -- the two are tried in the order in which the second registry has them
  have hvalid := ((valid_empty false).addAll [overlapping.2, overlapping.1]).2.2
  have hsorted : inOrder (addAll {} [overlapping.2, overlapping.1]).2.1.rules =
      (addAll {} [overlapping.2, overlapping.1]).2.1.rules :=
    List.mergeSort_of_pairwise (by decide +kernel)
  have hanswer : (((addAll {} [overlapping.2, overlapping.1]).2.1.claim "p-4".toList).1.map
      fun found => (found.rule.rule.priority, found.captures)) =
        some (10, ["p-4".toList, "4".toList]) := by
    rw [(hvalid.claim _).1, choose, candidates, hsorted]
    decide +kernel
  rw [hadd'] at hanswer
  refine ⟨r, r', log, log', hadd, hadd', ?_, hanswer⟩
  exact hclaim ["p-5".toList] [] "p-4".toList

end UtilityCss.Registry

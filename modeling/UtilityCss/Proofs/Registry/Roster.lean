import UtilityCss.Proofs.Json.Keys
import UtilityCss.Registry.Basic

/-!
# Registry — the rules that operations leave behind

What is registered depends on the operations that change the rules and on nothing else.  A rule
that is taken in (`admitted?`) under a name that is there takes the place of the rule of that name,
and goes last under a new one (`enrol`).

The rules of a registry are well-formed: their names are keys and pairwise distinct, and each is
what its own definition compiles to.  So registering them again, in their order, gives them back
(`WellFormed.admitted?`).
-/

namespace UtilityCss

namespace Registry

/-! ### Rules and their names -/

/-- The names of rules, as keys. -/
def keysOf (rules : List CompiledRule) : List (Option Json.Key) :=
  rules.map (·.name.key?)

theorem keysOf_cons (r : CompiledRule) (rules : List CompiledRule) :
    keysOf (r :: rules) = r.name.key? :: keysOf rules :=
  rfl

theorem mem_put {rules : List CompiledRule} {new r : CompiledRule} (h : r ∈ put rules new) :
    r = new ∨ r ∈ rules := by
  induction rules with
  | nil => simpa [put] using h
  | cons x rules ih =>
      simp only [put] at h
      split at h
      · rcases List.mem_cons.1 h with rfl | h
        · exact .inl rfl
        · exact .inr (List.mem_cons_of_mem _ h)
      · rcases List.mem_cons.1 h with rfl | h
        · exact .inr List.mem_cons_self
        · exact (ih h).imp_right (List.mem_cons_of_mem _)

theorem has_eq_any (r : Registry) (name : Json) :
    r.has name = r.rules.any fun x => Json.sameKey x.name name := by
  rw [Bool.eq_iff_iff, has, find?, List.find?_isSome, List.any_eq_true]

/-- Putting a rule in keeps the names, or adds its own at the end. -/
theorem keysOf_put (rules : List CompiledRule) {new : CompiledRule} (hnew : new.name.key?.isSome) :
    keysOf (put rules new) =
      if new.name.key? ∈ keysOf rules then keysOf rules else keysOf rules ++ [new.name.key?] := by
  induction rules with
  | nil => simp [put, keysOf]
  | cons x rules ih =>
      rw [put]
      by_cases hx : Json.sameKey x.name new.name
      · rw [if_pos hx, keysOf_cons, keysOf_cons, (Json.sameKey_iff.1 hx).2,
          if_pos List.mem_cons_self]
      · have hkey : new.name.key? ≠ x.name.key? := fun h =>
          hx (Json.sameKey_iff.2 ⟨h ▸ hnew, h.symm⟩)
        simp only [if_neg hx, keysOf_cons, ih, List.mem_cons, hkey, false_or]
        split <;> rfl

/-- A rule takes the place of the one of its name, and goes last if there is none. -/
def enrol (rules : List CompiledRule) (new : CompiledRule) : List CompiledRule :=
  if rules.any fun r => Json.sameKey r.name new.name then
    rules.map fun r => if Json.sameKey r.name new.name then new else r
  else rules ++ [new]

/-- With distinct names, putting a rule in replaces every rule of its name, for there is at most
one. -/
theorem put_eq_enrol {rules : List CompiledRule} {new : CompiledRule}
    (h : (keysOf rules).Nodup) : put rules new = enrol rules new := by
  induction rules with
  | nil => rfl
  | cons x rules ih =>
      rw [keysOf_cons, List.nodup_cons] at h
      have ih := ih h.2
      rw [put]
      cases hsame : Json.sameKey x.name new.name with
      | true =>
          -- the names of the others differ from that of `x`, which is that of the new rule
          have hrest : ∀ r ∈ rules, ¬ Json.sameKey r.name new.name := fun r hr hr' => by
            apply h.1
            rw [(Json.sameKey_iff.1 hsame).2, ← (Json.sameKey_iff.1 hr').2]
            exact List.mem_map_of_mem hr
          have hmap :
              rules.map (fun r => if Json.sameKey r.name new.name then new else r) = rules :=
            (List.map_congr_left fun r hr => if_neg (hrest r hr)).trans (List.map_id _)
          rw [enrol, List.any_cons, hsame, Bool.true_or, if_pos rfl, if_pos rfl, List.map_cons,
            hsame, if_pos rfl, hmap]
      | false =>
          rw [if_neg (by simp), ih, enrol, enrol, List.any_cons, hsame, Bool.false_or,
            List.map_cons, hsame]
          split <;> rfl

/-! ### Taking a rule in -/

variable [Platform]

/-- What a rule is registered as, unless it is refused: its pattern must be well-formed, its name a
key and, if the registry is strict and the rule brings the name itself, not taken. -/
def admitted? (strict : Bool) (rules : List CompiledRule) (rule : Rule) : Option CompiledRule :=
  match rule.compile with
  | .error _ => none
  | .ok new =>
    if new.name.key?.isNone then none
    else if strict && rule.name.isTruthy && rules.any fun r => Json.sameKey r.name rule.name then
      none
    else some new

/-- Rules are taken in one after the other, up to the first that is refused. -/
def enrolAll (strict : Bool) : List CompiledRule → List Rule → List CompiledRule
  | rules, [] => rules
  | rules, rule :: rest =>
    match admitted? strict rules rule with
    | none => rules
    | some new => enrolAll strict (enrol rules new) rest

theorem name_of_compile {rule : Rule} {new : CompiledRule} (h : rule.compile = .ok new) :
    new.name = rule.resolvedName ∧ new.rule = rule := by
  rw [Rule.compile] at h
  split at h
  · cases h
  · cases hp : Pattern.ofRule rule.source rule.flags with
    | error failure => rw [hp] at h; cases h
    | ok pattern => rw [hp] at h; cases h; exact ⟨rfl, rfl⟩

theorem admitted?_eq_some {strict : Bool} {rules : List CompiledRule} {rule : Rule}
    {new : CompiledRule} (h : admitted? strict rules rule = some new) :
    rule.compile = .ok new ∧ new.name.key?.isSome := by
  rw [admitted?] at h
  split at h
  · cases h
  next compiled hc =>
      split at h
      · cases h
      next hkey =>
          split at h
          · cases h
          · cases h
            exact ⟨hc, by simpa [Option.isSome_iff_ne_none] using hkey⟩

/-- Registering a rule either takes it in, or fails and leaves the registry as it was. -/
theorem add_cases (r : Registry) (rule : Rule) :
    (admitted? r.strict r.rules rule = none ∧ ∃ failure, r.add rule = (.error failure, r, [])) ∨
    ∃ new, admitted? r.strict r.rules rule = some new ∧
      r.add rule = (.ok new, r.withRules (put r.rules new), [registeredEntry new]) := by
  rw [admitted?, add]
  cases hc : rule.compile with
  | error failure => exact .inl ⟨rfl, failure, rfl⟩
  | ok new =>
      simp only [refused?, has_eq_any, (name_of_compile hc).1]
      split
      · exact .inl ⟨rfl, _, rfl⟩
      · split
        · exact .inl ⟨rfl, _, rfl⟩
        · exact .inr ⟨new, rfl, rfl⟩

/-! ### Well-formed rules -/

/-- The names are keys and pairwise distinct, and every rule is what it compiles to. -/
structure WellFormed (rules : List CompiledRule) : Prop where
  keyed : ∀ r ∈ rules, r.name.key?.isSome
  distinct : (keysOf rules).Nodup
  compiled : ∀ r ∈ rules, r.rule.compile = .ok r

theorem wellFormed_nil : WellFormed [] :=
  ⟨by simp, by simp [keysOf], by simp⟩

theorem WellFormed.put {rules : List CompiledRule} (h : WellFormed rules) {new : CompiledRule}
    (hnew : new.name.key?.isSome) (hc : new.rule.compile = .ok new) :
    WellFormed (Registry.put rules new) where
  keyed r hr := by
    rcases mem_put hr with rfl | hr
    · exact hnew
    · exact h.keyed r hr
  distinct := by
    rw [keysOf_put rules hnew]
    split
    · exact h.distinct
    next hfresh =>
        rw [List.nodup_append]
        refine ⟨h.distinct, by simp, fun key hkey key' hkey' heq => hfresh ?_⟩
        rwa [← List.mem_singleton.1 hkey', ← heq]
  compiled r hr := by
    rcases mem_put hr with rfl | hr
    · exact hc
    · exact h.compiled r hr

theorem WellFormed.filter {rules : List CompiledRule} (h : WellFormed rules)
    (p : CompiledRule → Bool) : WellFormed (rules.filter p) where
  keyed r hr := h.keyed r (List.mem_filter.1 hr).1
  distinct := (List.filter_sublist.map _).nodup h.distinct
  compiled r hr := h.compiled r (List.mem_filter.1 hr).1

/-! ### Registering rules again -/

theorem WellFormed.of_append {rules more : List CompiledRule} (h : WellFormed (rules ++ more)) :
    WellFormed rules where
  keyed r hr := h.keyed r (List.mem_append_left _ hr)
  distinct := ((List.sublist_append_left rules more).map _).nodup h.distinct
  compiled r hr := h.compiled r (List.mem_append_left _ hr)

/-- The name of the last of well-formed rules is new. -/
theorem WellFormed.not_taken {rules : List CompiledRule} {new : CompiledRule}
    (h : WellFormed (rules ++ [new])) {name : Json} (hname : name.key? = new.name.key?) :
    (rules.any fun r => Json.sameKey r.name name) = false := by
  rw [List.any_eq_false]
  intro r hr hsame
  have hdistinct := h.distinct
  rw [keysOf, List.map_append, List.nodup_append] at hdistinct
  exact hdistinct.2.2 _ (List.mem_map_of_mem hr) _ (by simp)
    ((Json.sameKey_iff.1 hsame).2.trans hname)

/-- **Well-formed rules can be registered again**, in a strict registry too, and go last. -/
theorem WellFormed.admitted? {rules : List CompiledRule} {new : CompiledRule}
    (h : WellFormed (rules ++ [new])) (strict : Bool) :
    Registry.admitted? strict rules new.rule = some new ∧
      Registry.enrol rules new = rules ++ [new] := by
  have hc := h.compiled new (by simp)
  have hkey : ¬ new.name.key?.isNone := by
    simpa [Option.isSome_iff_ne_none] using h.keyed new (by simp)
  have htaken : (strict && new.rule.name.isTruthy &&
      rules.any fun r => Json.sameKey r.name new.rule.name) = false := by
    cases htruthy : new.rule.name.isTruthy with
    | false => simp
    | true =>
        have hname : new.name = new.rule.name := by
          rw [(name_of_compile hc).1, Rule.resolvedName, if_pos htruthy]
        rw [h.not_taken (congrArg Json.key? hname.symm), Bool.and_false]
  constructor
  · simp [Registry.admitted?, hc, hkey, htaken]
  · simp [Registry.enrol, h.not_taken rfl]

end Registry

end UtilityCss

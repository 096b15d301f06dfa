import Mathlib.Data.List.Induction
import UtilityCss.Proofs.Registry.Order
import UtilityCss.Proofs.Registry.Roster

/-!
# Registry — the index and the memo do not show

A registry answers from its memo, or else from the buckets of its index, and both are left from
earlier lookups.  The rules alone decide the answer.

`Valid` says that the index, if there is one, is that of the rules, that every answer in the memo
is what `choose` gives for them, and that the rules are well-formed.  Every operation keeps it:
lookups leave the rules alone, and a change of the rules drops index and memo.

**Lookup** (`claim_run`).  After any operations the rules are those that the changes among the
operations leave behind (`roster`); the answer for a utility is that of `choose` on them, and it is
the first claim among the rules that the utility is looked up among.  The lookups that came before
make no difference.
-/

namespace UtilityCss.Registry

/-! ### Buckets -/

theorem lookup_insertBucket (buckets : List (Text × List CompiledRule)) (word : Text)
    (r : CompiledRule) (w : Text) :
    (insertBucket buckets word r).lookup w =
      if w == word then some ((buckets.lookup word).getD [] ++ [r]) else buckets.lookup w := by
  induction buckets with
  | nil => cases hw : w == word <;> simp [insertBucket, List.lookup_cons, hw]
  | cons bucket buckets ih =>
      obtain ⟨v, rs⟩ := bucket
      rw [insertBucket]
      by_cases hv : v = word
      · subst hv
        cases hw : w == v <;> simp [List.lookup_cons, hw]
      · have hv' : (word == v) = false := by simpa using fun h => hv h.symm
        rw [if_neg (by simpa using hv), List.lookup_cons, List.lookup_cons, ih, List.lookup_cons,
          hv']
        cases hwv : w == v with
        | false => rfl
        | true =>
            obtain rfl := eq_of_beq hwv
            simp [hv]

/-- Puts a rule into the bucket of its word, if it has one. -/
def addToBucket (buckets : List (Text × List CompiledRule)) (r : CompiledRule) :
    List (Text × List CompiledRule) :=
  match r.word with
  | some word => insertBucket buckets word r
  | none => buckets

theorem buckets_ofRules (rules : List CompiledRule) :
    (Index.ofRules rules).buckets = (inOrder rules).foldl addToBucket [] :=
  rfl

/-- The bucket of a word holds the rules that start with it, in their order; there is one if there
are any. -/
theorem lookup_buckets (sorted : List CompiledRule) (word : Text) :
    (sorted.foldl addToBucket []).lookup word =
      if (sorted.filter (·.word == some word)).isEmpty then none
      else some (sorted.filter (·.word == some word)) := by
  induction sorted using List.reverseRecOn with
  | nil => rfl
  | append_singleton rules r ih =>
      rw [List.foldl_append, List.filter_append, List.foldl_cons, List.foldl_nil, addToBucket]
      cases hr : r.word with
      | none => simp [hr, ih]
      | some v =>
          simp only [lookup_insertBucket]
          by_cases hv : word = v
          · subst hv
            have hbucket : ((rules.foldl addToBucket []).lookup word).getD [] =
                rules.filter (·.word == some word) := by
              rw [ih]
              split
              next hempty => exact (List.isEmpty_iff.1 hempty).symm
              next => rfl
            simp [hr, hbucket]
          · have hv' : (v == word) = false := by simpa using fun h => hv h.symm
            simp [hr, hv, hv', ih]

/-- Looking up through the index is looking up among the candidates. -/
theorem candidates_ofRules (rules : List CompiledRule) (utility : Text) :
    (Index.ofRules rules).candidates utility = candidates rules utility := by
  rw [Index.candidates, candidates]
  cases Pattern.leadingWord? utility with
  | none => rfl
  | some word =>
      rw [Option.bind_some, buckets_ofRules, lookup_buckets]
      cases hempty : ((inOrder rules).filter (·.word == some word)).isEmpty <;>
        simp [hempty, Index.ofRules]

variable [Platform]

/-! ### Valid registries -/

/-- Index and memo are those of the rules, and the rules are well-formed. -/
structure Valid (r : Registry) : Prop where
  index : ∀ index, r.index = some index → index = Index.ofRules r.rules
  memo : ∀ utility answer, r.memo.lookup utility = some answer → answer = choose r.rules utility
  rules : WellFormed r.rules

/-- A registry of well-formed rules is valid without index and memo. -/
theorem valid_of_bare {r : Registry} (hi : r.index = none) (hm : r.memo = [])
    (h : WellFormed r.rules) : Valid r where
  index index hindex := by rw [hi] at hindex; cases hindex
  memo utility answer hanswer := by rw [hm] at hanswer; cases hanswer
  rules := h

theorem valid_withRules (r : Registry) {rules : List CompiledRule} (h : WellFormed rules) :
    Valid (r.withRules rules) :=
  valid_of_bare rfl rfl h

theorem valid_empty (strict : Bool) : Valid { strict } :=
  valid_of_bare rfl rfl wellFormed_nil

/-- The index is that of the rules, and making it changes nothing else. -/
theorem Valid.indexed {r : Registry} (h : Valid r) :
    ∃ log, r.indexed =
      (Index.ofRules r.rules, { r with index := some (Index.ofRules r.rules) }, log) := by
  rw [Registry.indexed]
  cases hi : r.index with
  | none => exact ⟨_, rfl⟩
  | some index =>
      obtain rfl := h.index index hi
      exact ⟨[], by simp only [← hi]⟩

/-- **One lookup.**  It gives what the rules alone give, leaves the rules as they are and keeps the
registry valid. -/
theorem Valid.claim {r : Registry} (h : Valid r) (utility : Text) :
    (r.claim utility).1 = choose r.rules utility ∧ (r.claim utility).2.1.rules = r.rules ∧
      (r.claim utility).2.1.strict = r.strict ∧ Valid (r.claim utility).2.1 := by
  rw [Registry.claim]
  cases hm : r.memo.lookup utility with
  | some answer => exact ⟨h.memo utility answer hm, rfl, rfl, h⟩
  | none =>
      obtain ⟨log, hindexed⟩ := h.indexed
      have hanswer : firstMatch? ((Index.ofRules r.rules).candidates utility) utility =
          choose r.rules utility := by rw [candidates_ofRules, choose]
      simp only [hindexed, hanswer]
      refine ⟨trivial, trivial, trivial, fun index hi => (Option.some.inj hi).symm,
        fun u answer hu => ?_, h.rules⟩
      simp only [List.lookup_cons] at hu
      split at hu
      next heq => rw [eq_of_beq heq]; exact (Option.some.inj hu).symm
      next => exact h.memo u answer hu

/-- Registering a rule that is taken in puts it among the rules, and one that is refused leaves
them; the registry stays valid. -/
theorem Valid.add {r : Registry} (h : Valid r) (rule : Rule) :
    (r.add rule).2.1.rules = ((admitted? r.strict r.rules rule).map (enrol r.rules)).getD r.rules ∧
      (r.add rule).2.1.strict = r.strict ∧ Valid (r.add rule).2.1 := by
  rcases add_cases r rule with ⟨hadm, failure, hadd⟩ | ⟨new, hadm, hadd⟩
  · rw [hadm, hadd]
    exact ⟨rfl, rfl, h⟩
  · obtain ⟨hc, hkey⟩ := admitted?_eq_some hadm
    rw [hadm, hadd]
    refine ⟨put_eq_enrol h.rules.distinct, rfl, valid_withRules r (h.rules.put hkey ?_)⟩
    rwa [(name_of_compile hc).2]

/-- Registering rules one after the other takes in those before the first that is refused. -/
theorem Valid.addAll {r : Registry} (h : Valid r) (rules : List Rule) :
    (r.addAll rules).2.1.rules = enrolAll r.strict r.rules rules ∧
      (r.addAll rules).2.1.strict = r.strict ∧ Valid (r.addAll rules).2.1 := by
  induction rules generalizing r with
  | nil => exact ⟨rfl, rfl, h⟩
  | cons rule rest ih =>
      obtain ⟨hrules, hstrict, hvalid⟩ := h.add rule
      rw [Registry.addAll, enrolAll]
      rcases add_cases r rule with ⟨hadm, failure, hadd⟩ | ⟨new, hadm, hadd⟩
      · rw [hadm, hadd]
        exact ⟨rfl, rfl, h⟩
      · rw [hadm, hadd] at hrules
        rw [hadd] at hstrict hvalid
        obtain ⟨hrules', hstrict', hvalid'⟩ := ih hvalid
        rw [hadm, hadd]
        rw [hrules, hstrict] at hrules'
        exact ⟨hrules', hstrict'.trans hstrict, hvalid'⟩

/-- Well-formed rules that are registered again succeed and go last, in their order. -/
theorem Valid.addAll_of_wellFormed {r : Registry} (h : Valid r) {rules : List CompiledRule}
    (hrules : WellFormed (r.rules ++ rules)) :
    ∃ r' log, r.addAll (rules.map (·.rule)) = (.ok (), r', log) ∧ r'.rules = r.rules ++ rules := by
  induction rules generalizing r with
  | nil => exact ⟨r, [], rfl, (List.append_nil _).symm⟩
  | cons rule rest ih =>
      rw [List.append_cons] at hrules
      obtain ⟨hadm, henrol⟩ := hrules.of_append.admitted? r.strict
      obtain ⟨hadd, -, hvalid⟩ := h.add rule.rule
      rw [hadm, Option.map_some, Option.getD_some, henrol] at hadd
      rcases add_cases r rule.rule with ⟨hnone, -⟩ | ⟨new, -, hstep⟩
      · rw [hadm] at hnone; cases hnone
      · rw [hstep] at hadd hvalid
        obtain ⟨r', log, hrest, hr'⟩ := ih hvalid (by rwa [hadd])
        refine ⟨r', registeredEntry new :: log, ?_, ?_⟩
        · rw [List.map_cons, Registry.addAll, hstep]
          simp only [hrest, List.singleton_append]
        · rw [hr', hadd, List.append_assoc, List.singleton_append]

theorem Valid.remove {r : Registry} (h : Valid r) (name : Json) :
    (r.remove name).2.rules = r.rules.filter (fun x => !Json.sameKey x.name name) ∧
      (r.remove name).2.strict = r.strict ∧ Valid (r.remove name).2 := by
  rw [Registry.remove]
  split
  · exact ⟨rfl, rfl, valid_withRules r (h.rules.filter _)⟩
  next hhas =>
      rw [has_eq_any] at hhas
      refine ⟨(List.filter_eq_self.2 fun x hx => ?_).symm, rfl, h⟩
      simpa using fun hsame => hhas (List.any_eq_true.2 ⟨x, hx, hsame⟩)

theorem Valid.clear {r : Registry} (_ : Valid r) :
    r.clear.2.rules = [] ∧ r.clear.2.strict = r.strict ∧ Valid r.clear.2 :=
  ⟨rfl, rfl, valid_withRules r wellFormed_nil⟩

/-! ### Runs -/

/-- Looks utilities up one after the other. -/
def claimAll (r : Registry) : List Text → List (Text × Option Match) × Registry
  | [] => ([], r)
  | utility :: rest =>
    let (answer, r, _) := r.claim utility
    let (answers, r) := claimAll r rest
    ((utility, answer) :: answers, r)

/-- The operations of a registry. -/
inductive Op where
  | add (rule : Rule)
  | addAll (rules : List Rule)
  | remove (name : Json)
  | clear
  | claim (utility : Text)
  | claimAll (utilities : List Text)

/-- Whether an operation may change the rules. -/
def Op.isChange : Op → Bool
  | .claim _ | .claimAll _ => false
  | _ => true

/-- The registry after an operation, whether that fails or not. -/
def perform (r : Registry) : Op → Registry
  | .add rule => (r.add rule).2.1
  | .addAll rules => (r.addAll rules).2.1
  | .remove name => (r.remove name).2
  | .clear => r.clear.2
  | .claim utility => (r.claim utility).2.1
  | .claimAll utilities => (r.claimAll utilities).2

/-- The registry after operations. -/
def run (r : Registry) (ops : List Op) : Registry :=
  ops.foldl perform r

/-- The rules after an operation, by the rules before it. -/
def changeRoster (strict : Bool) (rules : List CompiledRule) : Op → List CompiledRule
  | .add rule => ((admitted? strict rules rule).map (enrol rules)).getD rules
  | .addAll new => enrolAll strict rules new
  | .remove name => rules.filter fun r => !Json.sameKey r.name name
  | .clear => []
  | .claim _ | .claimAll _ => rules

/-- The rules that operations on an empty registry leave behind, in the order of registration. -/
def roster (strict : Bool) (ops : List Op) : List CompiledRule :=
  ops.foldl (changeRoster strict) []

theorem Valid.claimAll {r : Registry} (h : Valid r) (utilities : List Text) :
    (r.claimAll utilities).1 = utilities.map (fun u => (u, choose r.rules u)) ∧
      (r.claimAll utilities).2.rules = r.rules ∧ (r.claimAll utilities).2.strict = r.strict ∧
      Valid (r.claimAll utilities).2 := by
  induction utilities generalizing r with
  | nil => exact ⟨rfl, rfl, rfl, h⟩
  | cons utility rest ih =>
      obtain ⟨hanswer, hrules, hstrict, hvalid⟩ := h.claim utility
      obtain ⟨hanswers, hrules', hstrict', hvalid'⟩ := ih hvalid
      rw [hrules] at hanswers hrules'
      rw [hstrict] at hstrict'
      refine ⟨?_, hrules', hstrict', hvalid'⟩
      change (utility, (r.claim utility).1) :: ((r.claim utility).2.1.claimAll rest).1 = _
      rw [hanswers, hanswer, List.map_cons]

/-- **One operation** does to the rules what it says, and keeps the registry valid. -/
theorem Valid.perform {r : Registry} (h : Valid r) (op : Op) :
    (r.perform op).rules = changeRoster r.strict r.rules op ∧ (r.perform op).strict = r.strict ∧
      Valid (r.perform op) := by
  cases op with
  | add rule => exact h.add rule
  | addAll rules => exact h.addAll rules
  | remove name => exact h.remove name
  | clear => exact h.clear
  | claim utility => exact (h.claim utility).2
  | claimAll utilities => exact (h.claimAll utilities).2

/-- A run of operations leaves behind the rules that the operations say. -/
theorem Valid.run {r : Registry} (h : Valid r) (ops : List Op) :
    (r.run ops).rules = ops.foldl (changeRoster r.strict) r.rules ∧
      (r.run ops).strict = r.strict ∧ Valid (r.run ops) := by
  induction ops generalizing r with
  | nil => exact ⟨rfl, rfl, h⟩
  | cons op ops ih =>
      obtain ⟨hrules, hstrict, hvalid⟩ := h.perform op
      have ih := ih hvalid
      rw [hrules, hstrict] at ih
      exact ih

theorem changeRoster_of_not_isChange (strict : Bool) (rules : List CompiledRule) {op : Op}
    (h : op.isChange = false) : changeRoster strict rules op = rules := by
  cases op with
  | claim | claimAll => rfl
  | add | addAll | remove | clear => cases h

/-- Lookups leave no trace in the rules. -/
theorem roster_filter_isChange (strict : Bool) (ops : List Op) :
    roster strict (ops.filter Op.isChange) = roster strict ops := by
  simp only [roster]
  generalize ([] : List CompiledRule) = rules
  induction ops generalizing rules with
  | nil => rfl
  | cons op ops ih =>
      cases hop : op.isChange with
      | true => rw [List.filter_cons_of_pos hop, List.foldl_cons, List.foldl_cons, ih]
      | false =>
          rw [List.filter_cons_of_neg (by simp [hop]), List.foldl_cons,
            changeRoster_of_not_isChange strict rules hop, ih]

theorem claim_run_eq_choose (strict : Bool) (ops : List Op) (utility : Text) :
    ((run { strict } ops).claim utility).1 = choose (roster strict ops) utility := by
  obtain ⟨hrules, -, hvalid⟩ := (valid_empty strict).run ops
  rw [(hvalid.claim utility).1, hrules]
  rfl

/-- **Lookup.**  Whatever has been registered, removed and looked up before, failures included: the
rules are those that the changes leave behind, in the order of registration; a utility is answered
from these rules alone, by the first claim among those that it is looked up among; and leaving the
earlier lookups out does not change the answer. -/
theorem claim_run (strict : Bool) (ops : List Op) (utility : Text) :
    (run { strict } ops).rules = roster strict ops ∧
      ((run { strict } ops).claim utility).1 = choose (roster strict ops) utility ∧
      FirstClaim (eligible (roster strict ops) utility) utility
        ((run { strict } ops).claim utility).1 ∧
      ((run { strict } (ops.filter Op.isChange)).claim utility).1 =
        ((run { strict } ops).claim utility).1 ∧
      ∀ utilities, ((run { strict } ops).claimAll utilities).1 =
        utilities.map fun u => (u, choose (roster strict ops) u) := by
  obtain ⟨hrules, -, hvalid⟩ := (valid_empty strict).run ops
  have hanswer := claim_run_eq_choose strict ops utility
  refine ⟨hrules, hanswer, ?_, ?_, fun utilities => ?_⟩
  · rw [hanswer]
    exact firstClaim_choose _ utility
  · rw [hanswer, claim_run_eq_choose, roster_filter_isChange]
  · rw [(hvalid.claimAll utilities).1, hrules]
    rfl

end UtilityCss.Registry

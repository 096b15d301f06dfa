import Mathlib.Algebra.Order.Field.Basic
import Mathlib.Algebra.Order.Field.Rat
import UtilityCss.Proofs.Cache.Settings
import UtilityCss.Proofs.Cache.Views

/-!
# Caches — what is counted

A cache counts the reads that have given a value and those that have given none.

**Counts** (`counts_run`).  After any run, in which the settings may be changed and the cache
switched on and off, the counts are those of the reads that have been made while the cache was
enabled, since they were last started again: together as many as have given a result, and the first
of them as many as have given a value, be it empty.  A read fails only where the lifetime cannot be
used.  Nothing else changes the counts, and their share is taken of some reads only and is a number
of percent.

Beside the run stands the list of the answers that its reads have given (`answers`).  `Counted` says
that the counts are those of a list of answers; reading several keys keeps it (`Counted.getMany`),
so does a turn (`Counted.turn`), and so does a run.
-/

namespace UtilityCss.Cache

/-! ### Runs with changing settings -/

/-- A turn of a run: an action, or other settings. -/
inductive Turn where
  | act (action : Action)
  | configure (maxSize lifetime enabled : Json)

namespace Turn

/-- The keys that are read, in order. -/
def keys : Turn → List Text
  | .act (.op (.get key)) => [key]
  | .act (.op (.getMany keys)) => keys
  | _ => []

/-- The turn starts the counts again. -/
def resets : Turn → Bool
  | .act .clear | .act (.clearWithVersion _) => true
  | _ => false

/-- The lifetime can be used if the turn sets one. -/
def IsUsable : Turn → Prop
  | .configure _ lifetime _ => ∃ l, lifetimeOf lifetime = .ok l
  | .act _ => True

end Turn

/-- The cache after a turn, whether that fails or not. -/
def turn (c : Cache) : Turn → Cache
  | .act action => c.act action
  | .configure maxSize lifetime enabled => c.configure maxSize lifetime enabled

/-- The cache after turns. -/
def turnAll (c : Cache) (turns : List Turn) : Cache :=
  turns.foldl turn c

/-- What reading a key gives: a value, none, or a failure. -/
abbrev Answer := Outcome (Option Text)

/-- What reading keys one after the other gives, up to the first failure. -/
def answersTo (c : Cache) : List Text → List Answer
  | [] => []
  | key :: rest =>
    match c.get key with
    | (.error failure, _) => [.error failure]
    | (.ok value, c) => .ok value :: answersTo c rest

/-- What the reads of a turn give that are made while the cache is enabled. -/
def answersBy (c : Cache) (turn : Turn) : List Answer :=
  if c.store.enabled then c.answersTo turn.keys else []

/-- What the reads of turns give after those of the past, since the counts were last started
again. -/
def answers (c : Cache) (past : List Answer) : List Turn → List Answer
  | [] => past
  | turn :: turns =>
    (c.turn turn).answers (if turn.resets then [] else past ++ c.answersBy turn) turns

/-- The answers that are no failures. -/
def returned (answers : List Answer) : List (Option Text) :=
  answers.filterMap Except.toOption

variable {c : Cache} {past : List Answer}

/-! ### Counting -/

/-- The counts are those of the answers. -/
structure Counted (past : List Answer) (c : Cache) : Prop where
  hits : c.store.hits = (returned past).countP Option.isSome
  misses : c.store.misses = (returned past).countP Option.isNone

/-- The counts of two stores are the same. -/
structure Store.SameCounts (s s' : Store) : Prop where
  hits : s'.hits = s.hits
  misses : s'.misses = s.misses

theorem Store.SameCounts.refl (s : Store) : s.SameCounts s :=
  ⟨rfl, rfl⟩

theorem Store.SameCounts.trans {s s' s'' : Store} (h : s.SameCounts s') (h' : s'.SameCounts s'') :
    s.SameCounts s'' :=
  ⟨h'.hits.trans h.hits, h'.misses.trans h.misses⟩

theorem Counted.of_sameCounts {c' : Cache} (h : Counted past c)
    (hsame : c.store.SameCounts c'.store) : Counted past c' :=
  ⟨hsame.hits.trans h.hits, hsame.misses.trans h.misses⟩

/-- **A read** that is made while the cache is enabled is counted with the answer that it gives. -/
theorem Counted.get (h : Counted past c) (henabled : c.store.enabled = true) (key : Text) :
    Counted (past ++ [(c.get key).1]) (c.get key).2 := by
  rw [Cache.get]
  rcases guarded_cases c (c.looksAt key) (lifetimeOf c.lifetime) (fun _ => c.store.get key) with
    ⟨misuse, -, -, hdone⟩ | hdone <;> rw [hdone]
  · -- a failure is not counted and leaves the counts as they are
    exact ⟨by simp [returned, Except.toOption, h.hits],
      by simp [returned, Except.toOption, h.misses]⟩
  · rcases Store.get_cases c.store key with ⟨hd, -⟩ | ⟨-, -, hg⟩ | ⟨e, -, -, -, hg⟩ |
        ⟨e, -, -, -, hg⟩
    · rw [henabled] at hd
      cases hd
    all_goals
      rw [hg]
      exact ⟨by simp [returned, Except.toOption, h.hits],
        by simp [returned, Except.toOption, h.misses]⟩

/-- **Reading several keys** is reading each of them, up to the first failure. -/
theorem Counted.getMany (h : Counted past c) (henabled : c.store.enabled = true) (keys : List Text)
    (found : List (Text × Text)) :
    Counted (past ++ c.answersTo keys) (c.getMany keys found).2 := by
  induction keys generalizing c past found with
  | nil => rwa [answersTo, List.append_nil]
  | cons key rest ih =>
      have hread := h.get henabled key
      have hafter := (sameSettings_get c key).storeEnabled.trans henabled
      rw [answersTo, Cache.getMany]
      rcases hget : c.get key with ⟨failure | value, after⟩ <;> rw [hget] at hread hafter
      · exact hread
      · -- what has been found so far has no bearing on the counts
        have hrest := fun found => ih hread hafter found
        rw [List.append_assoc, List.singleton_append] at hrest
        cases value with
        | none => exact hrest found
        | some value => exact hrest (keep found key value)

/-! ### What is not counted -/

/-- A cache that is not enabled gives nothing and stays as it is. -/
theorem get_of_disabled (h : c.store.enabled = false) (key : Text) : c.get key = (.ok none, c) := by
  have hlooks : c.looksAt key = false := by simp [looksAt, h]
  have hget : c.store.get key = (none, c.store) := by simp [Store.get, h]
  rw [Cache.get, hlooks]
  simp [guarded, hget]

theorem getMany_of_disabled (h : c.store.enabled = false) (keys : List Text)
    (found : List (Text × Text)) : c.getMany keys found = (.ok found, c) := by
  induction keys with
  | nil => rfl
  | cons key rest ih => simp only [Cache.getMany, get_of_disabled h, ih]

theorem sameCounts_guarded {α : Type} (c : Cache) (needed : Bool) (setting : Except Misuse Number)
    {next : Unit → α × Store} (h : c.store.SameCounts (next ()).2) :
    c.store.SameCounts (c.guarded needed setting next).2.store := by
  rcases guarded_cases c needed setting next with ⟨misuse, -, -, hdone⟩ | hdone <;> rw [hdone]
  · exact .refl c.store
  · exact h

theorem Store.sameCounts_has (s : Store) (key : Text) : s.SameCounts (s.has key).2 := by
  rcases has_cases s key with ⟨-, hh⟩ | ⟨-, -, hh⟩ | ⟨e, -, -, -, hh⟩ | ⟨e, -, -, -, hh⟩ <;>
    rw [hh] <;> exact ⟨rfl, rfl⟩

theorem Store.sameCounts_set (s : Store) (key value : Text) : s.SameCounts (s.set key value) := by
  obtain ⟨entries, hset⟩ := s.set_settings key value
  rw [hset]
  exact ⟨rfl, rfl⟩

theorem sameCounts_set (c : Cache) (key value : Text) :
    c.store.SameCounts (c.set key value).1.2.store :=
  sameCounts_guarded c _ _ (c.store.sameCounts_set key value)

theorem sameCounts_setMany (c : Cache) (entries : List (Text × Text)) :
    c.store.SameCounts (c.setMany entries).2.store :=
  setMany_keeps (P := fun c' => c.store.SameCounts c'.store)
    (fun c' key value h => h.trans (sameCounts_set c' key value)) (.refl c.store) entries

/-- **Nothing else is counted**: a turn that does not start the counts again, and reads no key or is
made while the cache is not enabled, leaves the counts as they are. -/
theorem sameCounts_turn {turn : Turn} (hresets : turn.resets = false)
    (hreads : turn.keys = [] ∨ c.store.enabled = false) :
    c.store.SameCounts (c.turn turn).store := by
  cases turn with
  | configure maxSize lifetime enabled => exact ⟨rfl, rfl⟩
  | act action =>
      cases action with
      | op op =>
          cases op with
          | set key value => exact sameCounts_set c key value
          | setMany entries => exact sameCounts_setMany c entries
          | get key =>
              have hdisabled := hreads.resolve_left (List.cons_ne_nil key [])
              have hsame : c.turn (.act (.op (.get key))) = c :=
                congrArg Prod.snd (get_of_disabled hdisabled key)
              rw [hsame]
              exact .refl c.store
          | getMany keys =>
              have hsame : c.turn (.act (.op (.getMany keys))) = c := by
                obtain hnone | hdisabled := hreads
                · obtain rfl : keys = [] := hnone
                  rfl
                · exact congrArg Prod.snd (getMany_of_disabled hdisabled keys [])
              rw [hsame]
              exact .refl c.store
          | has key => exact sameCounts_guarded c _ _ (c.store.sameCounts_has key)
          | advance milliseconds => exact ⟨rfl, rfl⟩
      | atTime now => exact ⟨rfl, rfl⟩
      | delete key => exact ⟨rfl, rfl⟩
      | clear => cases hresets
      | setVersion version => exact ⟨rfl, rfl⟩
      | clearWithVersion version => cases hresets
      | cleanup => exact sameCounts_guarded c _ _ ⟨rfl, rfl⟩

/-! ### Runs -/

theorem counted_of_resets {turn : Turn} (h : turn.resets = true) (c : Cache) :
    Counted [] (c.turn turn) := by
  cases turn with
  | configure maxSize lifetime enabled => cases h
  | act action =>
      cases action with
      | clear => exact ⟨rfl, rfl⟩
      | clearWithVersion version => exact ⟨rfl, rfl⟩
      | _ => cases h

theorem answersTo_singleton (c : Cache) (key : Text) : c.answersTo [key] = [(c.get key).1] := by
  rw [answersTo]
  rcases c.get key with ⟨failure | value, after⟩ <;> rfl

/-- A turn that reads keys is counted with the answers that it gives. -/
theorem Counted.read {turn : Turn} (h : Counted past c) (henabled : c.store.enabled = true)
    (hkeys : turn.keys ≠ []) : Counted (past ++ c.answersTo turn.keys) (c.turn turn) := by
  cases turn with
  | configure maxSize lifetime enabled => exact absurd rfl hkeys
  | act action =>
      cases action with
      | op op =>
          cases op with
          | get key =>
              have hread := h.get henabled key
              rwa [← answersTo_singleton] at hread
          | getMany keys => exact h.getMany henabled keys []
          | _ => exact absurd rfl hkeys
      | _ => exact absurd rfl hkeys

/-- **One turn** keeps the counts those of the answers. -/
theorem Counted.turn (h : Counted past c) (turn : Turn) :
    Counted (if turn.resets then [] else past ++ c.answersBy turn) (c.turn turn) := by
  by_cases hresets : turn.resets = true
  · rw [if_pos hresets]
    exact counted_of_resets hresets c
  rw [if_neg hresets]
  rw [Bool.not_eq_true] at hresets
  by_cases hreads : turn.keys = [] ∨ c.store.enabled = false
  · -- such a turn adds no answer and changes no count
    have hnone : c.answersBy turn = [] := by
      obtain hkeys | hdisabled := hreads
      · simp [answersBy, hkeys, answersTo]
      · simp [answersBy, hdisabled]
    rw [hnone, List.append_nil]
    exact h.of_sameCounts (sameCounts_turn hresets hreads)
  · simp only [not_or, Bool.not_eq_false] at hreads
    rw [answersBy, if_pos hreads.2]
    exact h.read hreads.2 hreads.1

/-- **A run** keeps the counts those of the answers. -/
theorem Counted.turnAll (h : Counted past c) (turns : List Turn) :
    Counted (c.answers past turns) (c.turnAll turns) := by
  induction turns generalizing past c with
  | nil => exact h
  | cons turn turns ih => exact ih (h.turn turn)

/-- Every read either gives a value or none. -/
theorem Counted.total (h : Counted past c) :
    c.store.hits + c.store.misses = (returned past).length := by
  rw [h.hits, h.misses, List.length_eq_countP_add_countP Option.isSome]
  congr 2
  funext value
  cases value <;> rfl

/-! ### Failures -/

theorem usable_turn {turn : Turn} (h : c.Usable) (hturn : turn.IsUsable) :
    (c.turn turn).Usable := by
  cases turn with
  | configure maxSize lifetime enabled => exact hturn
  | act action =>
      obtain ⟨l, hl⟩ := h
      exact ⟨l, (congrArg lifetimeOf (sameSettings_act c action).lifetime).trans hl⟩

/-- With a lifetime that can be used, every read gives a result. -/
theorem ok_of_mem_answersTo (h : c.Usable) {keys : List Text} {answer : Answer}
    (hanswer : answer ∈ c.answersTo keys) : ∃ value, answer = .ok value := by
  induction keys generalizing c with
  | nil => cases hanswer
  | cons key rest ih =>
      obtain ⟨l, hl⟩ := h
      obtain ⟨value, hvalue⟩ : ∃ value, (c.get key).1 = .ok value := guarded_gives hl c _ _
      have hafter : (c.get key).2.Usable :=
        ⟨l, (congrArg lifetimeOf (sameSettings_get c key).lifetime).trans hl⟩
      rw [answersTo,
        show c.get key = (.ok value, (c.get key).2) from Prod.ext hvalue rfl] at hanswer
      rcases List.mem_cons.1 hanswer with rfl | hrest
      · exact ⟨value, rfl⟩
      · exact ih hafter hrest

theorem ok_of_mem_answers (h : c.Usable) {turns : List Turn}
    (hturns : ∀ turn ∈ turns, turn.IsUsable)
    (hpast : ∀ answer ∈ past, ∃ value, answer = .ok value) :
    ∀ answer ∈ c.answers past turns, ∃ value, answer = .ok value := by
  induction turns generalizing c past with
  | nil => exact hpast
  | cons turn turns ih =>
      obtain ⟨hturn, hrest⟩ := List.forall_mem_cons.1 hturns
      refine ih (usable_turn h hturn) hrest ?_
      split
      · exact nofun
      · intro answer hanswer
        rcases List.mem_append.1 hanswer with hold | hnew
        · exact hpast answer hold
        · rw [answersBy] at hnew
          split at hnew
          · exact ok_of_mem_answersTo h hnew
          · cases hnew

theorem length_returned (h : ∀ answer ∈ past, ∃ value, answer = .ok value) :
    (returned past).length = past.length := by
  induction past with
  | nil => rfl
  | cons answer past ih =>
      obtain ⟨⟨value, rfl⟩, hpast⟩ := List.forall_mem_cons.1 h
      exact congrArg (· + 1) (ih hpast)

/-! ### The share -/

/-- The share of reads that have given a value, in percent, without rounding. -/
def Store.share (s : Store) : ℚ :=
  s.hits * 100 / (s.hits + s.misses)

/-- **The share** is zero where nothing has been read; otherwise it is the rounded quotient of the
counts, which is not divided by zero and lies between zero and one hundred. -/
structure Store.SharesReads (s : Store) : Prop where
  idle : s.hits + s.misses = 0 → s.hitRate = 0.0
  taken : s.hits + s.misses ≠ 0 →
    s.hitRate = s.hits.toFloat / (s.hits + s.misses).toFloat * 100.0 ∧
      (s.hits + s.misses : ℚ) ≠ 0 ∧ 0 ≤ s.share ∧ s.share ≤ 100

theorem Store.sharesReads (s : Store) : s.SharesReads where
  idle hnone := by simp [hitRate, hnone]
  taken hsome := by
    have htotal : (0 : ℚ) < s.hits + s.misses := by
      exact_mod_cast Nat.pos_of_ne_zero hsome
    have hhits : (0 : ℚ) ≤ s.hits := Nat.cast_nonneg s.hits
    have hmisses : (0 : ℚ) ≤ s.misses := Nat.cast_nonneg s.misses
    refine ⟨?_, htotal.ne', ?_, ?_⟩
    · rw [hitRate, if_neg (by simpa using hsome)]
    · exact div_nonneg (mul_nonneg hhits (by norm_num)) htotal.le
    · rw [share, div_le_iff₀ htotal, mul_comm]
      exact mul_le_mul_of_nonneg_left (le_add_of_nonneg_right hmisses) (by norm_num)

theorem stats_eq_ok {stats : Stats} (h : c.stats = .ok stats) :
    stats.hits = c.store.hits ∧ stats.misses = c.store.misses ∧
      stats.hitRate = c.store.hitRate := by
  rw [Cache.stats] at h
  split at h
  · cases h
  · cases h
    exact ⟨rfl, rfl, rfl⟩

/-! ### Counts -/

/-- **Counts.** After any run of a cache, its counts are those of the answers that the reads have
given. With lifetimes that can be used, every read gives a result, so that none is left out. A
turn that starts no counts again, and reads nothing or is made while the cache is not enabled,
changes no count, and the share is taken where it can be. -/
theorem counts_run (maxSize lifetime enabled : Json) (start : Number) (turns : List Turn) :
    let c := create maxSize lifetime enabled start
    let after := c.turnAll turns
    let answers := c.answers [] turns
    (after.store.hits + after.store.misses = (returned answers).length ∧
      after.store.hits = (returned answers).countP Option.isSome) ∧
    ((∃ l, lifetimeOf lifetime = .ok l) → (∀ turn ∈ turns, turn.IsUsable) →
      (∀ answer ∈ answers, ∃ value, answer = .ok value) ∧
        after.store.hits + after.store.misses = answers.length) ∧
    (∀ turn : Turn, turn.resets = false → turn.keys = [] ∨ after.store.enabled = false →
      after.store.SameCounts (after.turn turn).store) ∧
    after.store.SharesReads ∧
    ∀ stats, after.stats = .ok stats →
      stats.hits = after.store.hits ∧ stats.misses = after.store.misses ∧
        stats.hitRate = after.store.hitRate := by
  intro c after answers
  have hstart : Counted [] c := ⟨rfl, rfl⟩
  have hcounted : Counted answers after := hstart.turnAll turns
  refine ⟨⟨hcounted.total, hcounted.hits⟩, fun hlifetime hturns => ?_,
    fun turn hresets hreads => sameCounts_turn hresets hreads, after.store.sharesReads,
    fun stats => stats_eq_ok⟩
  have hok : ∀ answer ∈ answers, ∃ value, answer = .ok value :=
    ok_of_mem_answers (c := c) hlifetime hturns nofun
  exact ⟨hok, hcounted.total.trans (length_returned hok)⟩

/-- A run in which the cache is switched off and on again, after the counts have been started
again. -/
def switching : List Turn :=
  [.act (.op (.get ['x'])), .act (.clearWithVersion ['2']),
    .act (.op (.set ['a'] [])), .act (.op (.get ['a'])),
    .configure (.int 3) (.int 100) (.bool false),
    .act (.op (.get ['a'])), .act (.op (.getMany [['a'], ['b']])),
    .configure (.int 3) (.int 50) (.bool true),
    .act (.op (.getMany [['a'], ['b'], ['a']])), .act (.op (.has ['b'])), .act (.delete ['a']),
    .act (.op (.get ['a']))]

theorem counts_run_switching :
    (∃ l, lifetimeOf (.int 100) = .ok l) ∧ (∀ turn ∈ switching, turn.IsUsable) ∧
      returned ((create (.int 3) (.int 100) (.bool true)).answers [] switching) =
        [some [], some [], none, some [], none] ∧
      let after := (create (.int 3) (.int 100) (.bool true)).turnAll switching
      after.store.hits = 3 ∧ after.store.misses = 2 ∧
        after.store.hits + after.store.misses =
          ((create (.int 3) (.int 100) (.bool true)).answers [] switching).length ∧
        after.store.SharesReads := by
  have hlifetime : ∃ l, lifetimeOf (.int 100) = .ok l := ⟨_, rfl⟩
  have hturns : ∀ turn ∈ switching, turn.IsUsable := by
    simp only [switching, List.forall_mem_cons]
    exact ⟨trivial, trivial, trivial, trivial, ⟨_, rfl⟩, trivial, trivial, ⟨_, rfl⟩, trivial,
      trivial, trivial, trivial, nofun⟩
  obtain ⟨-, hcounts, -, hshare, -⟩ :=
    counts_run (.int 3) (.int 100) (.bool true) (.int 0) switching
  exact ⟨hlifetime, hturns, by decide +kernel, by decide +kernel, by decide +kernel,
    (hcounts hlifetime hturns).2, hshare⟩

end UtilityCss.Cache

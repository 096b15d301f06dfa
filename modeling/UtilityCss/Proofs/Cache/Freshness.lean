import UtilityCss.Proofs.Cache.Recency

/-!
# Caches — what is given is not stale

An entry that is not live is dropped only when it is next looked at, and a version may come back
after another; so a store holds entries of all ages and versions.  What it gives can nevertheless be
said from the run alone, without looking at the store.

**Freshness** (`served_run`).  If reading a key gives a value, or the value is listed with the key,
then the last write of the key wrote it; the key has not been deleted since, nor has everything been
cleared; the current version is the one of that write; and unless the lifetime never ends, the time
since that write is at most the lifetime.

The invariant is `Tracked`: the clock and the version are those that the run leads to, and every
entry, live or not, is what the last write of its key has written (`LastWritten`).  One lemma
(`Tracked.next`) says when an action keeps it: the entries after it are among those before, without
the ones that it is to take away, or are the one that it writes.
-/

namespace UtilityCss.Cache

/-! ### Actions -/

/-- What may be done with a cache: its operations, and what drops entries or makes another version
the current one.  The clock may move by some time, or show any other. -/
inductive Action where
  | op (op : Op)
  | atTime (now : Number)
  | delete (key : Text)
  | clear
  | setVersion (version : Text)
  | clearWithVersion (version : Text)
  | cleanup

/-- The cache after an action, whether that fails or not. -/
def act (c : Cache) : Action → Cache
  | .op op => c.perform op
  | .atTime now => c.update fun s => { s with now }
  | .delete key => c.update fun s => (s.delete key).2
  | .clear => c.update (·.clear)
  | .setVersion version => (c.setVersion version).1
  | .clearWithVersion version => c.update (·.clearWithVersion version)
  | .cleanup => c.cleanup.1.2

/-- The cache after actions. -/
def actAll (c : Cache) (actions : List Action) : Cache :=
  actions.foldl act c

namespace Action

/-- An action as single ones: writing several entries is writing each of them. -/
def single : Action → List Action
  | .op (.setMany entries) => entries.map fun (key, value) => .op (.set key value)
  | action => [action]

/-- The time after an action. -/
def clock (now : Number) : Action → Number
  | .op (.advance milliseconds) => now.add milliseconds
  | .atTime later => later
  | _ => now

/-- The version after an action. -/
def version (current : Text) : Action → Text
  | .setVersion version | .clearWithVersion version => version
  | _ => current

/-- An action leaves alone what is written under a key: it writes nothing else there, and neither
deletes the key nor clears everything. -/
def keeps (key : Text) : Action → Bool
  | .op (.set k _) | .delete k => k != key
  | .op (.setMany entries) => entries.all (·.1 != key)
  | .clear | .clearWithVersion _ => false
  | _ => true

end Action

/-- The single actions of a run. -/
def singles (actions : List Action) : List Action :=
  actions.flatMap Action.single

/-- The time after actions. -/
def clockAfter (start : Number) (actions : List Action) : Number :=
  actions.foldl Action.clock start

/-- The version after actions on a new cache. -/
def versionAfter (actions : List Action) : Text :=
  actions.foldl Action.version "default".toList

/-- The entry is what the last write of the key has written, with the time and the version of that
write, and nothing has taken it away. -/
def LastWritten (start : Number) (past : List Action) (key : Text) (e : Entry) : Prop :=
  ∃ before after, past = before ++ .op (.set key e.value) :: after ∧
    (∀ action ∈ after, action.keeps key) ∧
    e.time = clockAfter start before ∧ e.version = versionAfter before

variable {start : Number} {lifetime : Json} {past : List Action} {action : Action} {c c' : Cache}
  {key value : Text} {e : Entry}

theorem clockAfter_concat (start : Number) (past : List Action) (action : Action) :
    clockAfter start (past ++ [action]) = action.clock (clockAfter start past) := by
  rw [clockAfter, List.foldl_concat, clockAfter]

theorem versionAfter_concat (past : List Action) (action : Action) :
    versionAfter (past ++ [action]) = action.version (versionAfter past) := by
  rw [versionAfter, List.foldl_concat, versionAfter]

theorem LastWritten.concat (h : LastWritten start past key e) (hkeeps : action.keeps key) :
    LastWritten start (past ++ [action]) key e := by
  obtain ⟨before, after, rfl, hafter, htime, hversion⟩ := h
  refine ⟨before, after ++ [action], by simp, fun a ha => ?_, htime, hversion⟩
  rcases List.mem_append.1 ha with ha | ha
  · exact hafter a ha
  · rwa [List.mem_singleton.1 ha]

theorem lastWritten_concat_self (htime : e.time = clockAfter start past)
    (hversion : e.version = versionAfter past) :
    LastWritten start (past ++ [.op (.set key e.value)]) key e :=
  ⟨past, [], rfl, nofun, htime, hversion⟩

/-! ### The invariant -/

/-- The settings are as they were, the clock and the version are those that the run leads to, a
cache that takes no entries has none, and every entry is what the last write of its key has
written. -/
structure Tracked (start : Number) (lifetime : Json) (past : List Action) (c : Cache) :
    Prop where
  capacity : c.store.capacity = valueOr (capacityOf c.maxSize)
  setting : c.lifetime = lifetime
  lifetime : c.store.lifetime = valueOr (lifetimeOf lifetime)
  now : c.store.now = clockAfter start past
  version : c.store.version = versionAfter past
  idle : c.store.accepts = false → c.store.entries = []
  written : ∀ k e, (k, e) ∈ c.store.entries → LastWritten start past k e

theorem tracked_create (maxSize lifetime enabled : Json) (start : Number) :
    Tracked start lifetime [] (create maxSize lifetime enabled start) :=
  ⟨rfl, rfl, rfl, rfl, rfl, fun _ => rfl, nofun⟩

/-- **One action** keeps the invariant if the entries after it are entries from before that it
leaves alone, or the one that it writes. -/
theorem Tracked.next (h : Tracked start lifetime past c) {s : Store}
    (hcapacity : s.capacity = c.store.capacity) (hlifetime : s.lifetime = c.store.lifetime)
    (henabled : s.enabled = c.store.enabled) (hnow : s.now = action.clock c.store.now)
    (hversion : s.version = action.version c.store.version)
    (hentries : ∀ k e, (k, e) ∈ s.entries → ((k, e) ∈ c.store.entries ∧ action.keeps k) ∨
      (c.store.accepts ∧ action = .op (.set k e.value) ∧ e.time = c.store.now ∧
        e.version = c.store.version)) :
    Tracked start lifetime (past ++ [action]) { c with store := s } where
  capacity := hcapacity.trans h.capacity
  setting := h.setting
  lifetime := hlifetime.trans h.lifetime
  now := by rw [clockAfter_concat, ← h.now, hnow]
  version := by rw [versionAfter_concat, ← h.version, hversion]
  idle haccepts := by
    have hold : c.store.accepts = false := by
      rw [← haccepts, Store.accepts, Store.accepts, henabled, hcapacity]
    rw [List.eq_nil_iff_forall_not_mem]
    rintro ⟨k, e⟩ he
    rcases hentries k e he with ⟨hmem, -⟩ | ⟨hnew, -⟩
    · rw [h.idle hold] at hmem
      cases hmem
    · rw [hold] at hnew
      cases hnew
  written k e he := by
    rcases hentries k e he with ⟨hmem, hkeeps⟩ | ⟨-, rfl, htime, hversion'⟩
    · exact (h.written k e hmem).concat hkeeps
    · exact lastWritten_concat_self (htime.trans h.now) (hversion'.trans h.version)

/-! ### Reading and sweeping -/

/-- A store has come from another one by leaving out and moving entries and counting reads. -/
def Store.Shrinks (s s' : Store) : Prop :=
  ∃ entries hits misses, s' = { s with entries, hits, misses } ∧
    ∀ k e, (k, e) ∈ entries → (k, e) ∈ s.entries

theorem Store.Shrinks.refl (s : Store) : s.Shrinks s :=
  ⟨s.entries, s.hits, s.misses, rfl, fun _ _ he => he⟩

theorem Store.Shrinks.trans {s s' s'' : Store} (h : s.Shrinks s') (h' : s'.Shrinks s'') :
    s.Shrinks s'' := by
  obtain ⟨entries, hits, misses, rfl, hsub⟩ := h
  obtain ⟨entries', hits', misses', rfl, hsub'⟩ := h'
  exact ⟨entries', hits', misses', rfl, fun k e he => hsub k e (hsub' k e he)⟩

/-- No other keys are listed then. -/
theorem Store.Shrinks.mem_keys {s s' : Store} (h : s.Shrinks s') {k : Text} (hk : k ∈ s'.keys) :
    k ∈ s.keys := by
  obtain ⟨entries, hits, misses, rfl, hsub⟩ := h
  obtain ⟨henabled, e, he, hlive⟩ := Store.mem_keys.1 hk
  exact Store.mem_keys.2 ⟨henabled, e, hsub k e he, hlive⟩

theorem Store.shrinks_get (s : Store) (key : Text) : s.Shrinks (s.get key).2 := by
  refine ⟨(s.get key).2.entries, (s.get key).2.hits, (s.get key).2.misses, ?_,
    fun k e he => mem_get he⟩
  rcases get_cases s key with ⟨-, hg⟩ | ⟨-, -, hg⟩ | ⟨e, -, -, -, hg⟩ | ⟨e, -, -, -, hg⟩ <;>
    rw [hg]

theorem Store.shrinks_has (s : Store) (key : Text) : s.Shrinks (s.has key).2 := by
  rcases has_cases s key with ⟨-, hh⟩ | ⟨-, -, hh⟩ | ⟨e, -, -, -, hh⟩ | ⟨e, -, -, -, hh⟩ <;>
    rw [hh]
  · exact .refl s
  · exact .refl s
  · exact .refl s
  · exact ⟨s.without key, s.hits, s.misses, rfl, fun k e he => (mem_without.1 he).1⟩

theorem Store.shrinks_cleanup (s : Store) : s.Shrinks s.cleanup.2 :=
  ⟨_, s.hits, s.misses, rfl, fun _ _ he => mem_cleanup he⟩

/-- The same for the store of a cache; the settings stay as they are. -/
def Shrinks (c c' : Cache) : Prop :=
  ∃ s, c' = { c with store := s } ∧ c.store.Shrinks s

theorem shrinks_guarded {α : Type} (c : Cache) (needed : Bool) (setting : Except Misuse Number)
    {next : Unit → α × Store} (h : c.store.Shrinks (next ()).2) :
    c.Shrinks (c.guarded needed setting next).2 := by
  rcases guarded_cases c needed setting next with ⟨misuse, -, -, hdone⟩ | hdone <;> rw [hdone]
  · exact ⟨c.store, rfl, .refl c.store⟩
  · exact ⟨(next ()).2, rfl, h⟩

theorem Shrinks.trans {c'' : Cache} (h : c.Shrinks c') (h' : c'.Shrinks c'') : c.Shrinks c'' := by
  obtain ⟨s, rfl, hsub⟩ := h
  obtain ⟨s', rfl, hsub'⟩ := h'
  exact ⟨s', rfl, hsub.trans hsub'⟩

theorem shrinks_getMany (c : Cache) (keys : List Text) (found : List (Text × Text)) :
    c.Shrinks (c.getMany keys found).2 :=
  getMany_keeps (fun c' key h => h.trans (shrinks_guarded c' _ _ (c'.store.shrinks_get key)))
    ⟨c.store, rfl, .refl c.store⟩ keys found

/-- An action that only leaves out entries keeps the invariant. -/
theorem Tracked.shrink (h : Tracked start lifetime past c) (hshrinks : c.Shrinks c')
    (hclock : ∀ now, action.clock now = now)
    (hversion : ∀ version, action.version version = version) (hkeeps : ∀ k, action.keeps k) :
    Tracked start lifetime (past ++ [action]) c' := by
  obtain ⟨s, rfl, entries, hits, misses, rfl, hsub⟩ := hshrinks
  exact h.next rfl rfl rfl (hclock _).symm (hversion _).symm
    fun k e he => .inl ⟨hsub k e he, hkeeps k⟩

/-! ### Writing -/

/-- After writing a key, the entries are those of other keys from before and the one that has been
written. -/
theorem Store.mem_set_of_accepts {s : Store} (haccepts : s.accepts) {k : Text}
    (he : (k, e) ∈ (s.set key value).entries) :
    ((k, e) ∈ s.entries ∧ k ≠ key) ∨ (k = key ∧ e = ⟨value, s.now, s.version⟩) := by
  rcases set_cases s key value with ⟨ha, -⟩ | ⟨-, -, hs⟩ | ⟨-, hf, -, hs⟩ | ⟨-, hf, -, hs⟩
  · rw [haccepts] at ha
    cases ha
  all_goals
    rw [hs] at he
    refine (List.mem_append.1 he).imp (fun hold => ?_)
      fun hnew => Prod.mk.inj (List.mem_singleton.1 hnew)
  · exact mem_without.1 hold
  · have hmem := List.mem_of_mem_tail hold
    exact ⟨hmem, ne_of_find?_eq_none hf hmem⟩
  · exact ⟨hold, ne_of_find?_eq_none hf hold⟩

theorem Store.set_settings (s : Store) (key value : Text) :
    ∃ entries, s.set key value = { s with entries } := by
  rcases set_cases s key value with ⟨-, hs⟩ | ⟨-, -, hs⟩ | ⟨-, -, -, hs⟩ | ⟨-, -, -, hs⟩ <;>
    exact ⟨_, hs⟩

/-- Writing a key lists no other one that was not listed. -/
theorem Store.mem_keys_set {s : Store} {k : Text} (hk : k ∈ (s.set key value).keys) :
    k ∈ s.keys ∨ k = key := by
  obtain ⟨entries, hset⟩ := s.set_settings key value
  rw [hset] at hk
  obtain ⟨henabled, e, he, hlive⟩ := mem_keys.1 hk
  rw [show entries = (s.set key value).entries by rw [hset]] at he
  exact (mem_set he).imp (fun hold => mem_keys.2 ⟨henabled, e, hold, hlive⟩) And.left

/-- Writing does to the store what it does, also if the capacity cannot be used: then the store
takes no entries. -/
theorem Tracked.set_eq (h : Tracked start lifetime past c) (key value : Text) :
    (c.set key value).1.2 = { c with store := c.store.set key value } := by
  rw [Cache.set]
  rcases guarded_cases c c.store.enabled (capacityOf c.maxSize)
    (fun _ => ((), c.store.set key value)) with ⟨misuse, -, herror, hdone⟩ | hdone
  · have hzero : c.store.capacity = .int 0 := by rw [h.capacity, herror, valueOr]
    have haccepts : c.store.accepts = false := by simp [Store.accepts, hzero, Number.le]
    have hset : c.store.set key value = c.store := by simp [Store.set, haccepts]
    rw [hdone, hset]
  · rw [hdone]

theorem Tracked.set (h : Tracked start lifetime past c) (key value : Text) :
    Tracked start lifetime (past ++ [.op (.set key value)]) (c.set key value).1.2 := by
  obtain ⟨entries, hset⟩ := c.store.set_settings key value
  rw [h.set_eq]
  have hentries : ∀ k e, (k, e) ∈ (c.store.set key value).entries →
      ((k, e) ∈ c.store.entries ∧ Action.keeps k (.op (.set key value))) ∨
      (c.store.accepts ∧ Action.op (.set key value) = .op (.set k e.value) ∧
        e.time = c.store.now ∧ e.version = c.store.version) := by
    intro k e he
    cases haccepts : c.store.accepts with
    | false =>
        rw [Store.set, haccepts] at he
        rw [Bool.not_false, if_pos rfl, h.idle haccepts] at he
        cases he
    | true =>
        rcases Store.mem_set_of_accepts haccepts he with ⟨hmem, hne⟩ | ⟨rfl, rfl⟩
        · exact .inl ⟨hmem, by simpa [Action.keeps] using hne.symm⟩
        · exact .inr ⟨rfl, rfl, rfl, rfl⟩
  rw [hset] at hentries ⊢
  exact h.next rfl rfl rfl rfl rfl hentries

/-- Writing several entries is writing each of them: if one write fails, the others do too. -/
theorem Tracked.setMany (h : Tracked start lifetime past c) (entries : List (Text × Text)) :
    Tracked start lifetime (past ++ Action.single (.op (.setMany entries)))
      (c.setMany entries).2 := by
  induction entries generalizing past c with
  | nil => rwa [Action.single, List.map_nil, List.append_nil]
  | cons entry rest ih =>
      obtain ⟨key, value⟩ := entry
      have hrest := ih (h.set key value)
      rw [List.append_assoc] at hrest
      rw [Cache.setMany]
      rcases guarded_cases c c.store.enabled (capacityOf c.maxSize)
        (fun _ => ((), c.store.set key value)) with ⟨misuse, hneeded, herror, hdone⟩ | hdone
      · -- a capacity that cannot be used fails every write, so the rest would change nothing either
        have hsame : (c.setMany rest).2 = c := by
          cases rest with
          | nil => rfl
          | cons entry rest => simp only [Cache.setMany, Cache.set, guarded, hneeded, herror]
        simp only [Cache.set, hdone] at hrest ⊢
        rwa [hsame] at hrest
      · simp only [Cache.set, hdone] at hrest ⊢
        exact hrest

/-! ### Runs -/

/-- **One action** keeps the invariant. -/
theorem Tracked.act (h : Tracked start lifetime past c) (action : Action) :
    Tracked start lifetime (past ++ action.single) (c.act action) := by
  cases action with
  | op op =>
      cases op with
      | set key value => exact h.set key value
      | setMany entries => exact h.setMany entries
      | get key =>
          exact h.shrink (shrinks_guarded c _ _ (c.store.shrinks_get key)) (fun _ => rfl)
            (fun _ => rfl) fun _ => rfl
      | getMany keys =>
          exact h.shrink (shrinks_getMany c keys []) (fun _ => rfl) (fun _ => rfl) fun _ => rfl
      | has key =>
          exact h.shrink (shrinks_guarded c _ _ (c.store.shrinks_has key)) (fun _ => rfl)
            (fun _ => rfl) fun _ => rfl
      | advance milliseconds =>
          exact h.next rfl rfl rfl rfl rfl fun k e he => .inl ⟨he, rfl⟩
  | atTime now => exact h.next rfl rfl rfl rfl rfl fun k e he => .inl ⟨he, rfl⟩
  | delete key =>
      refine h.next rfl rfl rfl rfl rfl fun k e he => .inl ?_
      obtain ⟨hmem, hne⟩ := Store.mem_without.1 he
      exact ⟨hmem, by simpa [Action.keeps] using hne.symm⟩
  | clear => exact h.next rfl rfl rfl rfl rfl nofun
  | setVersion version => exact h.next rfl rfl rfl rfl rfl fun k e he => .inl ⟨he, rfl⟩
  | clearWithVersion version => exact h.next rfl rfl rfl rfl rfl nofun
  | cleanup =>
      exact h.shrink (shrinks_guarded c _ _ c.store.shrinks_cleanup) (fun _ => rfl)
        (fun _ => rfl) fun _ => rfl

/-- **A run** keeps the invariant. -/
theorem Tracked.actAll (h : Tracked start lifetime past c) (actions : List Action) :
    Tracked start lifetime (past ++ singles actions) (c.actAll actions) := by
  induction actions generalizing past c with
  | nil => rwa [singles, List.flatMap_nil, List.append_nil]
  | cons action actions ih =>
      have hrest := ih (h.act action)
      rwa [List.append_assoc] at hrest

/-! ### What is given -/

/-- A cache gives a value for a key: reading the key gives it, or it is listed with the key. -/
def Serves (c : Cache) (key value : Text) : Prop :=
  (c.get key).1 = .ok (some value) ∨ ∃ listed, c.entries = .ok listed ∧ (key, value) ∈ listed

/-- What is given is the value of a live entry, and the lifetime can be used. -/
theorem live_of_serves (h : c.Serves key value) :
    ∃ e l, (key, e) ∈ c.store.entries ∧ c.store.isLive e = true ∧ e.value = value ∧
      lifetimeOf c.lifetime = .ok l := by
  rcases h with hget | ⟨listed, hentries, hmem⟩
  · obtain ⟨hvalue, hlooked⟩ := guarded_eq_ok hget
    rcases Store.get_cases c.store key with ⟨-, hg⟩ | ⟨-, -, hg⟩ | ⟨e, henabled, hf, hlive, hg⟩ |
        ⟨e, -, -, -, hg⟩ <;> rw [hg] at hvalue
    · cases hvalue
    · cases hvalue
    · -- a live entry bears the current version, so the read has looked at the lifetime
      have hlooks : c.looksAt key = true := by
        simp [looksAt, henabled, hf, Store.version_of_isLive hlive]
      obtain ⟨l, hl⟩ := hlooked hlooks
      exact ⟨e, l, Store.mem_of_find? hf, hlive, Option.some.inj hvalue, hl⟩
    · cases hvalue
  · obtain ⟨hlisted, hlooked⟩ := guarded_eq_ok hentries
    subst hlisted
    rw [Store.liveEntries] at hmem
    split at hmem
    next henabled =>
        obtain ⟨⟨k, e⟩, he, heq⟩ := List.mem_map.1 hmem
        obtain ⟨rfl, rfl⟩ := Prod.mk.inj heq
        obtain ⟨hold, hlive⟩ := List.mem_filter.1 he
        have hlooks : (c.store.enabled && c.looksAtAny) = true := by
          rw [henabled, Bool.true_and, looksAtAny, List.any_eq_true]
          exact ⟨(k, e), hold, by simp [Store.version_of_isLive hlive]⟩
        obtain ⟨l, hl⟩ := hlooked hlooks
        exact ⟨e, l, hold, hlive, rfl, hl⟩
    next => cases hmem

/-- **Freshness.**  Let a new cache with any settings be put to any actions.  If it then gives a
value for a key, that value was written by the last write of the key; since then the key has not
been deleted and nothing has cleared the cache; the version under which it was written is the
current one, whatever versions there have been in between; and unless the lifetime never ends, the
time that has passed since is at most the lifetime. -/
theorem served_run {maxSize lifetime enabled : Json} {start : Number} {actions : List Action}
    {key value : Text}
    (h : ((create maxSize lifetime enabled start).actAll actions).Serves key value) :
    ∃ before after, singles actions = before ++ .op (.set key value) :: after ∧
      (∀ action ∈ after, action.keeps key) ∧
      versionAfter before = versionAfter (singles actions) ∧
      ∃ l, lifetimeOf lifetime = .ok l ∧ (l.isInfinite = false →
        ((clockAfter start (singles actions)).sub (clockAfter start before)).le l) := by
  have htracked := (tracked_create maxSize lifetime enabled start).actAll actions
  rw [List.nil_append] at htracked
  obtain ⟨e, l, hmem, hlive, rfl, hl⟩ := live_of_serves h
  obtain ⟨before, after, hpast, hafter, htime, hversion⟩ := htracked.written key e hmem
  rw [htracked.setting] at hl
  -- the entry that gives the value is live, so it bears the version that is current now
  have hcurrent := Store.version_of_isLive hlive
  rw [hversion, htracked.version] at hcurrent
  refine ⟨before, after, hpast, hafter, hcurrent, l, hl, fun hfinite => ?_⟩
  have hage := (Bool.and_eq_true_iff.1 hlive).2
  rw [htracked.lifetime, hl, valueOr, hfinite, Bool.false_or, htracked.now, htime] at hage
  exact hage

/-- Another version becomes the current one and the first comes back; the clock goes forward and
back. -/
def revival : List Action :=
  [.op (.set ['a'] ['0']), .op (.setMany [(['a'], ['1']), (['b'], ['2'])]), .setVersion ['v'],
    .op (.advance (.int 120)), .op (.set ['c'] ['3']), .setVersion "default".toList,
    .op (.advance (.int (-40)))]

theorem served_run_revival :
    ((create (.int 3) (.int 100) (.bool true)).actAll revival).Serves ['a'] ['1'] ∧
      ∃ before after, singles revival = before ++ .op (.set ['a'] ['1']) :: after ∧
        (∀ action ∈ after, action.keeps ['a']) ∧
        versionAfter before = versionAfter (singles revival) ∧
        ∃ l, lifetimeOf (.int 100) = .ok l ∧ (l.isInfinite = false →
          ((clockAfter (.int 0) (singles revival)).sub (clockAfter (.int 0) before)).le l) := by
  have hserves : ((create (.int 3) (.int 100) (.bool true)).actAll revival).Serves ['a'] ['1'] :=
    .inl rfl
  exact ⟨hserves, served_run hserves⟩

end UtilityCss.Cache

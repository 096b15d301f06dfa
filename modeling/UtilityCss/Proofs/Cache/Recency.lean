import UtilityCss.Proofs.Cache.History
import UtilityCss.Proofs.Cache.Operations

/-!
# Caches — the least recently used entry goes first

A cache whose entries never expire, of a capacity that is a positive integer, gives an entry up only
for room.

**The least recently used goes first** (`stored_run_iff`).  After any operations a key is stored
exactly if it has been written and fewer other keys than the capacity have been used since its own
last use; its value is the one that was written last.

The invariant is `Recent`: the keys of the entries, the last one first, are the first in the order
of recency, as many as the capacity lets in.
-/

namespace UtilityCss.Cache

/-! ### Caches that only want room -/

/-- An enabled cache of a capacity whose entries never expire and are all of the current version. -/
structure Steady (n : Nat) (c : Cache) : Prop where
  capacity : capacityOf c.maxSize = .ok (.int n)
  lifetime : ∃ l, lifetimeOf c.lifetime = .ok l
  room : c.store.capacity = .int n
  endless : c.store.lifetime.isInfinite = true
  enabled : c.store.enabled = true
  version : ∀ k e, (k, e) ∈ c.store.entries → e.version = c.store.version

variable {n : Nat} {c : Cache} {k key value : Text} {e : Entry}

theorem Steady.isLive (h : Steady n c) (he : (k, e) ∈ c.store.entries) :
    c.store.isLive e = true := by
  simp [Store.isLive, h.version k e he, h.endless]

/-- In such a cache, reading a key succeeds if it is stored. -/
theorem Steady.get_cases (h : Steady n c) (key : Text) :
    (c.store.find? key = none ∧
      c.get key = (.ok none, { c with store := { c.store with misses := c.store.misses + 1 } })) ∨
    ∃ e, c.store.find? key = some e ∧ c.get key = (.ok (some e.value), { c with store := {
      c.store with entries := c.store.without key ++ [(key, e)],
                   hits := c.store.hits + 1 } }) := by
  obtain ⟨l, hl⟩ := h.lifetime
  rw [Cache.get, guarded_of_ok c _ hl]
  rcases Store.get_cases c.store key with ⟨hd, -⟩ | ⟨-, hf, hg⟩ | ⟨e, -, hf, -, hg⟩ |
      ⟨e, -, hf, hd, -⟩
  · rw [h.enabled] at hd
    cases hd
  · exact .inl ⟨hf, by rw [hg]⟩
  · exact .inr ⟨e, hf, by rw [hg]⟩
  · rw [h.isLive (Store.mem_of_find? hf)] at hd
    cases hd

theorem Steady.has_eq (h : Steady n c) (key : Text) :
    c.has key = (.ok (c.store.find? key).isSome, c) := by
  obtain ⟨l, hl⟩ := h.lifetime
  rw [Cache.has, guarded_of_ok c _ hl]
  rcases Store.has_cases c.store key with ⟨hd, -⟩ | ⟨-, hf, hg⟩ | ⟨e, -, hf, -, hg⟩ |
      ⟨e, -, hf, hd, -⟩
  · rw [h.enabled] at hd
    cases hd
  · rw [hg, hf]
    rfl
  · rw [hg, hf]
    rfl
  · rw [h.isLive (Store.mem_of_find? hf)] at hd
    cases hd

theorem Steady.set_eq (h : Steady n c) (key value : Text) :
    (c.set key value).1 = (.ok (), { c with store := c.store.set key value }) :=
  guarded_of_ok c c.store.enabled h.capacity fun _ => ((), c.store.set key value)

/-! ### Operations -/

/-- The operations of a cache; the clock may move between any two. -/
inductive Op where
  | set (key value : Text)
  | setMany (entries : List (Text × Text))
  | get (key : Text)
  | getMany (keys : List Text)
  | has (key : Text)
  | advance (milliseconds : Number)

/-- The cache after an operation. -/
def perform (c : Cache) : Op → Cache
  | .set key value => (c.set key value).1.2
  | .setMany entries => (c.setMany entries).2
  | .get key => (c.get key).2
  | .getMany keys => (c.getMany keys []).2
  | .has key => (c.has key).2
  | .advance milliseconds => c.update (·.advance milliseconds)

/-- The reads that succeed when keys are read one after the other. -/
def reads (c : Cache) : List Text → List Use
  | [] => []
  | key :: rest =>
    match c.get key with
    | (.error _, _) => []
    | (.ok none, c) => reads c rest
    | (.ok (some _), c) => .read key :: reads c rest

/-- The uses that an operation makes, in order. -/
def usesOf (c : Cache) : Op → List Use
  | .set key value => [.write key value]
  | .setMany entries => entries.map fun (key, value) => .write key value
  | .get key => c.reads [key]
  | .getMany keys => c.reads keys
  | .has _ | .advance _ => []

/-- The cache after operations. -/
def run (c : Cache) : List Op → Cache
  | [] => c
  | op :: ops => (c.perform op).run ops

/-- The uses that operations make, the latest first. -/
def history (c : Cache) : List Op → History
  | [] => []
  | op :: ops => (c.perform op).history ops ++ (c.usesOf op).reverse

/-! ### The invariant -/

/-- The keys of the entries, the last one first, are the most recently used; every entry has the
value that was written last; and nothing has been used that has not been written. -/
structure Recent (n : Nat) (h : History) (c : Cache) : Prop where
  steady : Steady n c
  keys : (c.store.entries.map Prod.fst).reverse = (h.recency).take n
  values : ∀ k e, (k, e) ∈ c.store.entries → h.lastValue? k = some e.value
  written : ∀ use ∈ h, (h.lastValue? use.key).isSome

variable {h : History}

theorem map_fst_without (s : Store) (key : Text) :
    (s.without key).map Prod.fst = (s.entries.map Prod.fst).filter (· != key) := by
  rw [Store.without, List.filter_map]
  rfl

theorem Recent.find?_isSome (hr : Recent n h c) :
    (c.store.find? k).isSome ↔ k ∈ (h.recency).take n := by
  rw [Store.find?_isSome_iff, ← hr.keys, List.mem_reverse]

theorem Recent.not_mem (hr : Recent n h c) (hf : c.store.find? k = none) :
    k ∉ (h.recency).take n := by
  rw [← hr.find?_isSome, hf]
  simp

/-- Using a stored key moves it to the end. -/
theorem Recent.keys_of_stored (hr : Recent n h c) (hn : 0 < n) (use : Use)
    (hf : (c.store.find? use.key).isSome) (e : Entry) :
    ((c.store.without use.key ++ [(use.key, e)]).map Prod.fst).reverse =
      (History.recency (use :: h)).take n := by
  obtain ⟨m, rfl⟩ := Nat.exists_eq_add_one.2 hn
  rw [History.take_recency_of_mem (hr.find?_isSome.1 hf), ← hr.keys, List.map_append,
    map_fst_without, List.reverse_append, List.filter_reverse]
  rfl

theorem Steady.isFull_iff (h : Steady n c) : c.store.isFull ↔ n ≤ c.store.entries.length := by
  simp [Store.isFull, Number.le, h.room]

/-- Using a new key puts it at the end; a full cache gives the first one up. -/
theorem Recent.keys_of_new (hr : Recent n h c) (hn : 0 < n) (use : Use)
    (hf : c.store.find? use.key = none) (e : Entry) :
    (((if c.store.isFull then c.store.entries.tail else c.store.entries) ++ [(use.key, e)]).map
      Prod.fst).reverse = (History.recency (use :: h)).take n := by
  obtain ⟨m, rfl⟩ := Nat.exists_eq_add_one.2 hn
  have hnot : use.key ∉ (h.recency).take m := fun hmem =>
    hr.not_mem hf ((List.take_prefix_take_left (Nat.le_succ m)).mem hmem)
  have hlength : c.store.entries.length = min (m + 1) (h.recency).length := by
    simpa using congrArg List.length hr.keys
  rw [History.take_recency_of_not_mem hnot, List.map_append, List.reverse_append,
    List.map_singleton, List.reverse_singleton, List.singleton_append]
  congr 1
  -- without the key, as many of the others stay as there is room for beside it
  by_cases hfull : c.store.isFull
  · have hle := hr.steady.isFull_iff.1 hfull
    rw [if_pos hfull, List.map_tail, ← List.dropLast_reverse, hr.keys, List.dropLast_eq_take,
      List.take_take, List.length_take]
    congr 1
    omega
  · have hlt := mt hr.steady.isFull_iff.2 hfull
    rw [if_neg hfull, hr.keys, List.take_of_length_le (by omega), List.take_of_length_le (by omega)]

/-! ### One operation -/

theorem Steady.accepts (h : Steady n c) (hn : 0 < n) : c.store.accepts = true := by
  simp [Store.accepts, Number.le, h.room, h.enabled]
  omega

theorem Steady.withStore (h : Steady n c) {s : Store} (hcapacity : s.capacity = c.store.capacity)
    (hlifetime : s.lifetime = c.store.lifetime) (henabled : s.enabled = c.store.enabled)
    (hversion : ∀ k e, (k, e) ∈ s.entries → e.version = s.version) :
    Steady n { c with store := s } where
  capacity := h.capacity
  lifetime := h.lifetime
  room := hcapacity.trans h.room
  endless := by
    rw [← h.endless, ← hlifetime]
  enabled := henabled.trans h.enabled
  version := hversion

/-- An entry that is written goes last, behind entries of other keys. -/
theorem Recent.write (hr : Recent n h c) (value : Text) {kept : List (Text × Entry)}
    (hkept : ∀ k e, (k, e) ∈ kept → (k, e) ∈ c.store.entries ∧ k ≠ key)
    (hkeys : ∀ e : Entry, ((kept ++ [(key, e)]).map Prod.fst).reverse =
      (History.recency (.write key value :: h)).take n) :
    Recent n (.write key value :: h) { c with store := { c.store with
      entries := kept ++ [(key, ⟨value, c.store.now, c.store.version⟩)] } } := by
  have hmem : ∀ k e, (k, e) ∈ kept ++ [(key, (⟨value, c.store.now, c.store.version⟩ : Entry))] →
      ((k, e) ∈ c.store.entries ∧ k ≠ key) ∨
        k = key ∧ e = ⟨value, c.store.now, c.store.version⟩ := by
    intro k e he
    refine (List.mem_append.1 he).imp (hkept k e) fun hlast => ?_
    exact Prod.mk.inj (List.mem_singleton.1 hlast)
  refine ⟨hr.steady.withStore rfl rfl rfl fun k e he => ?_, hkeys _, fun k e he => ?_,
    fun use huse => ?_⟩
  · rcases hmem k e he with ⟨hold, -⟩ | ⟨-, rfl⟩
    · exact hr.steady.version k e hold
    · rfl
  · rw [History.lastValue?_write]
    rcases hmem k e he with ⟨hold, hne⟩ | ⟨rfl, rfl⟩
    · rw [if_neg (by simpa using hne.symm), hr.values k e hold]
    · rw [if_pos (by simp)]
  · rw [History.lastValue?_write]
    split
    · rfl
    next hne =>
        rcases List.mem_cons.1 huse with rfl | hold
        · simp [Use.key] at hne
        · exact hr.written use hold

/-- Writing a key keeps the invariant. -/
theorem Recent.set (hr : Recent n h c) (hn : 0 < n) (key value : Text) :
    Recent n (.write key value :: h) (c.set key value).1.2 := by
  rw [hr.steady.set_eq]
  rcases Store.set_cases c.store key value with ⟨ha, -⟩ | ⟨-, hf, hs⟩ | ⟨-, hf, hfull, hs⟩ |
      ⟨-, hf, hfull, hs⟩
  · rw [hr.steady.accepts hn] at ha
    cases ha
  · rw [hs]
    exact hr.write value (fun k e he => Store.mem_without.1 he)
      fun e => hr.keys_of_stored hn (.write key value) hf e
  · rw [hs]
    refine hr.write value (fun k e he => ?_) fun e => ?_
    · have hold := List.mem_of_mem_tail he
      exact ⟨hold, Store.ne_of_find?_eq_none hf hold⟩
    · have hkeys := hr.keys_of_new hn (.write key value) hf e
      rwa [if_pos hfull] at hkeys
  · rw [hs]
    refine hr.write value (fun k e he => ⟨he, Store.ne_of_find?_eq_none hf he⟩) fun e => ?_
    have hkeys := hr.keys_of_new hn (.write key value) hf e
    rwa [if_neg (by simp [hfull])] at hkeys

/-- Reading a key keeps the invariant; it is a use if it succeeds. -/
theorem Recent.get_cases (hr : Recent n h c) (hn : 0 < n) (key : Text) :
    (c.store.find? key = none ∧ ∃ after, c.get key = (.ok none, after) ∧ Recent n h after) ∨
    ∃ e after, c.store.find? key = some e ∧ c.get key = (.ok (some e.value), after) ∧
      Recent n (.read key :: h) after := by
  rcases hr.steady.get_cases key with ⟨hf, hg⟩ | ⟨e, hf, hg⟩
  · exact .inl ⟨hf, _, hg, hr.steady.withStore rfl rfl rfl hr.steady.version, hr.keys, hr.values,
      hr.written⟩
  · have hold := Store.mem_of_find? hf
    have hmem : ∀ k e', (k, e') ∈ c.store.without key ++ [(key, e)] →
        (k, e') ∈ c.store.entries := by
      intro k e' he'
      rcases List.mem_append.1 he' with hrest | hlast
      · exact (Store.mem_without.1 hrest).1
      · rwa [List.mem_singleton.1 hlast]
    refine .inr ⟨e, _, hf, hg, hr.steady.withStore rfl rfl rfl fun k e' he' => ?_, ?_,
      fun k e' he' => ?_, fun use huse => ?_⟩
    · exact hr.steady.version k e' (hmem k e' he')
    · exact hr.keys_of_stored hn (.read key) (by simp [Use.key, hf]) e
    · exact hr.values k e' (hmem k e' he')
    · rcases List.mem_cons.1 huse with rfl | hin
      · rw [History.lastValue?_read, Use.key, hr.values key e hold]
        rfl
      · exact hr.written use hin

/-! ### Runs -/

theorem Recent.setMany (hr : Recent n h c) (hn : 0 < n) (entries : List (Text × Text)) :
    Recent n ((c.usesOf (.setMany entries)).reverse ++ h) (c.setMany entries).2 := by
  induction entries generalizing c h with
  | nil => exact hr
  | cons entry rest ih =>
      obtain ⟨key, value⟩ := entry
      have hset := hr.set hn key value
      have hrest := ih hset
      rw [hr.steady.set_eq] at hrest
      rw [Cache.setMany, hr.steady.set_eq]
      simpa [usesOf] using hrest

theorem Recent.getMany (hr : Recent n h c) (hn : 0 < n) (keys : List Text)
    (found : List (Text × Text)) :
    Recent n ((c.reads keys).reverse ++ h) (c.getMany keys found).2 := by
  induction keys generalizing c h found with
  | nil => exact hr
  | cons key rest ih =>
      rw [Cache.getMany, reads]
      rcases hr.get_cases hn key with ⟨-, after, hg, hafter⟩ | ⟨e, after, -, hg, hafter⟩
      · simp only [hg]
        exact ih hafter found
      · simp only [hg, List.reverse_cons, List.append_assoc]
        exact ih hafter _

/-- **One operation** keeps the invariant, with the uses that it makes. -/
theorem Recent.perform (hr : Recent n h c) (hn : 0 < n) (op : Op) :
    Recent n ((c.usesOf op).reverse ++ h) (c.perform op) := by
  cases op with
  | set key value => exact hr.set hn key value
  | setMany entries => exact hr.setMany hn entries
  | get key =>
      rcases hr.get_cases hn key with ⟨-, after, hg, hafter⟩ | ⟨e, after, -, hg, hafter⟩ <;>
        simpa [usesOf, reads, Cache.perform, hg] using hafter
  | getMany keys => exact hr.getMany hn keys []
  | has key =>
      rw [Cache.perform, hr.steady.has_eq]
      exact hr
  | advance milliseconds =>
      exact ⟨hr.steady.withStore rfl rfl rfl hr.steady.version, hr.keys, hr.values, hr.written⟩

/-- **A run** keeps the invariant. -/
theorem Recent.run (hr : Recent n h c) (hn : 0 < n) (ops : List Op) :
    Recent n (c.history ops ++ h) (c.run ops) := by
  induction ops generalizing c h with
  | nil => exact hr
  | cons op ops ih =>
      rw [history, List.append_assoc]
      exact ih (hr.perform hn op)

theorem recent_create {maxSize lifetime enabled : Json} (now : Number)
    (hcapacity : capacityOf maxSize = .ok (.int n)) (henabled : enabled.isTruthy)
    (hlifetime : (valueOr (lifetimeOf lifetime)).isInfinite) :
    Recent n [] (create maxSize lifetime enabled now) where
  steady := {
    capacity := hcapacity
    lifetime := by
      cases hl : lifetimeOf lifetime with
      | error misuse =>
          rw [hl] at hlifetime
          cases hlifetime
      | ok l => exact ⟨l, hl⟩
    room := congrArg valueOr hcapacity
    endless := hlifetime
    enabled := henabled
    version := nofun }
  keys := by simp [create, History.recency]
  values := nofun
  written := nofun

/-- Nothing is used that has not been written. -/
theorem Recent.mem_keys_iff (hr : Recent n h c) :
    k ∈ h.map Use.key ↔ ∃ value, Use.write k value ∈ h := by
  constructor
  · intro hk
    obtain ⟨use, huse, rfl⟩ := List.mem_map.1 hk
    exact (h.isSome_lastValue? use.key).1 (hr.written use huse)
  · rintro ⟨value, hwrite⟩
    exact List.mem_map.2 ⟨_, hwrite, rfl⟩

/-- **The least recently used goes first.**  Let a cache be created, enabled, with a positive
capacity and a lifetime that never ends, and put to any operations.  Then a key is stored exactly if
it has been written and fewer other keys than the capacity have been written or read with success
since its own last use; asking for it says so, and reading it gives the value that was written
last. -/
theorem stored_run_iff {maxSize lifetime enabled : Json} {n : Nat} (now : Number)
    (hcapacity : capacityOf maxSize = .ok (.int n)) (hn : 0 < n) (henabled : enabled.isTruthy)
    (hlifetime : (valueOr (lifetimeOf lifetime)).isInfinite) (ops : List Op) (k : Text) :
    let c := create maxSize lifetime enabled now
    (((c.run ops).store.find? k).isSome ↔
      (∃ value, Use.write k value ∈ c.history ops) ∧ ((c.history ops).rivals k).card < n) ∧
    ((c.run ops).has k).1 = .ok ((c.run ops).store.find? k).isSome ∧
    (((c.run ops).store.find? k).isSome → ∃ value, (c.history ops).lastValue? k = some value ∧
      ((c.run ops).get k).1 = .ok (some value)) := by
  intro c
  have hr := (recent_create now hcapacity henabled hlifetime).run hn ops
  rw [List.append_nil] at hr
  refine ⟨?_, by rw [hr.steady.has_eq], fun hstored => ?_⟩
  · rw [hr.find?_isSome, History.mem_take_recency, hr.mem_keys_iff]
  · rcases hr.get_cases hn k with ⟨hf, -⟩ | ⟨e, after, hf, hg, -⟩
    · rw [hf] at hstored
      cases hstored
    · exact ⟨e.value, hr.values k e (Store.mem_of_find? hf), by rw [hg]⟩

/-- A cache for two entries, which never expire. -/
def twoPlaces : Cache :=
  create (.int 2) (.number (.float (1.0 / 0.0))) (.bool true)

/-- Two entries are written and the first is read before a third is written. -/
def threeKeys : List Op :=
  [.set ['a'] ['1'], .set ['b'] ['2'], .get ['a'], .set ['c'] ['3']]

theorem stored_run_iff_threeKeys :
    capacityOf (.int 2) = .ok (.int (2 : Nat)) ∧
      (valueOr (lifetimeOf (.number (.float (1.0 / 0.0))))).isInfinite ∧
      twoPlaces.history threeKeys =
        [.write ['c'] ['3'], .read ['a'], .write ['b'] ['2'], .write ['a'] ['1']] ∧
      ((twoPlaces.run threeKeys).get ['a']).1 = .ok (some ['1']) ∧
      ((twoPlaces.run threeKeys).has ['b']).1 = .ok false := by
  have hcapacity : capacityOf (.int 2) = .ok (.int (2 : Nat)) := rfl
  have henabled : (Json.bool true).isTruthy := rfl
  have hlifetime : (valueOr (lifetimeOf (.number (.float (1.0 / 0.0))))).isInfinite := by
    decide +kernel
  have hhistory : twoPlaces.history threeKeys =
      [.write ['c'] ['3'], .read ['a'], .write ['b'] ['2'], .write ['a'] ['1']] := by
    decide +kernel
  refine ⟨hcapacity, hlifetime, hhistory, ?_⟩
  unfold twoPlaces at hhistory ⊢
  obtain ⟨ha, -, hvalue⟩ :=
    stored_run_iff (.int 0) hcapacity (by decide) henabled hlifetime threeKeys ['a']
  obtain ⟨hb, hhas, -⟩ :=
    stored_run_iff (.int 0) hcapacity (by decide) henabled hlifetime threeKeys ['b']
  rw [hhistory] at ha hb hvalue
  constructor
  · -- only `c` has been used since `a` was read
    obtain ⟨value, hlast, hget⟩ := hvalue (ha.2 ⟨⟨['1'], by simp⟩, by decide⟩)
    rw [hget, ← hlast]
    rfl
  · -- `a` and `c` have been used since `b` was written
    have hrivals : ¬ (History.rivals [.write ['c'] ['3'], .read ['a'], .write ['b'] ['2'],
        .write ['a'] ['1']] ['b']).card < 2 := by decide
    rw [hhas, Bool.eq_false_iff.2 fun hstored => hrivals (hb.1 hstored).2]

end UtilityCss.Cache

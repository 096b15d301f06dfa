import UtilityCss.Proofs.Cache.Freshness

/-!
# Caches — the order of the entries

Whatever is done with a cache, and whether its entries are live or not, three things hold of the
keys that it stores: no key is stored twice, there are no more of them than the capacity, and they
stand in the order of their last use.

**Order and room** (`stored_actAll`).  The stored keys, the last one first, are the used ones in the
order of recency, but for those that are not stored any more.  So when a new key is written to a
full cache, the entry that goes is the one that has not been used for longest, and only that one;
writing a key that is stored makes no other entry go.

The invariant is `Ordered`.  An action keeps it in one of two ways: it drops some entries
(`Ordered.drop`), or it uses a key, whose entry goes last (`Ordered.use`).
-/

namespace UtilityCss.Cache

/-- The keys that are stored, live or not, the least recently used one first. -/
def Store.stored (s : Store) : List Text :=
  s.entries.map Prod.fst

/-- The uses that an action makes, in order. -/
def usesBy (c : Cache) : Action → List Use
  | .op op => c.usesOf op
  | _ => []

/-- The uses that actions make, the latest first. -/
def pastUses (c : Cache) : List Action → History
  | [] => []
  | action :: rest => (c.act action).pastUses rest ++ (c.usesBy action).reverse

variable {n : Int} {past : History} {c : Cache} {key value : Text}

/-! ### Lists in the order of others -/

/-- A part of a list without duplicates, in its order, is what is left of the list when the others
are taken out. -/
theorem eq_filter_of_sublist {l r : List Text} (h : l.Sublist r) (hr : r.Nodup) :
    l = r.filter (· ∈ l) := by
  induction h with
  | slnil => rfl
  | @cons l r k h ih =>
      obtain ⟨hk, hr⟩ := List.nodup_cons.1 hr
      have hnot : k ∉ l := fun hmem => hk (h.mem hmem)
      rw [List.filter_cons_of_neg (by simpa using hnot)]
      exact ih hr
  | @cons_cons l r k h ih =>
      obtain ⟨hk, hr⟩ := List.nodup_cons.1 hr
      rw [List.filter_cons_of_pos (by simp)]
      -- the key that has been added to the part is not in the rest of the list
      have hsame : r.filter (· ∈ k :: l) = r.filter (· ∈ l) := by
        refine List.filter_congr fun key hkey => ?_
        have hne : key ≠ k := by
          rintro rfl
          exact hk hkey
        simp [hne]
      rw [hsame, ← ih hr]

/-- What stands before a key in a part of a list stands before it in the list. -/
theorem mem_takeWhile_of_sublist {l r : List Text} {k last : Text} (h : (l ++ [last]).Sublist r)
    (hr : r.Nodup) (hk : k ∈ l) : k ∈ r.takeWhile (· != last) := by
  induction r generalizing l with
  | nil => simp at h
  | cons first r ih =>
      obtain ⟨hfirst, hrest⟩ := List.nodup_cons.1 hr
      have hpast : last ∈ r → (first :: r).takeWhile (· != last) =
          first :: r.takeWhile (· != last) := by
        intro hlast
        have hne : first ≠ last := by
          rintro rfl
          exact hfirst hlast
        exact List.takeWhile_cons_of_pos (by simpa using hne)
      rcases List.sublist_cons_iff.1 h with h | ⟨rest, hl, h⟩
      · rw [hpast (h.mem (by simp))]
        exact List.mem_cons_of_mem first (ih h hrest hk)
      · cases l with
        | nil => cases hk
        | cons k' l =>
            obtain ⟨rfl, rfl⟩ := List.cons.inj hl
            rw [hpast (h.mem (by simp))]
            rcases List.mem_cons.1 hk with rfl | hk
            · exact List.mem_cons_self
            · exact List.mem_cons_of_mem k' (ih h hrest hk)

/-! ### The invariant -/

/-- The cache is enabled and of a capacity; no more keys are stored than that lets in, and the last
one first they are in the order of recency. -/
structure Ordered (n : Int) (past : History) (c : Cache) : Prop where
  capacity : capacityOf c.maxSize = .ok (.int n)
  room : c.store.capacity = .int n
  enabled : c.store.enabled = true
  size : (c.store.entries.length : Int) ≤ max n 0
  order : c.store.stored.reverse.Sublist past.recency

theorem ordered_create {maxSize lifetime enabled : Json} (now : Number)
    (hcapacity : capacityOf maxSize = .ok (.int n)) (henabled : enabled.isTruthy) :
    Ordered n [] (create maxSize lifetime enabled now) where
  capacity := hcapacity
  room := congrArg valueOr hcapacity
  enabled := henabled
  size := by simp [create]
  order := List.Sublist.refl []

theorem Ordered.nodup (h : Ordered n past c) : c.store.stored.Nodup :=
  List.nodup_reverse.1 (h.order.nodup past.nodup_recency)

/-- **Dropping entries** keeps the invariant. -/
theorem Ordered.drop (h : Ordered n past c) {s : Store} (hcapacity : s.capacity = c.store.capacity)
    (henabled : s.enabled = c.store.enabled) (hentries : s.entries.Sublist c.store.entries) :
    Ordered n past { c with store := s } where
  capacity := h.capacity
  room := hcapacity.trans h.room
  enabled := henabled.trans h.enabled
  size := by
    have hlength := hentries.length_le
    have hsize := h.size
    dsimp only
    omega
  order := (hentries.map Prod.fst).reverse.trans h.order

/-- **Using a key**, whose entry goes last behind entries of other keys, keeps the invariant. -/
theorem Ordered.use (h : Ordered n past c) (use : Use) {s : Store} {kept : List (Text × Entry)}
    {e : Entry} (hcapacity : s.capacity = c.store.capacity)
    (henabled : s.enabled = c.store.enabled) (hentries : s.entries = kept ++ [(use.key, e)])
    (hkept : kept.Sublist c.store.entries) (hothers : use.key ∉ kept.map Prod.fst)
    (hroom : (kept.length : Int) + 1 ≤ max n 0) :
    Ordered n (use :: past) { c with store := s } where
  capacity := h.capacity
  room := hcapacity.trans h.room
  enabled := henabled.trans h.enabled
  size := by simpa [hentries] using hroom
  order := by
    have hkeys : (kept.map Prod.fst).reverse.filter (· != use.key) = (kept.map Prod.fst).reverse :=
      History.filter_bne_of_not_mem (by simpa using hothers)
    have hrest : (kept.map Prod.fst).reverse.Sublist past.recency :=
      (hkept.map Prod.fst).reverse.trans h.order
    -- the key goes first, in front of the others, and is taken out behind
    rw [Store.stored, hentries, List.map_append, List.reverse_append, ← hkeys]
    exact (hrest.filter _).cons_cons use.key

/-! ### Reading and writing -/

theorem without_sublist (s : Store) (key : Text) : (s.without key).Sublist s.entries :=
  List.filter_sublist

theorem not_mem_without (s : Store) (key : Text) : key ∉ (s.without key).map Prod.fst := by
  rw [map_fst_without]
  simp

/-- The entry of a stored key makes room for another. -/
theorem length_without_lt {s : Store} (h : (s.find? key).isSome) :
    (s.without key).length < s.entries.length := by
  obtain ⟨entry, hentry, hkey⟩ := List.mem_map.1 (Store.find?_isSome_iff.1 h)
  exact List.length_filter_lt_length_iff_exists.2 ⟨entry, hentry, by simp [hkey]⟩

/-- **Reading a key** fails and changes nothing, gives nothing and drops the entry of the key if
there is one, or gives a value and is a use. -/
theorem Ordered.get_cases (h : Ordered n past c) (key : Text) :
    (∃ failure, c.get key = (.error failure, c)) ∨
    (∃ after, c.get key = (.ok none, after) ∧ Ordered n past after) ∨
    ∃ value after, c.get key = (.ok (some value), after) ∧ Ordered n (.read key :: past) after := by
  rcases guarded_cases c (c.looksAt key) (lifetimeOf c.lifetime) (fun _ => c.store.get key) with
    ⟨misuse, -, -, hdone⟩ | hdone
  · exact .inl ⟨_, hdone⟩
  · have hget : c.get key =
        (.ok (c.store.get key).1, { c with store := (c.store.get key).2 }) := hdone
    rcases Store.get_cases c.store key with ⟨-, hg⟩ | ⟨-, -, hg⟩ | ⟨e, -, hf, -, hg⟩ |
        ⟨e, -, -, -, hg⟩ <;> rw [hg] at hget
    · exact .inr (.inl ⟨_, hget, h⟩)
    · exact .inr (.inl ⟨_, hget, h.drop rfl rfl (.refl _)⟩)
    · have hstored : (c.store.find? key).isSome := by simp [hf]
      have hlength := length_without_lt hstored
      have hsize := h.size
      exact .inr (.inr ⟨_, _, hget, h.use (.read key) rfl rfl rfl (without_sublist c.store key)
        (not_mem_without c.store key) (by omega)⟩)
    · exact .inr (.inl ⟨_, hget, h.drop rfl rfl (without_sublist c.store key)⟩)

theorem Ordered.has (h : Ordered n past c) (key : Text) : Ordered n past (c.has key).2 := by
  rcases guarded_cases c (c.looksAt key) (lifetimeOf c.lifetime) (fun _ => c.store.has key) with
    ⟨misuse, -, -, hdone⟩ | hdone <;> rw [Cache.has, hdone]
  · exact h
  · rcases Store.has_cases c.store key with ⟨-, hh⟩ | ⟨-, -, hh⟩ | ⟨e, -, -, -, hh⟩ |
        ⟨e, -, -, -, hh⟩ <;> rw [hh]
    · exact h
    · exact h
    · exact h
    · exact h.drop rfl rfl (without_sublist c.store key)

theorem Ordered.cleanup (h : Ordered n past c) : Ordered n past c.cleanup.1.2 := by
  rcases guarded_cases c c.looksAtAny (lifetimeOf c.lifetime) (fun _ => c.store.cleanup) with
    ⟨misuse, -, -, hdone⟩ | hdone <;> rw [Cache.cleanup, hdone]
  · exact h
  · exact h.drop rfl rfl List.filter_sublist

theorem Ordered.set_eq (h : Ordered n past c) (key value : Text) :
    (c.set key value).1 = (.ok (), { c with store := c.store.set key value }) :=
  guarded_of_ok c c.store.enabled h.capacity fun _ => ((), c.store.set key value)

theorem Ordered.accepts_iff (h : Ordered n past c) : c.store.accepts ↔ 0 < n := by
  simp [Store.accepts, Number.le, h.room, h.enabled]

theorem Ordered.isFull_iff (h : Ordered n past c) :
    c.store.isFull ↔ n ≤ (c.store.entries.length : Int) := by
  simp [Store.isFull, Number.le, h.room]

theorem not_mem_of_find? {s : Store} (h : s.find? key = none) : key ∉ s.entries.map Prod.fst := by
  intro hmem
  have hsome := Store.find?_isSome_iff.2 hmem
  rw [h] at hsome
  cases hsome

/-- **Writing a key** is a use. -/
theorem Ordered.set (h : Ordered n past c) (key value : Text) :
    Ordered n (.write key value :: past) (c.set key value).1.2 := by
  have hsize := h.size
  rw [h.set_eq]
  rcases Store.set_cases c.store key value with ⟨ha, hs⟩ | ⟨ha, hf, hs⟩ | ⟨ha, hf, hfull, hs⟩ |
      ⟨ha, hf, hfull, hs⟩ <;> rw [hs]
  · -- a cache that takes no entries has none
    have hn : ¬ 0 < n := by
      rw [← h.accepts_iff, ha]
      exact Bool.false_ne_true
    have hempty : c.store.entries = [] := List.eq_nil_of_length_eq_zero (by omega)
    exact ⟨h.capacity, h.room, h.enabled, hsize, by simp [Store.stored, hempty]⟩
  · have hlength := length_without_lt hf
    exact h.use (.write key value) rfl rfl rfl (without_sublist c.store key)
      (not_mem_without c.store key) (by omega)
  · have hn := h.accepts_iff.1 ha
    have hle := h.isFull_iff.1 hfull
    refine h.use (.write key value) rfl rfl rfl (List.tail_sublist _) (fun hmem => ?_) ?_
    · rw [List.map_tail] at hmem
      exact not_mem_of_find? hf (List.mem_of_mem_tail hmem)
    · rw [List.length_tail]
      omega
  · have hn := h.accepts_iff.1 ha
    have hlt : ¬ n ≤ (c.store.entries.length : Int) := by
      rw [← h.isFull_iff, hfull]
      exact Bool.false_ne_true
    exact h.use (.write key value) rfl rfl rfl (.refl _) (not_mem_of_find? hf) (by omega)

/-! ### Runs -/

theorem Ordered.setMany (h : Ordered n past c) (entries : List (Text × Text)) :
    Ordered n ((c.usesOf (.setMany entries)).reverse ++ past) (c.setMany entries).2 := by
  induction entries generalizing c past with
  | nil => exact h
  | cons entry rest ih =>
      obtain ⟨key, value⟩ := entry
      have hset := h.set key value
      have hrest := ih hset
      rw [h.set_eq] at hrest
      rw [Cache.setMany, h.set_eq]
      simpa [usesOf] using hrest

theorem Ordered.getMany (h : Ordered n past c) (keys : List Text) (found : List (Text × Text)) :
    Ordered n ((c.reads keys).reverse ++ past) (c.getMany keys found).2 := by
  induction keys generalizing c past found with
  | nil => exact h
  | cons key rest ih =>
      rw [Cache.getMany, reads]
      rcases h.get_cases key with ⟨failure, hg⟩ | ⟨after, hg, hafter⟩ | ⟨value, after, hg, hafter⟩
      · simp only [hg]
        exact h
      · simp only [hg]
        exact ih hafter found
      · simp only [hg, List.reverse_cons, List.append_assoc]
        exact ih hafter _

/-- **One action** keeps the invariant, with the uses that it makes. -/
theorem Ordered.act (h : Ordered n past c) (action : Action) :
    Ordered n ((c.usesBy action).reverse ++ past) (c.act action) := by
  cases action with
  | op op =>
      cases op with
      | set key value => exact h.set key value
      | setMany entries => exact h.setMany entries
      | get key =>
          rcases h.get_cases key with ⟨failure, hg⟩ | ⟨after, hg, hafter⟩ |
              ⟨value, after, hg, hafter⟩
          · simpa [usesBy, usesOf, reads, Cache.act, perform, hg] using h
          · simpa [usesBy, usesOf, reads, Cache.act, perform, hg] using hafter
          · simpa [usesBy, usesOf, reads, Cache.act, perform, hg] using hafter
      | getMany keys => exact h.getMany keys []
      | has key => exact h.has key
      | advance milliseconds => exact h.drop rfl rfl (.refl _)
  | atTime now => exact h.drop rfl rfl (.refl _)
  | delete key => exact h.drop rfl rfl (without_sublist c.store key)
  | clear => exact h.drop rfl rfl (List.nil_sublist _)
  | setVersion version => exact h.drop rfl rfl (.refl _)
  | clearWithVersion version => exact h.drop rfl rfl (List.nil_sublist _)
  | cleanup => exact h.cleanup

/-- **A run** keeps the invariant. -/
theorem Ordered.actAll (h : Ordered n past c) (actions : List Action) :
    Ordered n (c.pastUses actions ++ past) (c.actAll actions) := by
  induction actions generalizing c past with
  | nil => exact h
  | cons action rest ih =>
      rw [pastUses, List.append_assoc]
      exact ih (h.act action)

/-! ### Making room -/

/-- What writing a key does to the entries, where `past` holds the uses so far. -/
structure MakesRoom (n : Int) (past : History) (c : Cache) (key value : Text) : Prop where
  /-- The entry of a stored key is replaced, as the last one, and no other goes. -/
  stored : key ∈ c.store.stored → (c.set key value).1.2.store.entries =
    c.store.without key ++ [(key, ⟨value, c.store.now, c.store.version⟩)]
  /-- Below the capacity, no entry goes. -/
  room : key ∉ c.store.stored → (c.store.stored.length : Int) < n →
    (c.set key value).1.2.store.entries =
      c.store.entries ++ [(key, ⟨value, c.store.now, c.store.version⟩)]
  /-- At the capacity one entry goes: every other stored key has been used since its last use. -/
  full : key ∉ c.store.stored → 0 < n → (c.store.stored.length : Int) = n →
    ∃ oldest e rest, c.store.entries = (oldest, e) :: rest ∧
      (c.set key value).1.2.store.entries =
        rest ++ [(key, ⟨value, c.store.now, c.store.version⟩)] ∧
      ∀ k ∈ rest.map Prod.fst, k ∈ past.rivals oldest

/-- Every other stored key has been used since the last use of the first one. -/
theorem Ordered.mem_rivals (h : Ordered n past c) {oldest k : Text} {e : Entry}
    {rest : List (Text × Entry)} (hentries : c.store.entries = (oldest, e) :: rest)
    (hk : k ∈ rest.map Prod.fst) : k ∈ past.rivals oldest := by
  have hsub : ((rest.map Prod.fst).reverse ++ [oldest]).Sublist past.recency := by
    simpa [Store.stored, hentries] using h.order
  have hbefore := mem_takeWhile_of_sublist hsub past.nodup_recency (List.mem_reverse.2 hk)
  rw [History.takeWhile_recency, History.mem_recency] at hbefore
  rwa [History.rivals, List.mem_toFinset]

theorem Ordered.makesRoom (h : Ordered n past c) (key value : Text) :
    MakesRoom n past c key value := by
  have hset := h.set_eq key value
  have hlength : c.store.stored.length = c.store.entries.length := List.length_map ..
  rcases Store.set_cases c.store key value with ⟨ha, hs⟩ | ⟨ha, hf, hs⟩ | ⟨ha, hf, hfull, hs⟩ |
      ⟨ha, hf, hfull, hs⟩ <;> rw [hs] at hset
  · have hn : ¬ 0 < n := by
      rw [← h.accepts_iff, ha]
      exact Bool.false_ne_true
    have hsize := h.size
    have hempty : c.store.entries = [] := List.eq_nil_of_length_eq_zero (by omega)
    refine ⟨fun hmem => ?_, fun _ hlt => ?_, fun _ hpos => absurd hpos hn⟩
    · rw [Store.stored, hempty] at hmem
      cases hmem
    · omega
  · have hmem : key ∈ c.store.stored := Store.find?_isSome_iff.1 hf
    exact ⟨fun _ => by rw [hset], fun hnot => absurd hmem hnot, fun hnot => absurd hmem hnot⟩
  · have hle := h.isFull_iff.1 hfull
    refine ⟨fun hmem => absurd hmem (not_mem_of_find? hf), fun _ hlt => ?_, fun _ hpos _ => ?_⟩
    · omega
    · cases hentries : c.store.entries with
      | nil =>
          rw [hentries] at hle
          exact absurd hle (by simpa using hpos)
      | cons entry rest =>
          obtain ⟨oldest, e⟩ := entry
          refine ⟨oldest, e, rest, rfl, by rw [hset, hentries]; rfl, fun k hk => ?_⟩
          exact h.mem_rivals hentries hk
  · have hlt : ¬ n ≤ (c.store.entries.length : Int) := by
      rw [← h.isFull_iff, hfull]
      exact Bool.false_ne_true
    refine ⟨fun hmem => absurd hmem (not_mem_of_find? hf), fun _ _ => by rw [hset],
      fun _ _ heq => ?_⟩
    omega

/-- **Order and room.**  Let a cache be created, enabled, with an integer for its capacity, and put
to any actions.  Then no key is stored twice, no more keys are stored than the capacity lets in, and
the stored keys are in the order of their last use.  A new key that is written at the capacity takes
the place of the one key since whose last use all others have been used; below the capacity, or if
the key is stored, no other entry goes. -/
theorem stored_actAll {maxSize lifetime enabled : Json} {n : Int} (now : Number)
    (hcapacity : capacityOf maxSize = .ok (.int n)) (henabled : enabled.isTruthy)
    (actions : List Action) :
    let start := create maxSize lifetime enabled now
    let c := start.actAll actions
    let past := start.pastUses actions
    c.store.stored.Nodup ∧ (c.store.stored.length : Int) ≤ max n 0 ∧
      c.store.stored.reverse = past.recency.filter (· ∈ c.store.stored) ∧
      ∀ key value, MakesRoom n past c key value := by
  intro start c past
  have h : Ordered n past c := by
    have hstart : Ordered n [] start := ordered_create now hcapacity henabled
    have hrun := hstart.actAll actions
    rwa [List.append_nil] at hrun
  refine ⟨h.nodup, ?_, ?_, h.makesRoom⟩
  · rw [Store.stored, List.length_map]
    exact h.size
  · have hfilter := eq_filter_of_sublist h.order past.nodup_recency
    simpa only [List.mem_reverse] using hfilter

/-- A cache for two entries, with a version that goes and comes back, a deleted key and one that is
read. -/
def busy : List Action :=
  [.op (.set ['a'] ['1']), .op (.set ['b'] ['2']), .setVersion ['v'], .op (.get ['b']),
    .op (.set ['b'] ['3']), .op (.set ['c'] ['4']), .delete ['c'], .op (.set ['d'] ['5']),
    .op (.get ['b'])]

theorem stored_actAll_busy :
    capacityOf (.int 2) = .ok (.int 2) ∧ (Json.bool true).isTruthy ∧
      ((create (.int 2) (.int 100) (.bool true)).actAll busy).store.stored = [['d'], ['b']] ∧
      ((create (.int 2) (.int 100) (.bool true)).pastUses busy).recency =
        [['b'], ['d'], ['c'], ['a']] ∧
      MakesRoom 2 ((create (.int 2) (.int 100) (.bool true)).pastUses busy)
        ((create (.int 2) (.int 100) (.bool true)).actAll busy) ['e'] ['6'] := by
  have hcapacity : capacityOf (.int 2) = .ok (.int 2) := rfl
  have henabled : (Json.bool true).isTruthy := rfl
  obtain ⟨-, -, -, hroom⟩ :=
    @stored_actAll (.int 2) (.int 100) (.bool true) 2 (.int 0) hcapacity henabled busy
  exact ⟨hcapacity, henabled, by decide +kernel, by decide +kernel, hroom ['e'] ['6']⟩

end UtilityCss.Cache

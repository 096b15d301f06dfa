import UtilityCss.Cache.Basic

/-!
# Caches — what an operation does

Every operation of a store has a few outcomes, and here each is said once: `Store.get_cases`,
`Store.has_cases` and `Store.set_cases` for a store, `Cache.guarded_cases` for a cache, whose
settings may fail (`Cache.guarded_of_ok` if they do not).  What holds of all entries after an
operation follows from where they come from: an operation only drops and reorders entries, and
writing adds the one that it writes (`Store.mem_get`, `Store.mem_set`, `Store.mem_cleanup`).  What a
single read or write keeps, several of them keep (`Cache.getMany_keeps`, `Cache.setMany_keeps`).
-/

namespace UtilityCss.Cache

namespace Store

variable {s : Store} {key value k : Text} {e : Entry}

/-! ### Reading -/

/-- Reading a key: a store that is not enabled gives nothing, a key without an entry counts as a
miss, a live entry is given and used, and one that is not live is dropped. -/
theorem get_cases (s : Store) (key : Text) :
    (s.enabled = false ∧ s.get key = (none, s)) ∨
    (s.enabled = true ∧ s.find? key = none ∧
      s.get key = (none, { s with misses := s.misses + 1 })) ∨
    (∃ e, s.enabled = true ∧ s.find? key = some e ∧ s.isLive e = true ∧
      s.get key =
        (some e.value, { s with entries := s.without key ++ [(key, e)], hits := s.hits + 1 })) ∨
    ∃ e, s.enabled = true ∧ s.find? key = some e ∧ s.isLive e = false ∧
      s.get key = (none, { s with entries := s.without key, misses := s.misses + 1 }) := by
  rw [get]
  cases he : s.enabled with
  | false => exact .inl ⟨rfl, rfl⟩
  | true =>
      cases hf : s.find? key with
      | none => exact .inr (.inl ⟨rfl, rfl, rfl⟩)
      | some e =>
          cases hl : s.isLive e with
          | true => exact .inr (.inr (.inl ⟨e, rfl, rfl, hl, by simp [hl]⟩))
          | false => exact .inr (.inr (.inr ⟨e, rfl, rfl, hl, by simp [hl]⟩))

/-- Asking for a key drops its entry if that is not live, and changes nothing else. -/
theorem has_cases (s : Store) (key : Text) :
    (s.enabled = false ∧ s.has key = (false, s)) ∨
    (s.enabled = true ∧ s.find? key = none ∧ s.has key = (false, s)) ∨
    (∃ e, s.enabled = true ∧ s.find? key = some e ∧ s.isLive e = true ∧ s.has key = (true, s)) ∨
    ∃ e, s.enabled = true ∧ s.find? key = some e ∧ s.isLive e = false ∧
      s.has key = (false, { s with entries := s.without key }) := by
  rw [has]
  cases he : s.enabled with
  | false => exact .inl ⟨rfl, rfl⟩
  | true =>
      cases hf : s.find? key with
      | none => exact .inr (.inl ⟨rfl, rfl, rfl⟩)
      | some e =>
          cases hl : s.isLive e with
          | true => exact .inr (.inr (.inl ⟨e, rfl, rfl, hl, by simp [hl]⟩))
          | false => exact .inr (.inr (.inr ⟨e, rfl, rfl, hl, by simp [hl]⟩))

theorem mem_of_find? (h : s.find? key = some e) : (key, e) ∈ s.entries := by
  obtain ⟨before, after, hentries, -⟩ := List.lookup_eq_some_iff.1 h
  simp [hentries]

theorem find?_isSome_iff : (s.find? k).isSome ↔ k ∈ s.entries.map Prod.fst := by
  simp [find?]

/-- Where a key has no entry, the entries are those of other keys. -/
theorem ne_of_find?_eq_none (h : s.find? key = none) (he : (k, e) ∈ s.entries) : k ≠ key := by
  rintro rfl
  have hsome := find?_isSome_iff.2 (List.mem_map_of_mem (f := Prod.fst) he)
  rw [h] at hsome
  cases hsome

theorem mem_without : (k, e) ∈ s.without key ↔ (k, e) ∈ s.entries ∧ k ≠ key := by
  simp [without]

/-- Reading adds no entry. -/
theorem mem_get (h : (k, e) ∈ (s.get key).2.entries) : (k, e) ∈ s.entries := by
  rcases get_cases s key with ⟨-, hg⟩ | ⟨-, -, hg⟩ | ⟨e', -, hf, -, hg⟩ | ⟨e', -, -, -, hg⟩ <;>
    rw [hg] at h
  · exact h
  · exact h
  · rcases List.mem_append.1 h with h | h
    · exact (mem_without.1 h).1
    · obtain ⟨rfl, rfl⟩ := Prod.mk.inj (List.mem_singleton.1 h)
      exact mem_of_find? hf
  · exact (mem_without.1 h).1

/-- What is read is the value of a live entry. -/
theorem live_of_get_eq_some (h : (s.get key).1 = some value) :
    ∃ e, (key, e) ∈ s.entries ∧ s.isLive e = true ∧ e.value = value := by
  rcases get_cases s key with ⟨-, hg⟩ | ⟨-, -, hg⟩ | ⟨e', -, hf, hl, hg⟩ | ⟨e', -, -, -, hg⟩ <;>
    rw [hg] at h
  · cases h
  · cases h
  · exact ⟨e', mem_of_find? hf, hl, Option.some.inj h⟩
  · cases h

theorem version_get (s : Store) (key : Text) : (s.get key).2.version = s.version := by
  rcases get_cases s key with ⟨-, hg⟩ | ⟨-, -, hg⟩ | ⟨e', -, -, -, hg⟩ | ⟨e', -, -, -, hg⟩ <;>
    rw [hg]

theorem version_of_isLive (h : s.isLive e = true) : e.version = s.version :=
  eq_of_beq (Bool.and_eq_true_iff.1 h).1

/-! ### Writing -/

/-- Writing a key: a store that takes no entries stays as it is; otherwise the entry goes last, in
the place of the one of its key or of the first one, or as one more. -/
theorem set_cases (s : Store) (key value : Text) :
    (s.accepts = false ∧ s.set key value = s) ∨
    (s.accepts = true ∧ (s.find? key).isSome = true ∧ s.set key value =
      { s with entries := s.without key ++ [(key, ⟨value, s.now, s.version⟩)] }) ∨
    (s.accepts = true ∧ s.find? key = none ∧ s.isFull = true ∧ s.set key value =
      { s with entries := s.entries.tail ++ [(key, ⟨value, s.now, s.version⟩)] }) ∨
    (s.accepts = true ∧ s.find? key = none ∧ s.isFull = false ∧ s.set key value =
      { s with entries := s.entries ++ [(key, ⟨value, s.now, s.version⟩)] }) := by
  rw [set]
  cases ha : s.accepts with
  | false => exact .inl ⟨rfl, rfl⟩
  | true =>
      cases hf : s.find? key with
      | some e => exact .inr (.inl ⟨rfl, rfl, rfl⟩)
      | none =>
          cases hfull : s.isFull with
          | true => exact .inr (.inr (.inl ⟨rfl, rfl, rfl, rfl⟩))
          | false => exact .inr (.inr (.inr ⟨rfl, rfl, rfl, rfl⟩))

/-- Writing adds the entry that it writes and no other. -/
theorem mem_set (h : (k, e) ∈ (s.set key value).entries) :
    (k, e) ∈ s.entries ∨ k = key ∧ e = ⟨value, s.now, s.version⟩ := by
  have hnew : (k, e) ∈ [(key, (⟨value, s.now, s.version⟩ : Entry))] →
      k = key ∧ e = ⟨value, s.now, s.version⟩ := fun h => Prod.mk.inj (List.mem_singleton.1 h)
  rcases set_cases s key value with ⟨-, hs⟩ | ⟨-, -, hs⟩ | ⟨-, -, -, hs⟩ | ⟨-, -, -, hs⟩ <;>
    rw [hs] at h
  · exact .inl h
  · exact (List.mem_append.1 h).imp (fun h => (mem_without.1 h).1) hnew
  · exact (List.mem_append.1 h).imp List.mem_of_mem_tail hnew
  · exact (List.mem_append.1 h).imp_right hnew

theorem version_set (s : Store) (key value : Text) : (s.set key value).version = s.version := by
  rcases set_cases s key value with ⟨-, hs⟩ | ⟨-, -, hs⟩ | ⟨-, -, -, hs⟩ | ⟨-, -, -, hs⟩ <;>
    rw [hs]

/-! ### Sweeping and listing -/

/-- Sweeping adds no entry. -/
theorem mem_cleanup (h : (k, e) ∈ s.cleanup.2.entries) : (k, e) ∈ s.entries :=
  (List.mem_filter.1 h).1

/-- The keys that are listed are those of the live entries. -/
theorem mem_keys : k ∈ s.keys ↔ s.enabled = true ∧ ∃ e, (k, e) ∈ s.entries ∧ s.isLive e = true := by
  rw [keys, liveEntries]
  cases s.enabled <;> simp

/-- A key that gives a value is listed. -/
theorem mem_keys_of_get_eq_some (h : (s.get key).1 = some value) : key ∈ s.keys := by
  rcases get_cases s key with ⟨-, hg⟩ | ⟨-, -, hg⟩ | ⟨e, he, hf, hl, -⟩ | ⟨e, -, -, -, hg⟩
  · rw [hg] at h
    cases h
  · rw [hg] at h
    cases h
  · exact mem_keys.2 ⟨he, e, mem_of_find? hf, hl⟩
  · rw [hg] at h
    cases h

end Store

/-- An operation that looks at a setting fails if the setting cannot be used, and leaves the cache
as it was; otherwise it does what it does to the store. -/
theorem guarded_cases {α : Type} (c : Cache) (needed : Bool) (setting : Except Misuse Number)
    (next : Unit → α × Store) :
    (∃ misuse, needed = true ∧ setting = .error misuse ∧
      c.guarded needed setting next = (.error (.misuse misuse), c)) ∨
    c.guarded needed setting next = (.ok (next ()).1, { c with store := (next ()).2 }) := by
  simp only [guarded]
  cases needed with
  | false => exact .inr rfl
  | true =>
      cases setting with
      | error misuse => exact .inl ⟨misuse, rfl, rfl, rfl⟩
      | ok n => exact .inr rfl

/-- With a setting that can be used, an operation does what it does to the store. -/
theorem guarded_of_ok {α : Type} (c : Cache) (needed : Bool) {setting : Except Misuse Number}
    {n : Number} (h : setting = .ok n) (next : Unit → α × Store) :
    c.guarded needed setting next = (.ok (next ()).1, { c with store := (next ()).2 }) := by
  rcases guarded_cases c needed setting next with ⟨misuse, -, herror, -⟩ | hdone
  · rw [h] at herror
    cases herror
  · exact hdone

/-- An operation that has succeeded has done what it does to the store, and the setting that it
looks at can be used. -/
theorem guarded_eq_ok {α : Type} {c : Cache} {needed : Bool} {setting : Except Misuse Number}
    {next : Unit → α × Store} {a : α} (h : (c.guarded needed setting next).1 = .ok a) :
    (next ()).1 = a ∧ (needed = true → ∃ n, setting = .ok n) := by
  rcases guarded_cases c needed setting next with ⟨misuse, -, -, hdone⟩ | hdone
  · rw [hdone] at h
    cases h
  · cases setting with
    | ok n =>
        rw [hdone] at h
        exact ⟨Except.ok.inj h, fun _ => ⟨n, rfl⟩⟩
    | error misuse =>
        cases needed with
        | true => cases h
        | false =>
            rw [hdone] at h
            exact ⟨Except.ok.inj h, nofun⟩

/-! ### Several keys -/

/-- What every read keeps, reading several keys keeps: it reads them one after the other, up to the
first failure. -/
theorem getMany_keeps {P : Cache → Prop} (hget : ∀ c key, P c → P (c.get key).2) {c : Cache}
    (h : P c) (keys : List Text) (found : List (Text × Text)) : P (c.getMany keys found).2 := by
  induction keys generalizing c found with
  | nil => exact h
  | cons key rest ih =>
      have hread := hget c key h
      rw [Cache.getMany]
      rcases hstep : c.get key with ⟨failure | value, after⟩ <;> rw [hstep] at hread
      · exact hread
      · cases value with
        | none => exact ih hread found
        | some value => exact ih hread (keep found key value)

/-- What every write keeps, writing several entries keeps. -/
theorem setMany_keeps {P : Cache → Prop} (hset : ∀ c key value, P c → P (c.set key value).1.2)
    {c : Cache} (h : P c) (entries : List (Text × Text)) : P (c.setMany entries).2 := by
  induction entries generalizing c with
  | nil => exact h
  | cons entry rest ih =>
      obtain ⟨key, value⟩ := entry
      have hwritten := hset c key value h
      rw [Cache.setMany]
      rcases hstep : (c.set key value).1 with ⟨failure | done, after⟩ <;> rw [hstep] at hwritten
      · exact hwritten
      · exact ih hwritten

end UtilityCss.Cache

import UtilityCss.Proofs.Cache.Order

/-!
# Caches — what is listed and what is read

Whether an entry is live is decided in three places: when its key is looked up, when the entries are
listed, and when the dead ones are swept out.  The three never disagree.

* **What is listed is what is read** (`reached_views`).  In any enabled cache that can be reached, a
  key is reported exactly if it is listed, and reading it gives the value it is listed with.
  Asking for a key changes no count and nothing that is listed; the most it does is to drop the
  entry of that key, and only if it reports that there is none.
* Sweeping changes nothing that is listed, reported or given.  It counts the entries that are not
  listed and leaves those that are, so that sweeping again finds nothing.

Listing, counting and the statistics give no cache back at all.  Only reading and asking need an
argument: both find the first entry of the key, which is the only one since no key is stored twice
(`Reached.nodup`).  Entries of any version and age may be stored, and the settings may be changed in
between.  A lifetime that cannot be used is noticed when an entry of the current version is looked
at, by every one of these operations, so the equivalences hold for such a lifetime too.
-/

namespace UtilityCss.Cache

variable {c : Cache} {key value k : Text} {e : Entry}

/-! ### Distinct keys -/

namespace Store

variable {s : Store}

theorem nodup_of_sublist {entries : List (Text × Entry)} (h : s.stored.Nodup)
    (hentries : entries.Sublist s.entries) : (stored { s with entries }).Nodup :=
  (hentries.map Prod.fst).nodup h

/-- An entry may be put behind entries of other keys. -/
theorem nodup_stored_concat {kept : List (Text × Entry)} (h : s.stored.Nodup)
    (hkept : kept.Sublist s.entries) (hothers : key ∉ kept.map Prod.fst) (e : Entry) :
    ((kept ++ [(key, e)]).map Prod.fst).Nodup := by
  rw [List.map_append]
  refine List.Nodup.append ((hkept.map Prod.fst).nodup h) (List.nodup_singleton key) ?_
  exact List.disjoint_singleton.2 hothers

theorem nodup_get (h : s.stored.Nodup) (key : Text) : (s.get key).2.stored.Nodup := by
  rcases get_cases s key with ⟨-, hg⟩ | ⟨-, -, hg⟩ | ⟨e, -, -, -, hg⟩ | ⟨e, -, -, -, hg⟩ <;> rw [hg]
  · exact h
  · exact h
  · exact nodup_stored_concat h (without_sublist s key) (not_mem_without s key) e
  · exact nodup_of_sublist h (without_sublist s key)

theorem nodup_has (h : s.stored.Nodup) (key : Text) : (s.has key).2.stored.Nodup := by
  rcases has_cases s key with ⟨-, hh⟩ | ⟨-, -, hh⟩ | ⟨e, -, -, -, hh⟩ | ⟨e, -, -, -, hh⟩ <;> rw [hh]
  · exact h
  · exact h
  · exact h
  · exact nodup_of_sublist h (without_sublist s key)

theorem nodup_set (h : s.stored.Nodup) (key value : Text) : (s.set key value).stored.Nodup := by
  rcases set_cases s key value with ⟨-, hs⟩ | ⟨-, -, hs⟩ | ⟨-, hf, -, hs⟩ | ⟨-, hf, -, hs⟩ <;>
    rw [hs]
  · exact h
  · exact nodup_stored_concat h (without_sublist s key) (not_mem_without s key) _
  · refine nodup_stored_concat h (List.tail_sublist _) (fun hmem => ?_) _
    rw [List.map_tail] at hmem
    exact not_mem_of_find? hf (List.mem_of_mem_tail hmem)
  · exact nodup_stored_concat h (.refl _) (not_mem_of_find? hf) _

theorem nodup_cleanup (h : s.stored.Nodup) : s.cleanup.2.stored.Nodup :=
  nodup_of_sublist h List.filter_sublist

end Store

theorem nodup_guarded {α : Type} (h : c.store.stored.Nodup) (needed : Bool)
    (setting : Except Misuse Number) {next : Unit → α × Store} (hnext : (next ()).2.stored.Nodup) :
    (c.guarded needed setting next).2.store.stored.Nodup := by
  rcases guarded_cases c needed setting next with ⟨misuse, -, -, hdone⟩ | hdone <;> rw [hdone]
  · exact h
  · exact hnext

theorem nodup_getMany (h : c.store.stored.Nodup) (keys : List Text) (found : List (Text × Text)) :
    (c.getMany keys found).2.store.stored.Nodup :=
  getMany_keeps (P := fun c => c.store.stored.Nodup)
    (fun _ key h => nodup_guarded h _ _ (Store.nodup_get h key)) h keys found

theorem nodup_setMany (h : c.store.stored.Nodup) (entries : List (Text × Text)) :
    (c.setMany entries).2.store.stored.Nodup :=
  setMany_keeps (P := fun c => c.store.stored.Nodup)
    (fun _ key value h => nodup_guarded h _ _ (Store.nodup_set h key value)) h entries

theorem nodup_act (h : c.store.stored.Nodup) (action : Action) :
    (c.act action).store.stored.Nodup := by
  cases action with
  | op op =>
      cases op with
      | set key value => exact nodup_guarded h _ _ (Store.nodup_set h key value)
      | setMany entries => exact nodup_setMany h entries
      | get key => exact nodup_guarded h _ _ (Store.nodup_get h key)
      | getMany keys => exact nodup_getMany h keys []
      | has key => exact nodup_guarded h _ _ (Store.nodup_has h key)
      | advance milliseconds => exact h
  | atTime now => exact h
  | delete key => exact Store.nodup_of_sublist h (without_sublist c.store key)
  | clear => exact List.nodup_nil
  | setVersion version => exact h
  | clearWithVersion version => exact List.nodup_nil
  | cleanup => exact nodup_guarded h _ _ (Store.nodup_cleanup h)

/-- The caches that can be reached: a new one with any settings, put to any actions, where the
settings may be changed in between. -/
inductive Reached : Cache → Prop where
  | create (maxSize lifetime enabled : Json) (now : Number) :
      Reached (create maxSize lifetime enabled now)
  | act {c : Cache} (h : Reached c) (action : Action) : Reached (c.act action)
  | configure {c : Cache} (h : Reached c) (maxSize lifetime enabled : Json) :
      Reached (c.configure maxSize lifetime enabled)

/-- **No key is stored twice**, whatever the settings are. -/
theorem Reached.nodup (h : Reached c) : c.store.stored.Nodup := by
  induction h with
  | create maxSize lifetime enabled now => exact List.nodup_nil
  | act h action ih => exact nodup_act ih action
  | configure h maxSize lifetime enabled ih => exact ih

/-! ### Stores -/

namespace Store

variable {s : Store}

/-- The first entry of a key is the only one. -/
theorem find?_eq_some_iff (h : s.stored.Nodup) : s.find? k = some e ↔ (k, e) ∈ s.entries := by
  refine ⟨mem_of_find?, fun he => ?_⟩
  obtain ⟨e', hfind⟩ :=
    Option.isSome_iff_exists.1 (find?_isSome_iff.2 (List.mem_map_of_mem (f := Prod.fst) he))
  obtain ⟨-, rfl⟩ := Prod.mk.inj (List.inj_on_of_nodup_map h (mem_of_find? hfind) he rfl)
  exact hfind

/-- The entries that are live. -/
def live (s : Store) : List (Text × Entry) :=
  s.entries.filter fun entry => s.isLive entry.2

theorem liveEntries_eq (s : Store) :
    s.liveEntries = if s.enabled then s.live.map fun entry => (entry.1, entry.2.value) else [] :=
  rfl

theorem mem_liveEntries (henabled : s.enabled = true) :
    (k, value) ∈ s.liveEntries ↔ ∃ e, (k, e) ∈ s.entries ∧ s.isLive e = true ∧ e.value = value := by
  rw [liveEntries_eq, if_pos henabled, live]
  simp only [List.mem_map, List.mem_filter, Prod.exists, Prod.mk.injEq]
  constructor
  · rintro ⟨k', e, ⟨he, hlive⟩, rfl, hvalue⟩
    exact ⟨e, he, hlive, hvalue⟩
  · rintro ⟨e, he, hlive, hvalue⟩
    exact ⟨k, e, ⟨he, hlive⟩, rfl, hvalue⟩

theorem mem_keys_iff : k ∈ s.keys ↔ ∃ value, (k, value) ∈ s.liveEntries := by
  simp [keys]

/-- **Reading** gives what is listed. -/
theorem get_eq_some_iff (h : s.stored.Nodup) (henabled : s.enabled = true) :
    (s.get key).1 = some value ↔ (key, value) ∈ s.liveEntries := by
  rw [mem_liveEntries henabled]
  constructor
  · exact live_of_get_eq_some
  · rintro ⟨e, he, hlive, rfl⟩
    have hfind := (find?_eq_some_iff h).2 he
    simp [get, henabled, hfind, hlive]

/-- **Asking** reports what is listed. -/
theorem has_iff (h : s.stored.Nodup) (henabled : s.enabled = true) :
    (s.has key).1 = true ↔ key ∈ s.keys := by
  rw [mem_keys]
  constructor
  · intro hhas
    rcases has_cases s key with ⟨-, hh⟩ | ⟨-, -, hh⟩ | ⟨e, -, hf, hlive, -⟩ | ⟨e, -, -, -, hh⟩
    · rw [hh] at hhas
      cases hhas
    · rw [hh] at hhas
      cases hhas
    · exact ⟨henabled, e, mem_of_find? hf, hlive⟩
    · rw [hh] at hhas
      cases hhas
  · rintro ⟨-, e, he, hlive⟩
    have hfind := (find?_eq_some_iff h).2 he
    simp [has, henabled, hfind, hlive]

/-- Leaving out an entry that is not live changes nothing that is listed. -/
theorem liveEntries_without (h : s.stored.Nodup) (hfind : s.find? key = some e)
    (hdead : s.isLive e = false) :
    liveEntries { s with entries := s.without key } = s.liveEntries := by
  have hlive : live { s with entries := s.without key } = s.live := by
    rw [live, without, List.filter_filter]
    refine List.filter_congr fun entry he => ?_
    by_cases hkey : entry.1 = key
    · have hentry : s.find? key = some entry.2 := (find?_eq_some_iff h).2 (hkey ▸ he)
      rw [hfind] at hentry
      cases hentry
      exact (congrArg (· && _) hdead).trans hdead.symm
    · have hother : (entry.1 != key) = true := by simpa using hkey
      rw [hother, Bool.and_true]
      rfl
  rw [liveEntries_eq, liveEntries_eq, hlive]

theorem liveEntries_cleanup (s : Store) : s.cleanup.2.liveEntries = s.liveEntries := by
  have hlive : s.cleanup.2.live = s.live :=
    List.filter_eq_self.2 fun _ he => (List.mem_filter.1 he).2
  rw [liveEntries_eq, liveEntries_eq, hlive]
  rfl

theorem length_liveEntries (henabled : s.enabled = true) :
    s.liveEntries.length = s.live.length := by
  rw [liveEntries_eq, if_pos henabled, List.length_map]

/-- After sweeping, the entries that are listed are all there are. -/
theorem size_cleanup (henabled : s.enabled = true) :
    s.cleanup.2.size = s.liveEntries.length :=
  (length_liveEntries henabled).symm

theorem cleanup_fst (henabled : s.enabled = true) :
    s.cleanup.1 = s.size - s.liveEntries.length := by
  rw [length_liveEntries henabled]
  rfl

end Store

/-! ### Caches -/

/-- An operation gives a result if the setting that it looks at can be used. -/
theorem guarded_eq_ok_iff {α : Type} (c : Cache) (needed : Bool) (setting : Except Misuse Number)
    (next : Unit → α × Store) (a : α) :
    (c.guarded needed setting next).1 = .ok a ↔
      (next ()).1 = a ∧ (needed = true → ∃ n, setting = .ok n) := by
  refine ⟨guarded_eq_ok, ?_⟩
  rintro ⟨rfl, husable⟩
  rcases guarded_cases c needed setting next with ⟨misuse, hneeded, herror, -⟩ | hdone
  · obtain ⟨n, hn⟩ := husable hneeded
    rw [herror] at hn
    cases hn
  · rw [hdone]

/-- The lifetime can be used. -/
def Usable (c : Cache) : Prop :=
  ∃ l, lifetimeOf c.lifetime = .ok l

theorem looksAtAny_of_looksAt (h : c.looksAt key = true) : c.looksAtAny = true := by
  obtain ⟨-, hany⟩ := Bool.and_eq_true_iff.1 h
  obtain ⟨e, hfind, hversion⟩ := (Option.any_eq_true _ _).1 hany
  exact List.any_eq_true.2 ⟨(key, e), Store.mem_of_find? hfind, hversion⟩

/-- Where a live entry is stored, the lifetime is looked at when the entries are listed. -/
theorem looksAtAny_of_isLive (he : (k, e) ∈ c.store.entries) (hlive : c.store.isLive e = true) :
    c.looksAtAny = true :=
  List.any_eq_true.2 ⟨(k, e), he, by simp [Store.version_of_isLive hlive]⟩

/-- And when its key is looked up. -/
theorem looksAt_of_isLive (h : c.store.stored.Nodup) (henabled : c.store.enabled = true)
    (he : (k, e) ∈ c.store.entries) (hlive : c.store.isLive e = true) : c.looksAt k = true := by
  simp [looksAt, henabled, (Store.find?_eq_some_iff h).2 he, Store.version_of_isLive hlive]

theorem entries_eq_ok_iff (henabled : c.store.enabled = true) {listed : List (Text × Text)} :
    c.entries = .ok listed ↔
      c.store.liveEntries = listed ∧ (c.looksAtAny = true → c.Usable) := by
  rw [entries, henabled, Bool.true_and]
  exact guarded_eq_ok_iff c _ _ _ listed

/-- A key is listed with a value if it has a live entry with it and the lifetime can be used. -/
theorem listed_iff (henabled : c.store.enabled = true) :
    (∃ listed, c.entries = .ok listed ∧ (k, value) ∈ listed) ↔
      (k, value) ∈ c.store.liveEntries ∧ c.Usable := by
  constructor
  · rintro ⟨listed, hentries, hmem⟩
    obtain ⟨rfl, husable⟩ := (entries_eq_ok_iff henabled).1 hentries
    obtain ⟨e, he, hlive, -⟩ := (Store.mem_liveEntries henabled).1 hmem
    exact ⟨hmem, husable (looksAtAny_of_isLive he hlive)⟩
  · rintro ⟨hmem, husable⟩
    exact ⟨_, (entries_eq_ok_iff henabled).2 ⟨rfl, fun _ => husable⟩, hmem⟩

theorem get_eq_some_iff (h : c.store.stored.Nodup) (henabled : c.store.enabled = true) :
    (c.get key).1 = .ok (some value) ↔
      ∃ listed, c.entries = .ok listed ∧ (key, value) ∈ listed := by
  rw [listed_iff henabled, Cache.get, guarded_eq_ok_iff, Store.get_eq_some_iff h henabled]
  refine and_congr_right fun hmem => ⟨fun husable => ?_, fun husable _ => husable⟩
  obtain ⟨e, he, hlive, -⟩ := (Store.mem_liveEntries henabled).1 hmem
  exact husable (looksAt_of_isLive h henabled he hlive)

theorem has_eq_true_iff (h : c.store.stored.Nodup) (henabled : c.store.enabled = true) :
    (c.has key).1 = .ok true ↔ ∃ listed, c.entries = .ok listed ∧ key ∈ listed.map Prod.fst := by
  have hkeys : (∃ listed, c.entries = .ok listed ∧ key ∈ listed.map Prod.fst) ↔
      ∃ value listed, c.entries = .ok listed ∧ (key, value) ∈ listed := by
    simp only [List.mem_map, Prod.exists, exists_and_right, exists_eq_right]
    rw [exists_comm]
    simp only [exists_and_left]
  simp only [hkeys, listed_iff henabled, exists_and_right]
  rw [Cache.has, guarded_eq_ok_iff, Store.has_iff h henabled, Store.mem_keys_iff]
  refine and_congr_right fun hlisted => ⟨fun husable => ?_, fun husable _ => husable⟩
  obtain ⟨value, hmem⟩ := hlisted
  obtain ⟨e, he, hlive, -⟩ := (Store.mem_liveEntries henabled).1 hmem
  exact husable (looksAt_of_isLive h henabled he hlive)

theorem guarded_gives {α : Type} {setting : Except Misuse Number} {n : Number}
    (h : setting = .ok n) (c : Cache) (needed : Bool) (next : Unit → α × Store) :
    ∃ a, (c.guarded needed setting next).1 = .ok a :=
  ⟨_, congrArg Prod.fst (guarded_of_ok c needed h next)⟩

/-- Two operations that give the same give the same also if their setting cannot be used, as long as
both look at it or neither does. -/
theorem guarded_fst_congr {α : Type} {c c' : Cache} {needed needed' : Bool}
    {setting : Except Misuse Number} {next next' : Unit → α × Store}
    (hresult : (next ()).1 = (next' ()).1) (hneeded : (∃ n, setting = .ok n) ∨ needed = needed') :
    (c.guarded needed setting next).1 = (c'.guarded needed' setting next').1 := by
  rcases hneeded with ⟨n, hn⟩ | rfl
  · rw [guarded_of_ok c needed hn, guarded_of_ok c' needed' hn, hresult]
  · cases needed with
    | false => exact congrArg Except.ok hresult
    | true =>
        cases setting with
        | error misuse => rfl
        | ok n => exact congrArg Except.ok hresult

/-! ### Asking -/

/-- **Asking for a key** changes no count and nothing that is listed.  It drops the entry of the key
or changes nothing, and the former only if it reports that there is none. -/
structure AsksOnly (c : Cache) (key : Text) : Prop where
  hits : (c.has key).2.store.hits = c.store.hits
  misses : (c.has key).2.store.misses = c.store.misses
  listed : (c.has key).2.entries = c.entries
  dropped : (c.has key).2 = c ∨ (c.has key).1 = .ok false ∧ (c.has key).2 = c.act (.delete key)

/-- Where an entry of another version is left out, there is an entry of the current one exactly if
there was one before. -/
theorem looksAtAny_delete (h : c.store.stored.Nodup) (hfind : c.store.find? key = some e)
    (hversion : e.version ≠ c.store.version) :
    (c.act (.delete key)).looksAtAny = c.looksAtAny := by
  rw [Bool.eq_iff_iff, looksAtAny, List.any_eq_true, looksAtAny, List.any_eq_true]
  constructor
  · rintro ⟨entry, he, hcurrent⟩
    exact ⟨entry, (without_sublist c.store key).mem he, hcurrent⟩
  · rintro ⟨⟨k, e'⟩, he, hcurrent⟩
    refine ⟨(k, e'), Store.mem_without.2 ⟨he, ?_⟩, hcurrent⟩
    rintro rfl
    rw [← Store.find?_eq_some_iff h, hfind] at he
    cases he
    exact hversion (eq_of_beq hcurrent)

/-- What is listed stays as it is when an entry that is not live goes: if the lifetime cannot be
used, then that entry has not been looked at either. -/
theorem entries_delete (h : c.store.stored.Nodup) (henabled : c.store.enabled = true)
    (hfind : c.store.find? key = some e) (hdead : c.store.isLive e = false)
    (husable : c.looksAt key = true → c.Usable) :
    (c.act (.delete key)).entries = c.entries := by
  refine guarded_fst_congr (Store.liveEntries_without h hfind hdead) ?_
  by_cases hlooks : c.looksAt key = true
  · exact .inl (husable hlooks)
  · have hversion : e.version ≠ c.store.version := by
      simpa [looksAt, henabled, hfind] using hlooks
    exact .inr (congrArg (c.store.enabled && ·) (looksAtAny_delete h hfind hversion))

theorem asksOnly (h : c.store.stored.Nodup) (key : Text) : AsksOnly c key := by
  have hunchanged : (c.has key).2 = c → AsksOnly c key :=
    fun hsame => ⟨by rw [hsame], by rw [hsame], by rw [hsame], .inl hsame⟩
  rcases guarded_cases c (c.looksAt key) (lifetimeOf c.lifetime) (fun _ => c.store.has key) with
    ⟨misuse, -, -, hdone⟩ | hdone
  · exact hunchanged (congrArg Prod.snd hdone)
  · have hhas : c.has key = (.ok (c.store.has key).1, { c with store := (c.store.has key).2 }) :=
      hdone
    have husable : c.looksAt key = true → c.Usable :=
      (guarded_eq_ok (congrArg Prod.fst hdone)).2
    rcases Store.has_cases c.store key with ⟨-, hh⟩ | ⟨-, -, hh⟩ | ⟨e, -, -, -, hh⟩ |
        ⟨e, henabled, hfind, hdead, hh⟩ <;> rw [hh] at hhas
    · exact hunchanged (congrArg Prod.snd hhas)
    · exact hunchanged (congrArg Prod.snd hhas)
    · exact hunchanged (congrArg Prod.snd hhas)
    · have hafter : (c.has key).2 = c.act (.delete key) := congrArg Prod.snd hhas
      have hlisted := entries_delete h henabled hfind hdead husable
      exact ⟨by rw [hafter]; rfl, by rw [hafter]; rfl, by rw [hafter, hlisted],
        .inr ⟨congrArg Prod.fst hhas, hafter⟩⟩

/-! ### Sweeping -/

/-- **Sweeping** changes nothing that is listed, reported or given.  If it succeeds, it has counted
the entries that are not listed and left as many as are, and sweeping again finds nothing. -/
structure SweepsUnseen (c : Cache) : Prop where
  listed : c.cleanup.1.2.entries = c.entries
  has : ∀ key, (c.cleanup.1.2.has key).1 = (c.has key).1
  get : ∀ key, (c.cleanup.1.2.get key).1 = (c.get key).1
  counts : ∀ n, c.cleanup.1.1 = .ok n → ∃ listed, c.entries = .ok listed ∧
    n + listed.length = c.store.size ∧ c.cleanup.1.2.store.size = listed.length ∧
    c.cleanup.1.2.cleanup.1.1 = .ok 0

namespace Store

variable {s : Store}

/-- Sweeping does not change what is reported. -/
theorem has_cleanup (h : s.stored.Nodup) (henabled : s.enabled = true) (key : Text) :
    (s.cleanup.2.has key).1 = (s.has key).1 := by
  rw [Bool.eq_iff_iff, has_iff (nodup_cleanup h) henabled, has_iff h henabled, keys, keys,
    liveEntries_cleanup]

/-- Nor what is given. -/
theorem get_cleanup (h : s.stored.Nodup) (henabled : s.enabled = true) (key : Text) :
    (s.cleanup.2.get key).1 = (s.get key).1 := by
  refine Option.ext fun value => ?_
  rw [get_eq_some_iff (nodup_cleanup h) henabled, get_eq_some_iff h henabled, liveEntries_cleanup]

/-- After sweeping there is nothing to sweep. -/
theorem cleanup_cleanup (henabled : s.enabled = true) : s.cleanup.2.cleanup.1 = 0 := by
  have hafter : s.cleanup.2.enabled = true := henabled
  rw [cleanup_fst hafter, liveEntries_cleanup, size_cleanup henabled, Nat.sub_self]

theorem length_liveEntries_le (henabled : s.enabled = true) : s.liveEntries.length ≤ s.size := by
  rw [length_liveEntries henabled]
  exact List.length_filter_le _ _

end Store

theorem looksAtAny_cleanup (h : looksAtAny { c with store := c.store.cleanup.2 } = true) :
    c.looksAtAny = true := by
  obtain ⟨entry, he, hversion⟩ := List.any_eq_true.1 h
  exact List.any_eq_true.2 ⟨entry, List.mem_of_mem_filter he, hversion⟩

/-- Where listing succeeds, no operation that looks at the lifetime only for entries of the current
version can fail. -/
theorem usable_or_eq (c : Cache) {needed needed' : Bool}
    (husable : c.looksAtAny = true → c.Usable) (h : needed = true → c.looksAtAny = true)
    (h' : needed' = true → c.looksAtAny = true) :
    (∃ n, lifetimeOf c.lifetime = .ok n) ∨ needed = needed' := by
  cases hany : c.looksAtAny with
  | true => exact .inl (husable hany)
  | false =>
      rw [hany] at h h'
      exact .inr (Bool.eq_iff_iff.2 ⟨fun hn => absurd (h hn) Bool.false_ne_true,
        fun hn => absurd (h' hn) Bool.false_ne_true⟩)

theorem sweepsUnseen (h : c.store.stored.Nodup) (henabled : c.store.enabled = true) :
    SweepsUnseen c := by
  rcases guarded_cases c c.looksAtAny (lifetimeOf c.lifetime) (fun _ => c.store.cleanup) with
    ⟨misuse, -, -, hdone⟩ | hdone
  · have hafter : c.cleanup.1.2 = c := congrArg Prod.snd hdone
    refine ⟨by rw [hafter], fun _ => by rw [hafter], fun _ => by rw [hafter], fun n hn => ?_⟩
    rw [show c.cleanup.1.1 = .error (.misuse misuse) from congrArg Prod.fst hdone] at hn
    cases hn
  · have hresult : c.cleanup.1.1 = .ok c.store.cleanup.1 := congrArg Prod.fst hdone
    have hafter : c.cleanup.1.2 = { c with store := c.store.cleanup.2 } := congrArg Prod.snd hdone
    have husable : c.looksAtAny = true → c.Usable := (guarded_eq_ok hresult).2
    have hafterLooks {key : Text} : looksAt { c with store := c.store.cleanup.2 } key = true →
        c.looksAtAny = true := fun hlooks => looksAtAny_cleanup (looksAtAny_of_looksAt hlooks)
    refine ⟨?_, fun key => ?_, fun key => ?_, fun n hn => ?_⟩
    · rw [hafter]
      refine guarded_fst_congr (Store.liveEntries_cleanup c.store) (c.usable_or_eq husable ?_ ?_)
      · exact fun hneeded => looksAtAny_cleanup (Bool.and_eq_true_iff.1 hneeded).2
      · exact fun hneeded => (Bool.and_eq_true_iff.1 hneeded).2
    · rw [hafter]
      exact guarded_fst_congr (Store.has_cleanup h henabled key)
        (c.usable_or_eq husable hafterLooks looksAtAny_of_looksAt)
    · rw [hafter]
      exact guarded_fst_congr (Store.get_cleanup h henabled key)
        (c.usable_or_eq husable hafterLooks looksAtAny_of_looksAt)
    · rw [hresult] at hn
      cases hn
      refine ⟨_, (entries_eq_ok_iff henabled).2 ⟨rfl, husable⟩, ?_, ?_, ?_⟩
      · rw [Store.cleanup_fst henabled]
        exact Nat.sub_add_cancel (Store.length_liveEntries_le henabled)
      · rw [hafter, ← Store.size_cleanup henabled]
      · rw [hafter]
        exact (guarded_eq_ok_iff _ _ _ _ _).2
          ⟨Store.cleanup_cleanup henabled, fun hany => husable (looksAtAny_cleanup hany)⟩

/-! ### All views -/

/-- **What is listed is what is read.**  Let an enabled cache be reached.  A key is reported exactly
if it is listed, and reading it gives the value it is listed with.  Asking changes nothing that is
listed and no count, and sweeping changes nothing that is listed, reported or given.  If the
lifetime can be used, then all of these and the statistics give a result. -/
theorem reached_views (h : Reached c) (henabled : c.store.enabled = true) :
    (∀ key, ((c.has key).1 = .ok true ↔
        ∃ listed, c.entries = .ok listed ∧ key ∈ listed.map Prod.fst) ∧
      (∀ value, (c.get key).1 = .ok (some value) ↔
        ∃ listed, c.entries = .ok listed ∧ (key, value) ∈ listed) ∧
      AsksOnly c key) ∧
    SweepsUnseen c ∧
    ((∃ l, lifetimeOf c.lifetime = .ok l) →
      (∀ key, (∃ reported, (c.has key).1 = .ok reported) ∧ ∃ given, (c.get key).1 = .ok given) ∧
      (∃ listed, c.entries = .ok listed) ∧ (∃ n, c.cleanup.1.1 = .ok n) ∧
      ∃ stats, c.stats = .ok stats) := by
  refine ⟨fun key => ?_, sweepsUnseen h.nodup henabled, fun ⟨l, hl⟩ => ?_⟩
  · exact ⟨has_eq_true_iff h.nodup henabled, fun _ => get_eq_some_iff h.nodup henabled,
      asksOnly h.nodup key⟩
  · exact ⟨fun key => ⟨guarded_gives hl c _ _, guarded_gives hl c _ _⟩, guarded_gives hl c _ _,
      guarded_gives hl c _ _, by rw [stats, hl]; exact ⟨_, rfl⟩⟩

/-- Entries of two versions, one of which is too old, under settings that have been changed. -/
def aging : Cache :=
  let c := (create (.int 3) (.int 1000) (.bool true)).actAll
    [.op (.set ['a'] ['1']), .op (.advance (.int 80)), .op (.set ['b'] ['2']),
      .setVersion ['v'], .op (.set ['c'] ['3']), .setVersion "default".toList]
  (c.configure (.int 4) (.int 50) (.bool true)).act (.op (.set ['d'] ['4']))

theorem reached_actAll (h : Reached c) (actions : List Action) : Reached (c.actAll actions) := by
  induction actions generalizing c with
  | nil => exact h
  | cons action rest ih => exact ih (h.act action)

theorem reached_views_aging :
    Reached aging ∧ aging.store.enabled = true ∧
      aging.store.stored = [['a'], ['b'], ['c'], ['d']] ∧
      aging.store.liveEntries = [(['b'], ['2']), (['d'], ['4'])] ∧
      (aging.get ['b']).1 = .ok (some ['2']) ∧ aging.cleanup.1.1 = .ok 2 ∧ SweepsUnseen aging := by
  have hreached : Reached aging := by
    rw [aging]
    exact .act (.configure (reached_actAll (.create _ _ _ _) _) _ _ _) _
  have henabled : aging.store.enabled = true := rfl
  obtain ⟨-, hsweeps, -⟩ := reached_views hreached henabled
  exact ⟨hreached, henabled, by decide +kernel, by decide +kernel, rfl, rfl, hsweeps⟩

end UtilityCss.Cache

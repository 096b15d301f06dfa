import UtilityCss.Proofs.Cache.Freshness

/-!
# Caches — settings stay as they are

The settings of a cache are changed only when they are set anew.  An action leaves them as they are
written and as the store takes them, whether it fails or not (`sameSettings_act`).
-/

namespace UtilityCss.Cache

/-- The settings of one cache are those of the other, as they are written and in the store. -/
structure SameSettings (c c' : Cache) : Prop where
  maxSize : c'.maxSize = c.maxSize
  lifetime : c'.lifetime = c.lifetime
  storeCapacity : c'.store.capacity = c.store.capacity
  storeLifetime : c'.store.lifetime = c.store.lifetime
  storeEnabled : c'.store.enabled = c.store.enabled

theorem SameSettings.refl (c : Cache) : SameSettings c c :=
  ⟨rfl, rfl, rfl, rfl, rfl⟩

/-- Settings that are kept twice are kept. -/
theorem SameSettings.trans {c c' c'' : Cache} (h : SameSettings c c') (h' : SameSettings c' c'') :
    SameSettings c c'' :=
  ⟨h'.maxSize.trans h.maxSize, h'.lifetime.trans h.lifetime,
    h'.storeCapacity.trans h.storeCapacity, h'.storeLifetime.trans h.storeLifetime,
    h'.storeEnabled.trans h.storeEnabled⟩

/-- To drop entries and to count leaves the settings as they are. -/
theorem Shrinks.sameSettings {c c' : Cache} (h : c.Shrinks c') : SameSettings c c' := by
  obtain ⟨s, rfl, entries, hits, misses, rfl, -⟩ := h
  exact ⟨rfl, rfl, rfl, rfl, rfl⟩

theorem sameSettings_get (c : Cache) (key : Text) : SameSettings c (c.get key).2 := by
  have hshrinks : c.Shrinks (c.get key).2 := shrinks_guarded c _ _ (c.store.shrinks_get key)
  exact hshrinks.sameSettings

theorem sameSettings_has (c : Cache) (key : Text) : SameSettings c (c.has key).2 := by
  have hshrinks : c.Shrinks (c.has key).2 := shrinks_guarded c _ _ (c.store.shrinks_has key)
  exact hshrinks.sameSettings

/-- To remove what is too old leaves the settings as they are. -/
theorem sameSettings_cleanup (c : Cache) : SameSettings c c.cleanup.1.2 := by
  have hshrinks : c.Shrinks c.cleanup.1.2 := shrinks_guarded c _ _ c.store.shrinks_cleanup
  exact hshrinks.sameSettings

/-- To store a value leaves the settings as they are, also where the value is not stored since a
setting is of the wrong type. -/
theorem sameSettings_set (c : Cache) (key value : Text) :
    SameSettings c (c.set key value).1.2 := by
  rw [Cache.set]
  rcases guarded_cases c c.store.enabled (capacityOf c.maxSize)
    (fun _ => ((), c.store.set key value)) with ⟨misuse, -, -, hset⟩ | hset <;> rw [hset]
  · exact .refl c
  · obtain ⟨entries, hstore⟩ := c.store.set_settings key value
    rw [hstore]
    exact ⟨rfl, rfl, rfl, rfl, rfl⟩

/-- To store values one after the other leaves the settings as they are. -/
theorem sameSettings_setMany (c : Cache) (entries : List (Text × Text)) :
    SameSettings c (c.setMany entries).2 :=
  setMany_keeps (fun c' key value h => h.trans (sameSettings_set c' key value)) (.refl c) entries

/-- **An action** leaves the settings as they are. -/
theorem sameSettings_act (c : Cache) (action : Action) : SameSettings c (c.act action) := by
  cases action with
  | op op =>
      cases op with
      | set key value => exact sameSettings_set c key value
      | setMany entries => exact sameSettings_setMany c entries
      | get key => exact sameSettings_get c key
      | getMany keys => exact (shrinks_getMany c keys []).sameSettings
      | has key => exact sameSettings_has c key
      | advance milliseconds => exact ⟨rfl, rfl, rfl, rfl, rfl⟩
  | atTime now => exact ⟨rfl, rfl, rfl, rfl, rfl⟩
  | delete key => exact ⟨rfl, rfl, rfl, rfl, rfl⟩
  | clear => exact ⟨rfl, rfl, rfl, rfl, rfl⟩
  | setVersion version => exact ⟨rfl, rfl, rfl, rfl, rfl⟩
  | clearWithVersion version => exact ⟨rfl, rfl, rfl, rfl, rfl⟩
  | cleanup => exact sameSettings_cleanup c

end UtilityCss.Cache

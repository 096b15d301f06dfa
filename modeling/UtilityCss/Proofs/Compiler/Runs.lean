import UtilityCss.Proofs.Cache.Settings
import UtilityCss.Proofs.Compiler.Transparency

/-!
# Compilers — what a run leaves as it is

Compiling a class string changes what the registry has learned and what the cache keeps, and nothing
else (`sameInputs_compileString`).  Whatever operations a compiler is put to, failing ones among
them, its registry stays valid (`valid_run`), so what it answers for a utility does not depend on
what has been compiled before; and the settings of its cache stay as they are written
(`sameSettings_run`).
-/

namespace UtilityCss

namespace Compiler

variable {c after : Compiler} {raw : Text} {effects : Effects}

/-- The compiler after a class string has been read from its cache. -/
def afterRead (c : Compiler) (raw : Text) : Compiler :=
  { c with cache := { c.cache with store := (c.cache.store.get raw).2 } }

theorem sameInputs_afterRead (c : Compiler) (raw : Text) : SameInputs c (c.afterRead raw) :=
  ⟨rfl, rfl, rfl, rfl, rfl⟩

/-- Keeping a style sheet changes nothing but the cache, and lists no other class string there. -/
theorem keep_cases (c : Compiler) (raw css : Text) :
    ∃ cache log, (c.keep raw css).2 = ({ c with cache }, .logged log) ∧
      ∀ k ∈ cache.store.keys, k ∈ c.cache.store.keys ∨ k = raw := by
  rw [keep]
  split
  · exact ⟨c.cache, [], rfl, fun _ => .inl⟩
  · rw [Cache.set]
    rcases Cache.guarded_cases c.cache c.cache.store.enabled (Cache.capacityOf c.cache.maxSize)
      (fun _ => ((), c.cache.store.set raw css)) with ⟨misuse, -, -, hset⟩ | hset <;> rw [hset]
    · exact ⟨_, _, rfl, fun _ => .inl⟩
    · exact ⟨_, _, rfl, fun _ => Cache.Store.mem_keys_set⟩

/-- Keeping a style sheet leaves the settings of the cache as they are. -/
theorem sameSettings_keep (c : Compiler) (raw css : Text) :
    c.cache.SameSettings (c.keep raw css).2.1.cache := by
  rw [keep]
  split
  · exact .refl c.cache
  · exact c.cache.sameSettings_set raw css

variable [Platform]

/-- A class string that comes to a piece is served from the cache, or missed there and compiled
anew. -/
theorem compileString_eq_ok {piece : Piece}
    (hstep : c.compileString raw = (.ok piece, after, effects)) :
    (∃ css, (c.cache.store.get raw).1 = some css ∧ piece = { css } ∧ after = c.afterRead raw ∧
      effects = .event (.cacheHit raw)) ∨
    ((c.cache.store.get raw).1 = none ∧ ∃ later,
      (c.afterRead raw).compileAnew raw = (.ok piece, after, later) ∧
      effects = .event (.cacheMiss raw) ++ later) := by
  rw [compileString, Cache.get] at hstep
  rcases Cache.guarded_cases c.cache (c.cache.looksAt raw) (Cache.lifetimeOf c.cache.lifetime)
    (fun _ => c.cache.store.get raw) with ⟨misuse, -, -, hget⟩ | hget
  · simp only [hget] at hstep
    cases hstep
  · rw [hget] at hstep
    cases hvalue : (c.cache.store.get raw).1 with
    | some css =>
        simp only [hvalue] at hstep
        cases hstep
        exact .inl ⟨css, rfl, rfl, rfl, rfl⟩
    | none =>
        simp only [hvalue] at hstep
        obtain ⟨hpiece, hrest⟩ := Prod.mk.inj hstep
        obtain ⟨rfl, rfl⟩ := Prod.mk.inj hrest
        exact .inr ⟨rfl, _, Prod.ext hpiece rfl, rfl⟩

/-- Class strings that come to pieces come to them one after the other. -/
theorem compileStrings_cons_eq_ok {rest : List Text} {pieces : List Piece}
    (hstep : c.compileStrings (raw :: rest) = (.ok pieces, after, effects)) :
    ∃ piece next first later last, c.compileString raw = (.ok piece, next, first) ∧
      next.compileStrings rest = (.ok later, after, last) ∧ pieces = piece :: later ∧
      effects = first ++ last := by
  rw [compileStrings] at hstep
  split at hstep
  · cases hstep
  next piece next first hfirst =>
      obtain ⟨hresult, hrest⟩ := Prod.mk.inj hstep
      obtain ⟨rfl, rfl⟩ := Prod.mk.inj hrest
      obtain ⟨later, hlater, rfl⟩ := exists_of_map_eq_ok hresult
      exact ⟨piece, next, first, later, _, hfirst, Prod.ext hlater rfl, rfl, rfl⟩

/-- Compiling a class string changes nothing but what is learned and kept. -/
theorem sameInputs_compileString (h : c.registry.Valid) (raw : Text) :
    SameInputs c (c.compileString raw).2.1 ∧ (c.compileString raw).2.1.registry.Valid := by
  rw [compileString]
  split
  · exact ⟨⟨rfl, rfl, rfl, rfl, rfl⟩, h⟩
  · exact ⟨⟨rfl, rfl, rfl, rfl, rfl⟩, h⟩
  next cache hget =>
      obtain ⟨registry, effects, hrules, hvalid, ⟨failure, -, hnew⟩ | ⟨piece, -, hnew⟩⟩ :=
        compileAnew_cases (c := { c with cache }) h raw
      · simp only [hnew]
        exact ⟨⟨rfl, rfl, rfl, rfl, hrules⟩, hvalid⟩
      · obtain ⟨cache', log, hkeep, -⟩ := keep_cases { c with cache, registry } raw piece.css
        simp only [hnew, hkeep]
        exact ⟨⟨rfl, rfl, rfl, rfl, hrules⟩, hvalid⟩

theorem valid_compileStrings (h : c.registry.Valid) (raws : List Text) :
    (c.compileStrings raws).2.1.registry.Valid := by
  induction raws generalizing c with
  | nil => exact h
  | cons raw rest ih =>
      obtain ⟨-, hvalid⟩ := sameInputs_compileString h raw
      rw [compileStrings]
      split
      next failure after effects hstep => rwa [hstep] at hvalid
      next piece after effects hstep =>
          rw [hstep] at hvalid
          exact ih hvalid

/-- Compiling a class string leaves the settings of the cache as they are. -/
theorem sameSettings_compileString (h : c.registry.Valid) (raw : Text) :
    c.cache.SameSettings (c.compileString raw).2.1.cache := by
  have hread := c.cache.sameSettings_get raw
  rw [compileString]
  split
  next failure cache hget => rwa [hget] at hread
  next css cache hget => rwa [hget] at hread
  next cache hget =>
      rw [hget] at hread
      obtain ⟨registry, effects, -, -, ⟨failure, -, hnew⟩ | ⟨piece, -, hnew⟩⟩ :=
        compileAnew_cases (c := { c with cache }) h raw
      · simp only [hnew]
        exact hread
      · simp only [hnew]
        exact hread.trans (sameSettings_keep { c with cache, registry } raw piece.css)

theorem sameSettings_compileStrings (h : c.registry.Valid) (raws : List Text) :
    c.cache.SameSettings (c.compileStrings raws).2.1.cache := by
  induction raws generalizing c with
  | nil => exact .refl c.cache
  | cons raw rest ih =>
      obtain ⟨-, hvalid⟩ := sameInputs_compileString h raw
      have hfirst := sameSettings_compileString h raw
      rw [compileStrings]
      split
      next failure after effects hstep => rwa [hstep] at hfirst
      next piece after effects hstep =>
          rw [hstep] at hvalid hfirst
          exact hfirst.trans (ih hvalid)

/-- **Compiling** leaves the settings of the cache as they are. -/
theorem sameSettings_compile (h : c.registry.Valid) (classes : List Text) :
    c.cache.SameSettings (c.compile classes).2.1.cache := by
  have hstrings := sameSettings_compileStrings h (c.selected classes)
  rw [compile]
  dsimp only
  split
  next failure after effects hstep => rwa [hstep] at hstrings
  next pieces after effects hstep => rwa [hstep] at hstrings

/-- **One operation** keeps the registry valid. -/
theorem valid_perform (h : c.registry.Valid) (op : Op) : (c.perform op).registry.Valid := by
  cases op with
  | compile classes =>
      have hvalid := valid_compileStrings h (c.selected classes)
      rw [perform, compile]
      dsimp only
      split
      next failure after effects hstep => rwa [hstep] at hvalid
      next pieces after effects hstep => rwa [hstep] at hvalid
  | resolve text =>
      rcases resolve_cases h text with ⟨failure, effects, -, hr⟩ |
          ⟨tokens, registry, effects, -, hr, -, hvalid⟩
      · rw [perform, hr]
        exact h
      · rw [perform, hr]
        exact hvalid
  | addRule rule =>
      have hvalid := (h.add rule).2.2
      rw [perform, addRule]
      split
      next failure registry log hadd => rwa [hadd] at hvalid
      next compiled registry log hadd => rwa [hadd] at hvalid
  | addRules rules => exact (h.addAll rules).2.2
  | removeRule name =>
      have hvalid := (h.remove name).2.2
      rw [perform, removeRule]
      dsimp only
      split <;> exact hvalid
  | setTheme theme eager => cases eager <;> exact h
  | reset => exact h.clear.2.2
  | clearCache | cleanup | atTime => exact h

/-- **A run of operations** keeps the registry valid. -/
theorem valid_run (h : c.registry.Valid) (ops : List Op) : (c.run ops).registry.Valid := by
  induction ops generalizing c with
  | nil => exact h
  | cons op ops ih => exact ih (valid_perform h op)

/-- **One operation** leaves the settings of the cache as they are. -/
theorem sameSettings_perform (h : c.registry.Valid) (op : Op) :
    c.cache.SameSettings (c.perform op).cache := by
  cases op with
  | compile classes => exact sameSettings_compile h classes
  | resolve text =>
      rcases resolve_cases h text with ⟨failure, effects, -, hr⟩ |
          ⟨tokens, registry, effects, -, hr, -⟩
      · rw [perform, hr]
        exact .refl c.cache
      · rw [perform, hr]
        exact .refl c.cache
  | addRule rule =>
      rw [perform, addRule]
      split <;> exact ⟨rfl, rfl, rfl, rfl, rfl⟩
  | addRules rules => exact ⟨rfl, rfl, rfl, rfl, rfl⟩
  | removeRule name =>
      rw [perform, removeRule]
      dsimp only
      split <;> exact ⟨rfl, rfl, rfl, rfl, rfl⟩
  | setTheme theme eager => cases eager <;> exact ⟨rfl, rfl, rfl, rfl, rfl⟩
  | cleanup => exact c.cache.sameSettings_cleanup
  | reset | clearCache | atTime => exact ⟨rfl, rfl, rfl, rfl, rfl⟩

/-- **A run of operations** leaves the settings of the cache as they are. -/
theorem sameSettings_run (h : c.registry.Valid) (ops : List Op) :
    c.cache.SameSettings (c.run ops).cache := by
  induction ops generalizing c with
  | nil => exact .refl c.cache
  | cons op ops ih => exact (sameSettings_perform h op).trans (ih (valid_perform h op))

theorem valid_of_create {config : Config} {renderer : Renderer} {theme : Theme}
    {rules : List Rule} {log : Log} (h : create config renderer theme rules = (.ok c, log)) :
    c.registry.Valid := by
  have htheme : theme ∈ [theme] := List.mem_singleton_self theme
  obtain ⟨hcoherent, -⟩ := coherent_of_create h htheme
  exact hcoherent.registry

end Compiler

end UtilityCss

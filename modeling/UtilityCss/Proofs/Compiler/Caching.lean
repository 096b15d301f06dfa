import Mathlib.Data.List.Forall2
import UtilityCss.Proofs.Cache.Operations
import UtilityCss.Proofs.Compiler.Sheet
import UtilityCss.Proofs.Compiler.Version

/-!
# Compilers — what is kept in the cache

An entry of the cache is the style sheet of its class string, under a theme and rules that may no
longer be the current ones; the version that it bears says which.  `Coherent` states this of every
entry: it bears the stamp of a theme that has been in use and of a count of changes that has been
reached, and if the rules have not changed since, its value is the style sheet under that theme and
the present rules.

A live entry bears the current version, so its value is the current style sheet
(`Coherent.value_of_isLive`), and compiling gives the same with it as without
(`Coherent.compile`).  What is written is stamped with what it was rendered under, so compiling
keeps a compiler coherent, whether it fails or not.
-/

namespace UtilityCss.Compiler

/-! ### Coherent compilers -/

/-- Themes that differ have different marks. -/
def MarksDistinct (themes : List Theme) : Prop :=
  ∀ theme ∈ themes, ∀ theme' ∈ themes, theme.mark = theme'.mark → theme = theme'

theorem exists_of_map_eq_ok {α β : Type} {f : α → β} {result : Outcome α} {b : β}
    (h : result.map f = .ok b) : ∃ a, result = .ok a ∧ f a = b := by
  cases result with
  | error failure => cases h
  | ok a => exact ⟨a, rfl, Except.ok.inj h⟩

variable [Platform]

/-- An entry of a class string bears the stamp of a theme and of a count of changes; if that is the
present count, its value is the style sheet under the theme and the present rules. -/
def Genuine (themes : List Theme) (c : Compiler) (raw : Text) (e : Cache.Entry) : Prop :=
  ∃ theme ∈ themes, ∃ generation, generation ≤ c.generation ∧ e.version = stamp theme generation ∧
    (generation = c.generation →
      sheet c.config c.renderer theme c.registry.rules raw = .ok e.value)

/-- The registry is valid, the theme is one of those given, the version of the cache is the current
one, and every entry of the cache is genuine. -/
structure Coherent (themes : List Theme) (c : Compiler) : Prop where
  registry : c.registry.Valid
  theme : c.theme ∈ themes
  version : c.cache.store.version = c.version
  entries : ∀ raw e, (raw, e) ∈ c.cache.store.entries → Genuine themes c raw e

variable {themes : List Theme} {c : Compiler}

/-- A live entry holds the style sheet of its class string. -/
theorem Coherent.value_of_isLive (h : Coherent themes c) (hmarks : MarksDistinct themes)
    {raw : Text} {e : Cache.Entry} (he : (raw, e) ∈ c.cache.store.entries)
    (hlive : c.cache.store.isLive e = true) : c.sheetOf raw = .ok e.value := by
  obtain ⟨theme, htheme, generation, -, hstamp, hsheet⟩ := h.entries raw e he
  rw [Cache.Store.version_of_isLive hlive, h.version, version_eq_stamp] at hstamp
  obtain ⟨hmark, hgeneration⟩ := stamp_inj hstamp
  obtain rfl := hmarks _ h.theme _ htheme hmark
  exact hsheet hgeneration.symm

/-- A registry of the same rules may take the place of the registry. -/
theorem Coherent.withRegistry (h : Coherent themes c) {registry : Registry}
    (hrules : registry.rules = c.registry.rules) (hvalid : registry.Valid) :
    Coherent themes { c with registry } where
  registry := hvalid
  theme := h.theme
  version := h.version
  entries raw e he := by
    rw [Genuine, hrules]
    exact h.entries raw e he

/-- A cache of the same version whose new entries are genuine may take the place of the cache. -/
theorem Coherent.withCache (h : Coherent themes c) {cache : Cache}
    (hversion : cache.store.version = c.cache.store.version)
    (hentries : ∀ raw e, (raw, e) ∈ cache.store.entries →
      (raw, e) ∈ c.cache.store.entries ∨ Genuine themes c raw e) :
    Coherent themes { c with cache } where
  registry := h.registry
  theme := h.theme
  version := hversion.trans h.version
  entries raw e he := (hentries raw e he).elim (h.entries raw e) id

/-- Bringing the version of the cache up to date makes a compiler coherent. -/
theorem coherent_markCache (hregistry : c.registry.Valid) (htheme : c.theme ∈ themes)
    (hentries : ∀ raw e, (raw, e) ∈ c.cache.store.entries → Genuine themes c raw e) :
    Coherent themes c.markCache.1 :=
  ⟨hregistry, htheme, rfl, hentries⟩

/-- After a change of the rules nothing is said of the entries but where they come from. -/
theorem Coherent.rulesChanged (h : Coherent themes c) {registry : Registry}
    (hvalid : registry.Valid) : Coherent themes { c with registry }.rulesChanged.1 := by
  refine coherent_markCache hvalid h.theme fun raw e he => ?_
  obtain ⟨theme, htheme, generation, hle, hstamp, -⟩ := h.entries raw e he
  exact ⟨theme, htheme, generation, Nat.le_succ_of_le hle, hstamp, fun heq => by
    change generation = c.generation + 1 at heq
    omega⟩

/-! ### Compiling -/

/-- Keeping the style sheet of a class string. -/
theorem Coherent.keep (h : Coherent themes c) {raw css : Text} (hsheet : c.sheetOf raw = .ok css) :
    Coherent themes (c.keep raw css).2.1 ∧ SameInputs c (c.keep raw css).2.1 := by
  rw [Compiler.keep]
  split
  · exact ⟨h, .refl c⟩
  · refine ⟨?_, rfl, rfl, rfl, rfl, rfl⟩
    rcases Cache.guarded_cases c.cache c.cache.store.enabled (Cache.capacityOf c.cache.maxSize)
      (fun _ => ((), c.cache.store.set raw css)) with ⟨misuse, -, -, hset⟩ | hset
    · simp only [Cache.set, hset]
      exact h
    · simp only [Cache.set, hset]
      refine h.withCache (Cache.Store.version_set _ raw css) fun raw' e he => ?_
      refine (Cache.Store.mem_set he).imp_right fun ⟨hraw, hentry⟩ => ?_
      subst hraw hentry
      exact ⟨c.theme, h.theme, c.generation, Nat.le_refl _, h.version, fun _ => hsheet⟩

/-- **One class string.**  Whether it is in the cache or not, what comes of it is its style sheet,
and the compiler stays coherent, also if it fails. -/
theorem Coherent.compileString (h : Coherent themes c) (hmarks : MarksDistinct themes)
    (raw : Text) :
    Coherent themes (c.compileString raw).2.1 ∧ SameInputs c (c.compileString raw).2.1 ∧
      ∀ piece, (c.compileString raw).1 = .ok piece → c.sheetOf raw = .ok piece.css := by
  rw [Compiler.compileString, Cache.get]
  rcases Cache.guarded_cases c.cache (c.cache.looksAt raw) (Cache.lifetimeOf c.cache.lifetime)
    (fun _ => c.cache.store.get raw) with ⟨misuse, -, -, hget⟩ | hget
  · simp only [hget]
    exact ⟨h, .refl c, nofun⟩
  · have hread : Coherent themes
        { c with cache := { c.cache with store := (c.cache.store.get raw).2 } } :=
      h.withCache (Cache.Store.version_get _ raw) fun raw' e he => .inl (Cache.Store.mem_get he)
    rw [hget]
    cases hvalue : (c.cache.store.get raw).1 with
    | some css =>
        -- only a live entry is given, and it bears the current version
        obtain ⟨e, he, hlive, rfl⟩ := Cache.Store.live_of_get_eq_some hvalue
        refine ⟨hread, ⟨rfl, rfl, rfl, rfl, rfl⟩, fun piece hpiece => ?_⟩
        cases hpiece
        exact h.value_of_isLive hmarks he hlive
    | none =>
        -- the rules stay as they are, so what is kept is stamped with what it was rendered under
        obtain ⟨registry, effects, hrules, hvalid,
            ⟨failure, hsheet, hnew⟩ | ⟨piece, hsheet, hnew⟩⟩ := compileAnew_cases hread.registry raw
        · simp only [hnew]
          exact ⟨hread.withRegistry hrules hvalid, ⟨rfl, rfl, rfl, rfl, hrules⟩, nofun⟩
        · have hlearned := hread.withRegistry hrules hvalid
          have hsame : SameInputs c
              { c with cache := { c.cache with store := (c.cache.store.get raw).2 }, registry } :=
            ⟨rfl, rfl, rfl, rfl, hrules⟩
          obtain ⟨hkept, hsame'⟩ := hlearned.keep ((hsame.sheetOf raw).trans hsheet)
          simp only [hnew]
          refine ⟨hkept, hsame.trans hsame', fun piece' hpiece => ?_⟩
          obtain ⟨-, -, rfl⟩ := exists_of_map_eq_ok hpiece
          exact hsheet

/-- **Class strings** one after the other. -/
theorem Coherent.compileStrings (h : Coherent themes c) (hmarks : MarksDistinct themes)
    (raws : List Text) :
    Coherent themes (c.compileStrings raws).2.1 ∧ SameInputs c (c.compileStrings raws).2.1 ∧
      ∀ pieces, (c.compileStrings raws).1 = .ok pieces →
        List.Forall₂ (fun raw css => c.sheetOf raw = .ok css) raws (pieces.map (·.css)) := by
  induction raws generalizing c with
  | nil =>
      refine ⟨h, .refl c, fun pieces hpieces => ?_⟩
      cases hpieces
      exact .nil
  | cons raw rest ih =>
      obtain ⟨hcoherent, hsame, hpiece⟩ := h.compileString hmarks raw
      rw [Compiler.compileStrings]
      cases hstep : c.compileString raw with
      | mk result after =>
          rw [hstep] at hcoherent hsame hpiece
          cases result with
          | error failure => exact ⟨hcoherent, hsame, nofun⟩
          | ok piece =>
              obtain ⟨hcoherent', hsame', hpieces⟩ := ih hcoherent
              refine ⟨hcoherent', hsame.trans hsame', fun pieces h => ?_⟩
              obtain ⟨later, hlater, rfl⟩ := exists_of_map_eq_ok h
              exact .cons (hpiece piece rfl)
                ((hpieces later hlater).imp fun raw css hcss => by rwa [hsame.sheetOf] at hcss)

/-- **Compiling.**  The style sheet is put together from those of the class strings. -/
theorem Coherent.compile (h : Coherent themes c) (hmarks : MarksDistinct themes)
    (classes : List Text) :
    Coherent themes (c.compile classes).2.1 ∧ SameInputs c (c.compile classes).2.1 ∧
      ∀ result, (c.compile classes).1 = .ok result → ∃ pieces, result = assemble pieces ∧
        List.Forall₂ (fun raw css => c.sheetOf raw = .ok css) (c.selected classes)
          (pieces.map (·.css)) := by
  obtain ⟨hcoherent, hsame, hpieces⟩ := h.compileStrings hmarks (c.selected classes)
  unfold Compiler.compile
  cases hstep : c.compileStrings (c.selected classes) with
  | mk result after =>
      rw [hstep] at hcoherent hsame hpieces
      simp only [hstep]
      cases result with
      | error failure => exact ⟨hcoherent, hsame, nofun⟩
      | ok pieces =>
          refine ⟨hcoherent, hsame, fun result hresult => ⟨pieces, ?_, hpieces pieces rfl⟩⟩
          exact (Except.ok.inj hresult).symm

end UtilityCss.Compiler

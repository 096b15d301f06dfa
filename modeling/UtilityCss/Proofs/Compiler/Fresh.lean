import UtilityCss.Proofs.Compiler.Accounting

/-!
# Compilers — the first compilation

The cache keeps style sheets and no findings, so a class string that is served from it is not looked
through again.  A compiler that has just been created has an empty cache.  A compilation compiles
every class string once, and what it keeps in the cache is listed under that class string, so none
is served in the first compilation, whatever the settings of the cache are.

**The first compilation** (`unresolved_of_unlisted`).  Where the cache lists none of the class
strings, the tokens that are given as unresolved are the tokens of the class strings that no rule
claims, in order.
-/

namespace UtilityCss.Compiler

variable {c c' after : Compiler} {raw token : Text} {effects : Effects}

/-! ### Tokens that no rule claims -/

/-- The tokens of a class string that no rule claims, in order. -/
def unclaimed (c : Compiler) (raw : Text) : List Text :=
  match (c.config.tokens raw).1 with
  | .ok tokens =>
    (tokens.filter fun t => (c.registry.claim t.utility).1.isNone).map (·.original)
  | .error _ => []

theorem mem_unclaimed : token ∈ c.unclaimed raw ↔ c.Unclaimed raw token := by
  rw [unclaimed, Unclaimed]
  cases (c.config.tokens raw).1 with
  | error failure => simp
  | ok tokens => simp [and_assoc]

variable [Platform]

theorem SameInputs.unclaimed (hsame : SameInputs c c') (h : c.registry.Valid)
    (h' : c'.registry.Valid) (raw : Text) : c'.unclaimed raw = c.unclaimed raw := by
  simp only [Compiler.unclaimed, hsame.config, hsame.claim_fst h h']

/-- What tokens come to has been reported of those without a claim. -/
theorem unclaimed_of_yields {renderer : Renderer} {theme : Theme} {items : List ResolvedToken}
    {yields : List Yield} (h : List.Forall₂ (Yields renderer theme) items yields) :
    Effects.unclaimed ⟨yields.flatMap Yield.events, []⟩ =
      (items.filter (·.claim.isNone)).map (·.token.original) := by
  induction h with
  | nil => rfl
  | @cons item yield items yields hyield hyields ih =>
      have hsplit : Effects.unclaimed ⟨(yield :: yields).flatMap Yield.events, []⟩ =
          Effects.unclaimed ⟨yield.events, []⟩ ++
            Effects.unclaimed ⟨yields.flatMap Yield.events, []⟩ :=
        List.filterMap_append
      rw [hsplit, ih]
      cases hyield <;> rfl

/-! ### One class string -/

/-- A class string that the cache does not list is resolved. -/
theorem compileString_of_unlisted (h : c.registry.Valid) (hnew : raw ∉ c.cache.store.keys)
    {piece : Piece} (hstep : c.compileString raw = (.ok piece, after, effects)) :
    ∃ items yields, (c.resolve raw).1 = .ok items ∧
      List.Forall₂ (Yields c.renderer c.theme) items yields ∧
      piece = (Line.miss raw items yields).piece := by
  obtain ⟨css, hvalue, -⟩ | ⟨-, later, hanew, -⟩ := compileString_eq_ok hstep
  · exact absurd (Cache.Store.mem_keys_of_get_eq_some hvalue) hnew
  · obtain ⟨items, yields, hitems, hyields, hpiece, -⟩ :=
      compileAnew_accounted (c := c.afterRead raw) h hanew
    rw [(sameInputs_afterRead c raw).resolve_fst h h] at hitems
    exact ⟨items, yields, hitems, hyields, hpiece⟩

/-- The tokens of a class string that have no claim are those that no rule claims. -/
theorem unclaimed_of_resolve (h : c.registry.Valid) {items : List ResolvedToken}
    (hitems : (c.resolve raw).1 = .ok items) :
    (items.filter (·.claim.isNone)).map (·.token.original) = c.unclaimed raw := by
  rcases resolve_cases h raw with ⟨failure, effects, -, hr⟩ |
      ⟨tokens, registry, effects, ht, hr, -⟩ <;> rw [hr] at hitems <;> cases hitems
  have hclaim : ∀ utility, (c.registry.claim utility).1 =
      Registry.choose c.registry.rules utility := fun utility => (h.claim utility).1
  simp only [unclaimed, ht, hclaim, resolved, List.filter_map, List.map_map]
  rfl

/-- **One class string** that the cache does not list is found to have the tokens that no rule
claims. -/
theorem unresolved_compileString (h : c.registry.Valid) (hnew : raw ∉ c.cache.store.keys)
    {piece : Piece} (hstep : c.compileString raw = (.ok piece, after, effects)) :
    Compilation.unresolved ⟨[], piece.diagnostics, []⟩ = c.unclaimed raw := by
  obtain ⟨items, yields, hitems, hyields, rfl⟩ := compileString_of_unlisted h hnew hstep
  have hline : (Line.miss raw items yields).Holds c := ⟨hitems, hyields⟩
  have hannounced := hline.announced h
  calc Compilation.unresolved ⟨[], (Line.miss raw items yields).piece.diagnostics, []⟩
      = Effects.unclaimed ⟨yields.flatMap Yield.events, []⟩ := hannounced
    _ = (items.filter (·.claim.isNone)).map (·.token.original) := unclaimed_of_yields hyields
    _ = c.unclaimed raw := unclaimed_of_resolve h hitems

/-! ### The first compilation -/

/-- **Class strings** that the cache does not list, one after the other. -/
theorem unresolved_compileStrings (h : c.registry.Valid) {raws : List Text} (hnodup : raws.Nodup)
    (hnew : ∀ raw ∈ raws, raw ∉ c.cache.store.keys) {pieces : List Piece}
    (hstep : c.compileStrings raws = (.ok pieces, after, effects)) :
    Compilation.unresolved ⟨[], pieces.flatMap (·.diagnostics), []⟩ = raws.flatMap c.unclaimed := by
  induction raws generalizing c pieces effects with
  | nil =>
      cases hstep
      rfl
  | cons raw rest ih =>
      obtain ⟨hfirst, hrest⟩ := List.nodup_cons.1 hnodup
      obtain ⟨piece, next, first, later, last, hpiece, hlater, rfl, rfl⟩ :=
        compileStrings_cons_eq_ok hstep
      obtain ⟨hsame, hvalid⟩ := sameInputs_compileString h raw
      rw [hpiece] at hsame hvalid
      obtain ⟨-, hkeys⟩ := compileString_ok h hpiece
      -- the first class string is another one, so the cache still lists none of the rest
      have hnew' : ∀ raw' ∈ rest, raw' ∉ next.cache.store.keys := by
        intro raw' hraw' hlisted
        rcases hkeys raw' hlisted with hold | rfl
        · exact hnew raw' (List.mem_cons_of_mem raw hraw') hold
        · exact hfirst hraw'
      have hone := unresolved_compileString h (hnew raw List.mem_cons_self) hpiece
      have hothers := ih hvalid hrest hnew' hlater
      have hunclaimed : next.unclaimed = c.unclaimed := funext (hsame.unclaimed h hvalid)
      rw [hunclaimed] at hothers
      rw [List.flatMap_cons, List.flatMap_cons, ← hone, ← hothers]
      exact List.filterMap_append

/-- **The first compilation.**  Where the cache lists none of the class strings, the unresolved
tokens are those of the class strings that no rule claims, each class string once and none that is
blocked. -/
theorem unresolved_of_unlisted (h : c.registry.Valid) {classes : List Text}
    (hnew : ∀ raw ∈ classes, raw ∉ c.cache.store.keys) {result : Compilation}
    (hresult : c.compile classes = (.ok result, after, effects)) :
    result.unresolved =
      (classes.eraseDups.filter fun raw => ¬ c.Blocked raw).flatMap c.unclaimed := by
  unfold compile at hresult
  dsimp only at hresult
  split at hresult
  · cases hresult
  next pieces next effects' hpieces =>
      cases hresult
      rw [← selected_eq]
      exact unresolved_compileStrings h (c.nodup_selected classes)
        (fun raw hraw => hnew raw (mem_selected.1 hraw).1) hpieces

/-- A compiler that has just been created has an empty cache, with the settings that are given. -/
theorem cache_of_create {config : Config} {renderer : Renderer} {theme : Theme} {rules : List Rule}
    {log : Log} (hcreate : create config renderer theme rules = (.ok c, log)) :
    c.cache.store.keys = [] ∧
      (Cache.create config.cache.maxSize config.cache.lifetime config.cache.enabled).SameSettings
        c.cache := by
  rw [create] at hcreate
  dsimp only at hcreate
  split at hcreate
  · cases hcreate
  · cases hcreate
    exact ⟨by simp [Cache.Store.keys, Cache.Store.liveEntries, markCache, Cache.setVersion,
      Cache.Store.setVersion, Cache.create], rfl, rfl, rfl, rfl, rfl⟩

end UtilityCss.Compiler

import UtilityCss.Proofs.Compiler.Runs

/-!
# Compilers — what is reported of tokens that no rule claims

A token that no rule claims makes no rule of the style sheet; a warning bears its text.  The cache
keeps style sheets and no warnings, so a class string that is served from the cache is not warned of
again: with a token that is claimed beside one that is not, the first compilation warns and the
second does not (`not_always_reported`).

**Reports** (`reports_run_iff`).  The tokens that a compilation warns of are exactly those that no
rule claims in the class strings that it has missed in the cache; and a class string that the cache
does not list is missed.

A compilation is looked at one class string after the other: `compileString_ok` says what becomes of
one, `compileStrings_ok` adds them up.  The registry is valid throughout (`valid_run`), so what it
answers for a utility does not depend on what has been compiled before.
-/

namespace UtilityCss

/-- The finding warns that no rule claims a token. -/
def Diagnostic.Warns (d : Diagnostic) (token : Text) : Prop :=
  d.code = "unresolved".toList ∧ d.severity = .warning ∧ d.token = some token

/-- The result warns that no rule claims a token. -/
def Compilation.Reports (result : Compilation) (token : Text) : Prop :=
  ∃ d ∈ result.diagnostics, d.Warns token

/-- The class strings that have been missed in the cache, in order. -/
def Effects.missed (effects : Effects) : List Text :=
  effects.events.filterMap fun
    | .cacheMiss raw => some raw
    | _ => none

@[simp] theorem Effects.missed_append (a b : Effects) : (a ++ b).missed = a.missed ++ b.missed :=
  List.filterMap_append

@[simp] theorem Effects.missed_logged (log : Log) : (logged log).missed = [] :=
  rfl

theorem Text.mem_distinct {items : List Text} {x : Text} :
    x ∈ Text.distinct items ↔ x ∈ items := by
  have hseen : ∀ seen : List Text,
      x ∈ items.foldl (fun seen x => if seen.contains x then seen else x :: seen) seen ↔
        x ∈ seen ∨ x ∈ items := by
    induction items with
    | nil => simp
    | cons item items ih =>
        intro seen
        rw [List.foldl_cons, ih]
        split
        next hold =>
            rw [List.contains_iff_mem] at hold
            grind
        next => grind
  rw [Text.distinct, List.mem_reverse, hseen]
  simp

namespace Compiler

/-- A class string has a token that no rule claims, with this text. -/
def Unclaimed (c : Compiler) (raw token : Text) : Prop :=
  ∃ tokens, (c.config.tokens raw).1 = .ok tokens ∧
    ∃ t ∈ tokens, (c.registry.claim t.utility).1 = none ∧ t.original = token

/-- A class string is left out. -/
def Blocked (c : Compiler) (raw : Text) : Prop :=
  c.config.blocklist.any (Json.sameKey (.string raw))

instance (c : Compiler) (raw token : Text) : Decidable (c.Unclaimed raw token) :=
  match h : (c.config.tokens raw).1 with
  | .error _ => .isFalse fun ⟨_, htokens, _⟩ => nomatch h.symm.trans htokens
  | .ok tokens =>
    decidable_of_iff
      (∃ t ∈ tokens, (c.registry.claim t.utility).1.isNone = true ∧ t.original = token)
      (by simp [Unclaimed, h])

instance (c : Compiler) (raw : Text) : Decidable (c.Blocked raw) :=
  inferInstanceAs (Decidable (_ = true))

variable {c c' after : Compiler} {raw token : Text} {effects : Effects}

theorem warns_unresolved (t : ClassToken) :
    (ResolvedToken.unresolved t).Warns token ↔ t.original = token :=
  ⟨fun ⟨_, _, htoken⟩ => Option.some.inj htoken, fun h => ⟨rfl, rfl, congrArg some h⟩⟩

theorem not_warns_empty (t : ClassToken) (rule : CompiledRule) :
    ¬ (ResolvedToken.empty t rule).Warns token := by
  rintro ⟨hcode, -⟩
  exact absurd (show "empty".toList = "unresolved".toList from hcode) (by decide)

theorem missed_resolve (c : Compiler) (text : Text) : (c.resolve text).2.2.missed = [] := by
  rw [resolve]
  split <;> rfl

theorem mem_selected {classes : List Text} :
    raw ∈ c.selected classes ↔ raw ∈ classes ∧ ¬ c.Blocked raw := by
  rw [selected, List.mem_filter, Text.mem_distinct, Blocked]
  simp

section

variable [Platform]

/-- What claims a utility depends on the rules alone. -/
theorem SameInputs.claim_fst (hsame : SameInputs c c') (h : c.registry.Valid)
    (h' : c'.registry.Valid) (utility : Text) :
    (c'.registry.claim utility).1 = (c.registry.claim utility).1 := by
  rw [(h'.claim utility).1, (h.claim utility).1, hsame.rules]

/-- What no rule claims depends on the configuration and the rules alone. -/
theorem SameInputs.unclaimed_iff (hsame : SameInputs c c') (h : c.registry.Valid)
    (h' : c'.registry.Valid) : c'.Unclaimed raw token ↔ c.Unclaimed raw token := by
  simp only [Unclaimed, hsame.config, hsame.claim_fst h h']

/-! ### Rendering -/

/-- Rendering a token warns of it if no rule claims it, and of nothing else. -/
theorem warns_render {renderer : Renderer} {theme : Theme} {item : ResolvedToken}
    {rendering : ResolvedToken.Rendering}
    (h : item.render renderer theme = (.ok rendering, effects)) :
    effects.missed = [] ∧ ∀ token,
      (∃ d ∈ ResolvedToken.findingsOf [rendering], d.Warns token) ↔
        item.claim = none ∧ item.token.original = token := by
  rw [ResolvedToken.render] at h
  cases hclaim : item.claim with
  | none =>
      simp only [hclaim] at h
      obtain ⟨hrendering, rfl⟩ := Prod.mk.inj h
      cases hrendering
      exact ⟨rfl, fun token => by simp [ResolvedToken.findingsOf, warns_unresolved]⟩
  | some found =>
      simp only [hclaim] at h
      obtain ⟨hrendering, rfl⟩ := Prod.mk.inj h
      obtain ⟨declarations, -, rfl⟩ := exists_of_map_eq_ok hrendering
      refine ⟨rfl, fun token => ?_⟩
      split <;> simp [ResolvedToken.findingsOf, not_warns_empty]

/-- **Rendering tokens** warns of those that no rule claims. -/
theorem warns_renderAll {renderer : Renderer} {theme : Theme} {items : List ResolvedToken}
    {renderings : List ResolvedToken.Rendering}
    (h : ResolvedToken.renderAll renderer theme items = (.ok renderings, effects)) :
    effects.missed = [] ∧ ∀ token,
      (∃ d ∈ ResolvedToken.findingsOf renderings, d.Warns token) ↔
        ∃ item ∈ items, item.claim = none ∧ item.token.original = token := by
  induction items generalizing renderings effects with
  | nil =>
      cases h
      exact ⟨rfl, fun token => by simp [ResolvedToken.findingsOf]⟩
  | cons item items ih =>
      rw [ResolvedToken.renderAll] at h
      split at h
      · cases h
      next rendering first hitem =>
          obtain ⟨hresult, rfl⟩ := Prod.mk.inj h
          obtain ⟨later, hlater, rfl⟩ := exists_of_map_eq_ok hresult
          obtain ⟨hquiet, hfirst⟩ := warns_render hitem
          obtain ⟨hquiet', hrest⟩ := ih (Prod.ext hlater rfl)
          have hsplit : ResolvedToken.findingsOf (rendering :: later) =
              ResolvedToken.findingsOf [rendering] ++ ResolvedToken.findingsOf later :=
            List.filterMap_append (l := [rendering])
          refine ⟨by rw [Effects.missed_append, hquiet, hquiet']; rfl, fun token => ?_⟩
          rw [hsplit, List.exists_mem_cons_iff, ← hfirst, ← hrest]
          simp only [List.mem_append, or_and_right, exists_or]

/-! ### One class string -/

/-- A class string that is compiled anew is warned of for its tokens that no rule claims. -/
theorem compileAnew_ok (h : c.registry.Valid) {piece : Piece}
    (hnew : c.compileAnew raw = (.ok piece, after, effects)) :
    effects.missed = [] ∧
      (∀ token, (∃ d ∈ piece.diagnostics, d.Warns token) ↔ c.Unclaimed raw token) ∧
      ∀ k ∈ after.cache.store.keys, k ∈ c.cache.store.keys ∨ k = raw := by
  have hquiet := missed_resolve c raw
  rw [compileAnew] at hnew
  rcases resolve_cases h raw with ⟨failure, effects', -, hr⟩ |
      ⟨tokens, registry, effects', ht, hr, -, -⟩
  · simp only [hr] at hnew
    cases hnew
  · simp only [hr] at hnew hquiet
    split at hnew
    · cases hnew
    next renderings more hrender =>
        obtain ⟨hquiet', hwarns⟩ := warns_renderAll hrender
        obtain ⟨cache, log, hkeep, hkeys⟩ := keep_cases { c with registry } raw
          (Text.join ['\n'] (ResolvedToken.cssOf renderings))
        simp only [hkeep] at hnew
        obtain ⟨hpiece, hrest⟩ := Prod.mk.inj hnew
        obtain ⟨rfl, rfl⟩ := Prod.mk.inj hrest
        obtain ⟨-, -, rfl⟩ := exists_of_map_eq_ok hpiece
        refine ⟨by simp [hquiet, hquiet'], fun token => ?_, hkeys⟩
        -- the registry is valid, so looking a token up has given what it gives at the start
        rw [hwarns, Unclaimed]
        simp [ht, resolved, (h.claim _).1]

/-- **One class string.**  If the cache lists it, it may be served without a finding; otherwise it
is missed, and then it is warned of for its tokens that no rule claims. -/
theorem compileString_ok (h : c.registry.Valid) {piece : Piece}
    (hstep : c.compileString raw = (.ok piece, after, effects)) :
    ((raw ∈ c.cache.store.keys ∧ effects.missed = [] ∧ piece.diagnostics = []) ∨
      (effects.missed = [raw] ∧
        ∀ token, (∃ d ∈ piece.diagnostics, d.Warns token) ↔ c.Unclaimed raw token)) ∧
    ∀ k ∈ after.cache.store.keys, k ∈ c.cache.store.keys ∨ k = raw := by
  have hkeys : ∀ k ∈ (c.cache.store.get raw).2.keys, k ∈ c.cache.store.keys := fun k =>
    (c.cache.store.shrinks_get raw).mem_keys
  obtain ⟨css, hvalue, rfl, rfl, rfl⟩ | ⟨-, later, hnew, rfl⟩ := compileString_eq_ok hstep
  · exact ⟨.inl ⟨Cache.Store.mem_keys_of_get_eq_some hvalue, rfl, rfl⟩, fun k hk =>
      .inl (hkeys k hk)⟩
  · obtain ⟨hquiet, hwarns, hkept⟩ := compileAnew_ok (c := c.afterRead raw) h hnew
    -- the read has dropped a dead entry at most, so it has listed no other key
    refine ⟨.inr ⟨?_, hwarns⟩, fun k hk => (hkept k hk).imp_left (hkeys k)⟩
    rw [Effects.missed_append, hquiet]
    rfl

/-! ### Class strings -/

/-- **Class strings** one after the other: the warnings are those of the class strings that have
been missed, and one that the cache does not list is missed. -/
theorem compileStrings_ok (h : c.registry.Valid) {raws : List Text} {pieces : List Piece}
    (hstep : c.compileStrings raws = (.ok pieces, after, effects)) :
    (∀ token, (∃ d ∈ pieces.flatMap (·.diagnostics), d.Warns token) ↔
      ∃ raw ∈ effects.missed, c.Unclaimed raw token) ∧
    effects.missed.Sublist raws ∧
    ∀ raw ∈ raws, raw ∉ c.cache.store.keys → raw ∈ effects.missed := by
  induction raws generalizing c pieces effects with
  | nil =>
      cases hstep
      exact ⟨fun token => by simp [Effects.missed], .slnil, nofun⟩
  | cons raw rest ih =>
      obtain ⟨piece, next, first, later, last, hfirst, hlater, rfl, rfl⟩ :=
        compileStrings_cons_eq_ok hstep
      obtain ⟨hsame, hvalid⟩ := sameInputs_compileString h raw
      rw [hfirst] at hsame hvalid
      obtain ⟨hcase, hkeys⟩ := compileString_ok h hfirst
      obtain ⟨hwarns, hsub, hmissed⟩ := ih hvalid hlater
      -- what no rule claims is still the same after the first class string
      simp only [hsame.unclaimed_iff h hvalid] at hwarns
      refine ⟨fun token => ?_, ?_, ?_⟩
      · rw [Effects.missed_append, List.flatMap_cons]
        simp only [List.mem_append, or_and_right, exists_or, hwarns]
        refine or_congr ?_ Iff.rfl
        rcases hcase with ⟨-, hquiet, hnone⟩ | ⟨hmiss, hfound⟩
        · simp [hquiet, hnone]
        · simp [hmiss, hfound]
      · rw [Effects.missed_append]
        rcases hcase with ⟨-, hquiet, -⟩ | ⟨hmiss, -⟩
        · rw [hquiet]
          exact hsub.cons raw
        · rw [hmiss]
          exact hsub.cons_cons raw
      · intro k hk hnew
        rw [Effects.missed_append]
        by_cases heq : k = raw
        · subst heq
          rcases hcase with ⟨hlisted, -⟩ | ⟨hmiss, -⟩
          · exact absurd hlisted hnew
          · simp [hmiss]
        · -- compiling this class string has not listed another one
          have hrest := (List.mem_cons.1 hk).resolve_left heq
          exact List.mem_append_right _ (hmissed k hrest fun hold =>
            (hkeys k hold).elim hnew heq)

/-- **Reports.**  Let a compiler be created and put to any operations, failing ones among them.  If
a compilation then gives a result, it warns of exactly those tokens that no rule claims in the class
strings that it has missed in the cache.  These are class strings that it was given and that are not
blocked, and every such one is among them that the cache did not list before. -/
theorem reports_run_iff {config : Config} {renderer : Renderer} {theme : Theme} {rules : List Rule}
    {c : Compiler} {log : Log} (hcreate : create config renderer theme rules = (.ok c, log))
    (ops : List Op) {classes : List Text} {result : Compilation} {after : Compiler}
    {effects : Effects} (hresult : (c.run ops).compile classes = (.ok result, after, effects)) :
    (∀ token, result.Reports token ↔
      ∃ raw ∈ effects.missed, (c.run ops).Unclaimed raw token) ∧
    (∀ raw ∈ effects.missed, raw ∈ classes ∧ ¬ (c.run ops).Blocked raw) ∧
    ∀ raw ∈ classes, ¬ (c.run ops).Blocked raw → raw ∉ (c.run ops).cache.store.keys →
      raw ∈ effects.missed := by
  have hvalid := valid_run (valid_of_create hcreate) ops
  unfold compile at hresult
  dsimp only at hresult
  split at hresult
  · cases hresult
  next pieces next effects' hpieces =>
      cases hresult
      obtain ⟨hwarns, hsub, hmissed⟩ := compileStrings_ok hvalid hpieces
      have hsame : (effects' ++ Effects.event (.cssGenerated ((c.run ops).selected classes)
          (assemble pieces).css)).missed = effects'.missed := by
        rw [Effects.missed_append]
        exact List.append_nil _
      rw [hsame]
      exact ⟨hwarns, fun raw hraw => mem_selected.1 (hsub.subset hraw),
        fun raw hraw hblocked => hmissed raw (mem_selected.2 ⟨hraw, hblocked⟩)⟩

end

/-! ### A class string that is served again -/

/-- There is a result, and it passes a check. -/
def passes {α β : Type} (check : α → β → Bool) : Outcome α × β → Bool
  | (.ok a, b) => check a b
  | (.error _, _) => false

theorem exists_of_passes {α β : Type} {check : α → β → Bool} {x : Outcome α × β}
    (h : passes check x = true) : ∃ a b, x = (.ok a, b) ∧ check a b = true := by
  obtain ⟨_ | a, b⟩ := x
  · cases h
  · exact ⟨a, b, rfl, h⟩

/-- Class strings with a token that is claimed and one that is not. -/
def mixed (unclaimed : String) : Text :=
  "p-lg ".toList ++ unclaimed.toList

/-- Of two such class strings, the one that has been compiled before is served, without a word on
its token that no rule claims. -/
theorem mixed_again :
    ∃ c log result after effects,
      create {} bareRenderer (spacingTheme "2rem") [spacingRule "padding"] = (.ok c, log) ∧
      (c.run [.compile [mixed "nope"]]).compile [mixed "nope", mixed "gone"] =
        (.ok result, after, effects) ∧
      effects.missed = [mixed "gone"] ∧ (∀ d ∈ result.diagnostics, d.token ≠ some "nope".toList) ∧
      (c.run [.compile [mixed "nope"]]).Unclaimed (mixed "nope") "nope".toList ∧
      ¬ (c.run [.compile [mixed "nope"]]).Blocked (mixed "nope") := by
  have hpasses : passes
      (fun c _ => passes
        (fun result rest => decide (rest.2.missed = [mixed "gone"] ∧
          (∀ d ∈ result.diagnostics, d.token ≠ some "nope".toList) ∧
          (c.run [.compile [mixed "nope"]]).Unclaimed (mixed "nope") "nope".toList ∧
          ¬ (c.run [.compile [mixed "nope"]]).Blocked (mixed "nope")))
        ((c.run [.compile [mixed "nope"]]).compile [mixed "nope", mixed "gone"]))
      (create {} bareRenderer (spacingTheme "2rem") [spacingRule "padding"]) = true := by
    decide +kernel
  obtain ⟨c, log, hcreate, hpasses⟩ := exists_of_passes hpasses
  obtain ⟨result, ⟨after, effects⟩, hresult, hpasses⟩ := exists_of_passes hpasses
  exact ⟨c, log, result, after, effects, hcreate, hresult, of_decide_eq_true hpasses⟩

theorem reports_run_iff_mixed :
    ∃ c log result after effects,
      create {} bareRenderer (spacingTheme "2rem") [spacingRule "padding"] = (.ok c, log) ∧
      (c.run [.compile [mixed "nope"]]).compile [mixed "nope", mixed "gone"] =
        (.ok result, after, effects) ∧
      effects.missed = [mixed "gone"] ∧
      (∀ token, result.Reports token ↔
        ∃ raw ∈ effects.missed, (c.run [.compile [mixed "nope"]]).Unclaimed raw token) ∧
      (∀ raw ∈ effects.missed, raw ∈ [mixed "nope", mixed "gone"] ∧
        ¬ (c.run [.compile [mixed "nope"]]).Blocked raw) ∧
      ∀ raw ∈ [mixed "nope", mixed "gone"], ¬ (c.run [.compile [mixed "nope"]]).Blocked raw →
        raw ∉ (c.run [.compile [mixed "nope"]]).cache.store.keys → raw ∈ effects.missed := by
  obtain ⟨c, log, result, after, effects, hcreate, hresult, hmissed, -⟩ := mixed_again
  exact ⟨c, log, result, after, effects, hcreate, hresult, hmissed,
    reports_run_iff hcreate [.compile [mixed "nope"]] hresult⟩

/-- A token that no rule claims is not reported by every compilation of its class string. -/
theorem not_always_reported :
    ¬ ∀ (config : Config) (renderer : Renderer) (theme : Theme) (rules : List Rule) (c : Compiler)
      (log : Log), create config renderer theme rules = (.ok c, log) →
      ∀ (ops : List Op) (classes : List Text) (result : Compilation) (after : Compiler)
        (effects : Effects), (c.run ops).compile classes = (.ok result, after, effects) →
      ∀ raw ∈ classes, ¬ (c.run ops).Blocked raw →
      ∀ token, (c.run ops).Unclaimed raw token → result.Reports token := by
  intro h
  obtain ⟨c, log, result, after, effects, hcreate, hresult, -, hsilent, hunclaimed, hblocked⟩ :=
    mixed_again
  obtain ⟨d, hd, -, -, htoken⟩ := h _ _ _ _ c log hcreate [.compile [mixed "nope"]] _ result after
    effects hresult (mixed "nope") List.mem_cons_self hblocked "nope".toList hunclaimed
  exact hsilent d hd htoken

end Compiler

end UtilityCss

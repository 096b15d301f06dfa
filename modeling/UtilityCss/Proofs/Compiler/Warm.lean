import UtilityCss.Proofs.Compiler.Fresh
import UtilityCss.Proofs.Compiler.Retained

/-!
# Compilers — compiling again

What has been compiled is in the cache when it is compiled again, whatever was in the cache before.

**A second compilation is warm** (`compile_again`).  Let the entries of the cache never expire and
let it hold as many as there are class strings to compile.  If compiling gives a result, then doing
it again at once gives the same style sheet.  Every class string that came to some style sheet is
served; the others are missed and resolved again, so that their tokens are all that is listed.

The second compilation is accounted for by the ledger of the first one, with the lines of what is
served changed (`Line.again`).  It fails nowhere and writes nothing: a class string of which nothing
is kept resolves to the same tokens, which come to the same as before and to no style sheet
(`compileAnew_again`).
-/

namespace UtilityCss.Compiler

open Cache (Store Entry Endless)

variable {ledger : List Line} {line : Line} {raw css : Text} {s : Store} {n : Int}
  {c after : Compiler} {renderer : Renderer} {theme : Theme}

namespace Line

/-- What becomes of a class string that is compiled again at once: it is served if it is kept. -/
def again (line : Line) : Line :=
  match line.kept? with
  | some css => .hit line.raw css
  | none => line

theorem again_of_some (h : line.kept? = some css) : line.again = .hit line.raw css := by
  rw [again, h]

theorem again_of_none (h : line.kept? = none) : line.again = line := by
  rw [again, h]

theorem raw_again (line : Line) : line.again.raw = line.raw := by
  cases hkept : line.kept? with
  | some css => rw [again_of_some hkept]; rfl
  | none => rw [again_of_none hkept]

theorem css_again (line : Line) : line.again.piece.css = line.piece.css := by
  cases hkept : line.kept? with
  | some css => rw [again_of_some hkept, css_of_kept? hkept]; rfl
  | none => rw [again_of_none hkept]

end Line

/-- What comes to a style sheet is served. -/
theorem Line.hit_mem_events_again (hcss : line.piece.css ≠ []) :
    .cacheHit line.raw ∈ line.again.events := by
  cases hkept : line.kept? with
  | some css =>
      rw [again_of_some hkept]
      exact List.mem_singleton_self _
  | none => exact absurd (of_kept?_eq_none hkept).2 hcss

/-- What is missed again has come to no style sheet. -/
theorem Line.of_miss_mem_events_again (h : .cacheMiss raw ∈ line.again.events) :
    line.raw = raw ∧ line.piece.css = [] := by
  cases hkept : line.kept? with
  | some css =>
      rw [again_of_some hkept] at h
      cases List.mem_singleton.1 h
  | none =>
      obtain ⟨⟨items, yields, hmiss⟩, hempty⟩ := of_kept?_eq_none hkept
      refine ⟨?_, hempty⟩
      rw [again_of_none hkept, hmiss] at h
      rcases List.mem_cons.1 h with heq | hmem
      · exact (Event.cacheMiss.inj heq).symm
      · -- tokens report nothing of the cache
        have hkind : Event.Kind.cacheMiss ≠ .tokenUnresolved := by decide
        have hnone := count_events_yields hkind yields
        rw [List.count_eq_zero] at hnone
        exact absurd (List.mem_map_of_mem (f := Event.kind) hmem) hnone

theorem Line.of_mem_resolved_again {item : ResolvedToken}
    (h : item ∈ line.again.piece.resolved) :
    line.piece.css = [] ∧ item ∈ line.piece.resolved := by
  cases hkept : line.kept? with
  | some css =>
      rw [again_of_some hkept] at h
      cases h
  | none =>
      rw [again_of_none hkept] at h
      exact ⟨(of_kept?_eq_none hkept).2, h⟩

/-- Reading one class string leaves what is found of the others. -/
theorem Line.Ready.get (h : line.Ready s) (hne : line.raw ≠ raw) : line.Ready (s.get raw).2 := by
  obtain ⟨entries, hits, misses, hget, -⟩ := s.shrinks_get raw
  have hlive : (s.get raw).2.isLive = s.isLive := by
    rw [hget]
    rfl
  rw [Line.Ready, Store.find?_get_of_ne hne, hlive]
  exact h

section

variable [Platform]

/-! ### Compiling again -/

theorem render_of_yields {item : ResolvedToken} {yield : Yield}
    (h : Yields renderer theme item yield) :
    ∃ rendering effects, item.render renderer theme = (.ok rendering, effects) := by
  have hclaimed {token : ClassToken} {found : Match} {made : Option Declarations}
      (hmade : (found.generate theme).1 = .ok made) : ∃ rendering effects,
        ResolvedToken.render renderer theme ⟨token, some found⟩ = (.ok rendering, effects) := by
    cases hgenerate : found.generate theme with
    | mk result log =>
        rw [hgenerate] at hmade
        obtain rfl : result = .ok made := hmade
        exact ⟨_, _, by simp only [ResolvedToken.render, hgenerate]; rfl⟩
  cases h with
  | unclaimed => exact ⟨_, _, rfl⟩
  | empty hmade => exact hclaimed hmade
  | rendered hmade => exact hclaimed hmade

/-- Tokens that come to something are rendered. -/
theorem renderAll_of_yields {items : List ResolvedToken} {yields : List Yield}
    (h : List.Forall₂ (Yields renderer theme) items yields) :
    ∃ renderings effects,
      ResolvedToken.renderAll renderer theme items = (.ok renderings, effects) ∧
      effects.events = yields.flatMap Yield.events ∧
      ResolvedToken.findingsOf renderings = yields.flatMap Yield.findings ∧
      ResolvedToken.cssOf renderings = yields.flatMap Yield.rules := by
  have hrendered : ∃ renderings effects,
      ResolvedToken.renderAll renderer theme items = (.ok renderings, effects) := by
    induction h with
    | nil => exact ⟨_, _, rfl⟩
    | @cons item yield items yields hyield hyields ih =>
        obtain ⟨later, effects, hlater⟩ := ih
        obtain ⟨rendering, first, hfirst⟩ := render_of_yields hyield
        exact ⟨_, _, by simp only [ResolvedToken.renderAll, hfirst, hlater]; rfl⟩
  obtain ⟨renderings, effects, hall⟩ := hrendered
  obtain ⟨yields', hyields, hevents, hfindings, hrules⟩ := yields_renderAll hall
  have hsame : yields' = yields := by
    clear hall hevents hfindings hrules
    induction h generalizing yields' with
    | nil =>
        cases hyields
        rfl
    | cons hyield _ ih =>
        cases hyields with
        | cons hyield' hyields => rw [hyield'.unique hyield, ih _ hyields]
  subst hsame
  exact ⟨renderings, effects, hall, hevents, hfindings, hrules⟩

/-- A class string of which nothing is kept is resolved and rendered as before. -/
theorem compileAnew_again {c' : Compiler} (hsame : SameInputs c c') (hvalid : c.registry.Valid)
    (hvalid' : c'.registry.Valid) {items : List ResolvedToken} {yields : List Yield}
    (hline : (Line.miss raw items yields).Holds c)
    (hempty : (Line.miss raw items yields).piece.css = []) :
    ∃ after effects, c'.compileAnew raw =
        (.ok (Line.miss raw items yields).piece, after, effects) ∧
      effects.events = yields.flatMap Yield.events ∧ after.cache = c'.cache := by
  obtain ⟨hitems, hyields⟩ := hline
  rw [← hsame.resolve_fst hvalid hvalid'] at hitems
  rw [← hsame.renderer, ← hsame.theme] at hyields
  obtain ⟨renderings, more, hrender, hevents, hfindings, hrules⟩ := renderAll_of_yields hyields
  have hcss : Text.join ['\n'] (ResolvedToken.cssOf renderings) = [] := by
    rw [hrules]
    exact hempty
  have hkeep : ∀ c : Compiler, c.keep raw [] = (.ok (), c, {}) := fun _ => rfl
  rcases resolve_cases hvalid' raw with ⟨failure, effects, -, hr⟩ |
      ⟨tokens, registry, effects, -, hr, -, -⟩
  · rw [hr] at hitems
    cases hitems
  · have hquiet : effects.events = [] := by
      have hnone : (c'.resolve raw).2.2.events = [] := by
        rw [resolve]
        split <;> rfl
      rwa [hr] at hnone
    rw [hr] at hitems
    obtain rfl := Except.ok.inj hitems
    have hpiece : (Line.miss raw (resolved c'.registry.rules tokens) yields).piece =
        ⟨[], ResolvedToken.findingsOf renderings, resolved c'.registry.rules tokens⟩ := by
      rw [hfindings, ← hempty]
      rfl
    refine ⟨{ c' with registry }, effects ++ more ++ {}, ?_, ?_, rfl⟩
    · rw [hpiece]
      simp only [compileAnew, hr, hrender, hcss, hkeep]
      rfl
    · change (effects.events ++ more.events) ++ [] = _
      rw [hquiet, hevents, List.nil_append, List.append_nil]

/-- **One class string again.**  It is served if it is kept, and missed if nothing is. -/
theorem compileString_again {c' : Compiler} (hsame : SameInputs c c') (hvalid : c.registry.Valid)
    (hvalid' : c'.registry.Valid) (hendless : Endless n c'.cache) (hline : line.Holds c)
    (hready : line.Ready c'.cache.store) :
    ∃ after effects, c'.compileString line.raw = (.ok line.again.piece, after, effects) ∧
      effects.events = line.again.events ∧
      after.cache.store = (c'.cache.store.get line.raw).2 := by
  rw [compileString, hendless.get_eq]
  cases hkept : line.kept? with
  | some css =>
      obtain ⟨e, hfind, hlive, rfl⟩ := hready.1 css hkept
      have hget : (c'.cache.store.get line.raw).1 = some e.value := by
        simp [Store.get, hendless.enabled, hfind, hlive]
      rw [Line.again_of_some hkept, hget]
      exact ⟨_, _, rfl, rfl, rfl⟩
  | none =>
      have hfind := hready.2 hkept
      have hget : (c'.cache.store.get line.raw).1 = none := by
        simp [Store.get, hendless.enabled, hfind]
      obtain ⟨⟨items, yields, hmiss⟩, hempty⟩ := Line.of_kept?_eq_none hkept
      rw [hmiss] at hline hempty
      have hread : SameInputs c (c'.afterRead line.raw) :=
        hsame.trans (sameInputs_afterRead c' line.raw)
      obtain ⟨after, effects, hnew, hevents, hcache⟩ :=
        compileAnew_again hread hvalid hvalid' hline hempty
      rw [← congrArg Line.piece hmiss] at hnew
      rw [afterRead] at hnew
      rw [Line.again_of_none hkept, hget, congrArg Line.events hmiss]
      simp only [hnew]
      exact ⟨after, _, rfl, congrArg (Event.cacheMiss line.raw :: ·) hevents,
        congrArg Cache.store hcache⟩

/-- **Class strings again**, one after the other. -/
theorem compileStrings_again {c' : Compiler} (hsame : SameInputs c c') (hvalid : c.registry.Valid)
    (hvalid' : c'.registry.Valid) (hendless : Endless n c'.cache)
    (hnodup : (ledger.map Line.raw).Nodup) (hledger : ∀ line ∈ ledger, line.Holds c)
    (hready : ∀ line ∈ ledger, line.Ready c'.cache.store) :
    ∃ after effects, c'.compileStrings (ledger.map Line.raw) =
        (.ok ((ledger.map Line.again).map Line.piece), after, effects) ∧
      effects.events = (ledger.map Line.again).flatMap Line.events := by
  induction ledger generalizing c' with
  | nil => exact ⟨c', {}, rfl, rfl⟩
  | cons line ledger ih =>
      obtain ⟨hfresh, hrest⟩ := List.nodup_cons.1 hnodup
      obtain ⟨hline, hlines⟩ := List.forall_mem_cons.1 hledger
      obtain ⟨hfirst, hothers⟩ := List.forall_mem_cons.1 hready
      obtain ⟨next, first, hstep, hevents, hstore⟩ :=
        compileString_again hsame hvalid hvalid' hendless hline hfirst
      obtain ⟨hnext, hnextValid⟩ := sameInputs_compileString hvalid' line.raw
      have hsettings := sameSettings_compileString hvalid' line.raw
      rw [hstep] at hnext hnextValid hsettings
      have hstill : ∀ other ∈ ledger, other.Ready next.cache.store := by
        intro other hother
        have hne : other.raw ≠ line.raw := fun heq => hfresh (heq ▸ List.mem_map_of_mem hother)
        rw [hstore]
        exact (hothers other hother).get hne
      obtain ⟨after, last, hlater, hevents'⟩ := ih (hsame.trans hnext) hnextValid
        (hendless.of_sameSettings hsettings) hrest hlines hstill
      refine ⟨after, first ++ last, ?_, ?_⟩
      · rw [List.map_cons, compileStrings]
        simp only [hstep, hlater]
        rfl
      · rw [List.map_cons, List.flatMap_cons, ← hevents, ← hevents']
        rfl

/-- What is served again is in the cache, and what is missed again resolves as before. -/
theorem Line.Holds.again {c' : Compiler} (hsame : SameInputs c c') (hvalid : c.registry.Valid)
    (hvalid' : c'.registry.Valid) (hline : line.Holds c) (hready : line.Ready c'.cache.store) :
    line.again.Holds c' := by
  cases hkept : line.kept? with
  | some css =>
      obtain ⟨e, hfind, hlive, hvalue⟩ := hready.1 css hkept
      rw [again_of_some hkept]
      exact ⟨e, Store.mem_of_find? hfind, hlive, hvalue⟩
  | none =>
      obtain ⟨⟨items, yields, hmiss⟩, -⟩ := of_kept?_eq_none hkept
      rw [again_of_none hkept]
      rw [hmiss] at hline ⊢
      obtain ⟨hitems, hyields⟩ := hline
      rw [← hsame.resolve_fst hvalid hvalid'] at hitems
      rw [← hsame.renderer, ← hsame.theme] at hyields
      exact ⟨hitems, hyields⟩

/-- **Compiling again**, with a ledger for both times. -/
theorem compile_again_accounted (hvalid : c.registry.Valid) (hendless : Endless n c.cache)
    {classes : List Text} (hroom : ((c.selected classes).length : Int) ≤ n)
    {result : Compilation} {effects : Effects}
    (hresult : c.compile classes = (.ok result, after, effects)) :
    ∃ ledger result' after' effects', Accounts ledger c classes result after effects ∧
      after.compile classes = (.ok result', after', effects') ∧
      Accounts (ledger.map Line.again) after classes result' after' effects' := by
  obtain ⟨ledger, haccounts, hentered⟩ := compile_entered hvalid hendless.enabled hresult
  obtain ⟨hsame, hvalid'⟩ := hentered.sameInputs hvalid
  have hsettings := sameSettings_compile hvalid classes
  rw [hresult] at hsettings
  have hendless' := hendless.of_sameSettings hsettings
  have hraws : ledger.map Line.raw = c.selected classes := by rw [haccounts.raws, selected_eq]
  have hnodup : (ledger.map Line.raw).Nodup := hraws ▸ c.nodup_selected classes
  have hlength : (([] ++ ledger).length : Int) ≤ n := by
    have hcount := congrArg List.length hraws
    rw [List.length_map] at hcount
    rw [List.nil_append, hcount]
    exact hroom
  have hretains : Retains ledger after.cache.store :=
    (retains_nil c.cache.store).entered hvalid hendless hentered hnodup hlength
  have hready : ∀ line ∈ ledger, line.Ready after.cache.store :=
    fun line hline => hretains.ready hnodup hline
  obtain ⟨after', effects', hagain, hevents⟩ :=
    compileStrings_again hsame hvalid hvalid' hendless' hnodup haccounts.holds hready
  have hselected : after.selected classes = c.selected classes := by
    rw [selected, selected, hsame.config]
  have hraws' : (ledger.map Line.again).map Line.raw = after.selected classes := by
    rw [hselected, ← hraws, List.map_map]
    exact List.map_congr_left fun line _ => line.raw_again
  have hholds : ∀ line ∈ ledger.map Line.again, line.Holds after := by
    intro line' hline'
    obtain ⟨line, hline, rfl⟩ := List.mem_map.1 hline'
    exact (haccounts.holds line hline).again hsame hvalid hvalid' (hready line hline)
  rw [hraws, ← hselected] at hagain
  obtain ⟨-, -, -, -, -, htraced, -⟩ :=
    compileStrings_accounted hvalid' hendless'.enabled (after.nodup_selected classes) hagain
  refine ⟨ledger, _, after', _, haccounts, ?_,
    accounts_of_compileStrings hvalid' hraws' hholds hevents htraced⟩
  simp only [compile, hagain]

/-- **A second compilation is warm.**  Let a compiler be created with a cache whose entries never
expire, and be put to any operations; let the cache hold as many entries as there are class strings
to compile.  If compiling them gives a result, then compiling them again gives one, with the same
style sheet.  Where the first time is accounted for by a ledger, the second time is by the one in
which every class string that came to some style sheet is served: those are the hits, only others
are missed, and the tokens that are listed are theirs. -/
theorem compile_again {config : Config} {renderer : Renderer} {theme : Theme} {rules : List Rule}
    {c : Compiler} {log : Log} (hcreate : create config renderer theme rules = (.ok c, log))
    (ops : List Op) (henabled : config.cache.enabled.isTruthy)
    (hlifetime : (Cache.valueOr (Cache.lifetimeOf config.cache.lifetime)).isInfinite) {n : Int}
    (hcapacity : Cache.capacityOf config.cache.maxSize = .ok (.int n)) {classes : List Text}
    (hroom : (((c.run ops).selected classes).length : Int) ≤ n) {result : Compilation}
    {after : Compiler} {effects : Effects}
    (hresult : (c.run ops).compile classes = (.ok result, after, effects)) :
    ∃ ledger result' after' effects', Accounts ledger (c.run ops) classes result after effects ∧
      after.compile classes = (.ok result', after', effects') ∧ result'.css = result.css ∧
      Accounts (ledger.map Line.again) after classes result' after' effects' ∧
      (∀ line ∈ ledger, line.piece.css ≠ [] → .cacheHit line.raw ∈ effects'.events) ∧
      (∀ raw, .cacheMiss raw ∈ effects'.events →
        ∃ line ∈ ledger, line.raw = raw ∧ line.piece.css = []) ∧
      ∀ item ∈ result'.resolved,
        ∃ line ∈ ledger, line.piece.css = [] ∧ item ∈ line.piece.resolved := by
  have hvalid := valid_of_create hcreate
  have hendless : Endless n (c.run ops).cache :=
    (Cache.endless_create hcapacity henabled hlifetime).of_sameSettings
      ((cache_of_create hcreate).2.trans (sameSettings_run hvalid ops))
  obtain ⟨ledger, result', after', effects', haccounts, hagain, haccounts'⟩ :=
    compile_again_accounted (valid_run hvalid ops) hendless hroom hresult
  refine ⟨ledger, result', after', effects', haccounts, hagain, ?_, haccounts', ?_, ?_, ?_⟩
  · have hpieces : (ledger.map Line.again).map (·.piece.css) = ledger.map (·.piece.css) := by
      rw [List.map_map]
      exact List.map_congr_left fun line _ => line.css_again
    rw [haccounts'.css, haccounts.css, hpieces]
  · intro line hline hcss
    rw [haccounts'.events]
    refine List.mem_append_left _ (List.mem_flatMap.2 ?_)
    exact ⟨line.again, List.mem_map_of_mem hline, Line.hit_mem_events_again hcss⟩
  · intro raw hmiss
    rw [haccounts'.events] at hmiss
    rcases List.mem_append.1 hmiss with hmiss | hlast
    · obtain ⟨line', hline', hmiss⟩ := List.mem_flatMap.1 hmiss
      obtain ⟨line, hline, rfl⟩ := List.mem_map.1 hline'
      exact ⟨line, hline, Line.of_miss_mem_events_again hmiss⟩
    · cases List.mem_singleton.1 hlast
  · intro item hitem
    rw [haccounts'.resolved] at hitem
    obtain ⟨line', hline', hitem⟩ := List.mem_flatMap.1 hitem
    obtain ⟨line, hline, rfl⟩ := List.mem_map.1 hline'
    exact ⟨line, hline, Line.of_mem_resolved_again hitem⟩

end

/-- A cache for three entries. -/
def threePlaces : Config :=
  { cache := { maxSize := .int 3 } }

/-- The cache is full; the first time, one class string is served, one takes the place of the oldest
entry, and one comes to nothing. -/
theorem compile_again_full :
    ∃ c log result after effects,
      create threePlaces bareRenderer (spacingTheme "2rem") [spacingRule "padding"] =
        (.ok c, log) ∧
      (c.run [.compile ["-p-lg".toList, "p-lg".toList, "p-lg -p-lg".toList]]).cache.store.stored =
        ["-p-lg".toList, "p-lg".toList, "p-lg -p-lg".toList] ∧
      (c.run [.compile ["-p-lg".toList, "p-lg".toList, "p-lg -p-lg".toList]]).compile
        ["p-lg".toList, "nope".toList, "p-lg p-lg".toList] = (.ok result, after, effects) ∧
      effects.events.map Event.kind =
        [.cacheHit, .cacheMiss, .tokenUnresolved, .cacheMiss, .cssGenerated] ∧
      ∃ (ledger : List Line) (result' : Compilation) (after' : Compiler) (effects' : Effects),
        after.compile ["p-lg".toList, "nope".toList, "p-lg p-lg".toList] =
          (.ok result', after', effects') ∧
        result'.css = result.css ∧
        (∀ line ∈ ledger, line.piece.css ≠ [] → .cacheHit line.raw ∈ effects'.events) := by
  have hpasses : passes
      (fun c _ => passes
        (fun _ rest => decide (
          (c.run [.compile ["-p-lg".toList, "p-lg".toList,
            "p-lg -p-lg".toList]]).cache.store.stored =
              ["-p-lg".toList, "p-lg".toList, "p-lg -p-lg".toList] ∧
          ((c.run [.compile ["-p-lg".toList, "p-lg".toList, "p-lg -p-lg".toList]]).selected
            ["p-lg".toList, "nope".toList, "p-lg p-lg".toList]).length = 3 ∧
          rest.2.events.map Event.kind =
            [.cacheHit, .cacheMiss, .tokenUnresolved, .cacheMiss, .cssGenerated]))
        ((c.run [.compile ["-p-lg".toList, "p-lg".toList, "p-lg -p-lg".toList]]).compile
          ["p-lg".toList, "nope".toList, "p-lg p-lg".toList]))
      (create threePlaces bareRenderer (spacingTheme "2rem") [spacingRule "padding"]) = true := by
    decide +kernel
  obtain ⟨c, log, hcreate, hpasses⟩ := exists_of_passes hpasses
  obtain ⟨result, ⟨after, effects⟩, hresult, hpasses⟩ := exists_of_passes hpasses
  obtain ⟨hstored, hlength, hkinds⟩ := of_decide_eq_true hpasses
  have hlifetime :
      (Cache.valueOr (Cache.lifetimeOf threePlaces.cache.lifetime)).isInfinite := by
    decide +kernel
  have hcapacity : Cache.capacityOf threePlaces.cache.maxSize = .ok (.int 3) := rfl
  obtain ⟨ledger, result', after', effects', -, hagain, hcss, -, hhits, -⟩ :=
    compile_again hcreate [.compile ["-p-lg".toList, "p-lg".toList, "p-lg -p-lg".toList]] rfl
      hlifetime hcapacity (by rw [hlength]; decide) hresult
  exact ⟨c, log, result, after, effects, hcreate, hstored, hresult, hkinds, ledger, result', after',
    effects', hagain, hcss, hhits⟩

end UtilityCss.Compiler

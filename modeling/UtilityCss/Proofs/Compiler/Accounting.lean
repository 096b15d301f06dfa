import Mathlib.Data.List.Forall2
import UtilityCss.Proofs.ClassList.Joined
import UtilityCss.Proofs.ClassToken.Decomposition
import UtilityCss.Proofs.Compiler.Findings

/-!
# Compilers — the account of a compilation

A compilation answers in four ways: it makes a style sheet, it lists findings and tokens, it reports
events, and its cache counts reads.  All four can be read off one ledger.  A `Line` of it stands for
one class string, which is served from the cache or resolved into tokens, and a `Yield` for what one
token comes to: no rule claims it, its rule makes no declarations, or it is rendered.

**The account of a compilation** (`compile_accounted`).  Every class string that is not blocked has
one line and every token of one that is missed has one yield, in order; the events, the findings,
the tokens, the style sheet and the counts are those of the lines, and there are no others.

`yields_renderAll` is about the tokens of one class string, `compileString_accounted` about one
class string and `compileStrings_accounted` about class strings one after the other.
-/

namespace UtilityCss

/-- The tokens that have been reported because no rule claims them, in order. -/
def Effects.unclaimed (effects : Effects) : List Text :=
  effects.events.filterMap fun
    | .tokenUnresolved token _ => some token
    | _ => none

namespace Compiler

/-! ### Tokens -/

/-- What one token comes to. -/
inductive Yield where
  /-- No rule claims it. -/
  | unclaimed (token : ClassToken)
  /-- The rule that claims it makes no declarations. -/
  | empty (token : ClassToken) (rule : CompiledRule)
  /-- It is rendered. -/
  | rendered (css : Text)

namespace Yield

def events : Yield → List Event
  | .unclaimed token => [.tokenUnresolved token.original token.utility]
  | .empty _ _ | .rendered _ => []

def findings : Yield → List Diagnostic
  | .unclaimed token => [ResolvedToken.unresolved token]
  | .empty token rule => [ResolvedToken.empty token rule]
  | .rendered _ => []

def rules : Yield → List Text
  | .unclaimed _ | .empty _ _ => []
  | .rendered css => [css]

end Yield

/-- The tokens of a class string are not empty. -/
theorem original_ne_nil {config : Config} {text : Text} {tokens : List ClassToken}
    (h : (config.tokens text).1 = .ok tokens) {token : ClassToken} (htoken : token ∈ tokens) :
    token.original ≠ [] := by
  rw [Config.tokens] at h
  generalize (if config.groups.isTruthy then ClassList.expandText text else text) = list at h
  cases hlimit : config.tokenLimit with
  | error misuse =>
      simp only [hlimit] at h
      split at h
      · cases h
        cases htoken
      · cases h
  | ok limit =>
      simp only [hlimit] at h
      cases h
      obtain ⟨word, hword, rfl⟩ := List.mem_map.1 htoken
      have hsolid := Text.isSolid_of_mem_words hword
      rw [ClassToken.original_read, Text.trim_of_isSolid hsolid]
      exact (Text.isSolid_iff.1 hsolid).1

/-- The tokens of which findings say that no rule claims them are those of which events say so. -/
def Announced (findings : List Diagnostic) (events : List Event) : Prop :=
  Compilation.unresolved ⟨[], findings, []⟩ = Effects.unclaimed ⟨events, []⟩

theorem Announced.append {findings findings' : List Diagnostic} {events events' : List Event}
    (h : Announced findings events) (h' : Announced findings' events') :
    Announced (findings ++ findings') (events ++ events') := by
  simp only [Announced, Compilation.unresolved, Effects.unclaimed,
    List.filterMap_append] at h h' ⊢
  rw [h, h']

theorem announced_generated (raws : List Text) (css : Text) :
    Announced [] [.cssGenerated raws css] :=
  rfl

/-! ### Class strings that are compiled -/

/-- The first occurrences are those that the library keeps. -/
theorem distinct_eq_eraseDups (items : List Text) : Text.distinct items = items.eraseDups := by
  have hseen : ∀ seen : List Text,
      (items.foldl (fun seen x => if seen.contains x then seen else x :: seen) seen).reverse =
        List.eraseDupsBy.loop (· == ·) items seen := by
    induction items with
    | nil => intro seen; rfl
    | cons item items ih =>
        intro seen
        rw [List.foldl_cons, ih, List.eraseDupsBy.loop, List.contains_eq_any_beq]
        cases seen.any (item == ·) <;> rfl
  exact hseen []

theorem nodup_eraseDups (items : List Text) : items.eraseDups.Nodup := by
  match items with
  | [] => exact .nil
  | item :: rest =>
      rw [List.eraseDups_cons, List.nodup_cons]
      refine ⟨fun hmem => ?_, nodup_eraseDups _⟩
      have hfilter := (List.mem_filter.1 (List.mem_eraseDups.1 hmem)).2
      simp at hfilter
termination_by items.length
decreasing_by exact Nat.lt_succ_of_le (List.length_filter_le _ rest)

/-- The class strings that are compiled are the first occurrences of those that are not blocked. -/
theorem selected_eq (c : Compiler) (classes : List Text) :
    c.selected classes = classes.eraseDups.filter fun raw => ¬ c.Blocked raw := by
  rw [selected, distinct_eq_eraseDups]
  refine List.filter_congr fun raw _ => ?_
  cases hblocked : c.config.blocklist.any (Json.sameKey (.string raw)) <;>
    simp [Blocked, hblocked]

theorem nodup_selected (c : Compiler) (classes : List Text) : (c.selected classes).Nodup := by
  rw [selected_eq]
  exact (nodup_eraseDups classes).filter _

/-! ### The cache -/

/-- A store after reads and writes of keys that have been reported by events: the reads are counted,
and there are no new entries of other keys. -/
structure Traced (keys : List Text) (events : List Event) (s s' : Cache.Store) : Prop where
  store : s' =
    { s with
      entries := s'.entries
      hits := s.hits + (events.map Event.kind).count .cacheHit
      misses := s.misses + (events.map Event.kind).count .cacheMiss }
  entries : ∀ k e, (k, e) ∈ s'.entries → (k, e) ∈ s.entries ∨ k ∈ keys

theorem Traced.refl (s : Cache.Store) : Traced [] [] s s :=
  ⟨rfl, fun _ _ => .inl⟩

theorem Traced.trans {keys keys' : List Text} {events events' : List Event}
    {s s' s'' : Cache.Store} (h : Traced keys events s s') (h' : Traced keys' events' s' s'') :
    Traced (keys ++ keys') (events ++ events') s s'' := by
  refine ⟨?_, fun k e he => ?_⟩
  · rw [h'.store, h.store]
    simp only [List.map_append, List.count_append, Nat.add_assoc]
  · rcases h'.entries k e he with hold | hnew
    · exact (h.entries k e hold).imp_right (List.mem_append_left keys')
    · exact .inr (List.mem_append_right keys hnew)

theorem Traced.generated (s : Cache.Store) (raws : List Text) (css : Text) :
    Traced [] [.cssGenerated raws css] s s :=
  ⟨rfl, fun _ _ => .inl⟩

/-- A read of a store that is enabled is counted. -/
theorem traced_get {s : Cache.Store} (henabled : s.enabled = true) (key : Text) :
    Traced [] [if (s.get key).1.isSome then .cacheHit key else .cacheMiss key] s (s.get key).2 := by
  refine ⟨?_, fun k e he => .inl (Cache.Store.mem_get he)⟩
  rcases Cache.Store.get_cases s key with ⟨hoff, -⟩ | ⟨-, -, hget⟩ | ⟨e, -, -, -, hget⟩ |
    ⟨e, -, -, -, hget⟩
  · rw [henabled] at hoff
    cases hoff
  all_goals
    rw [hget]
    rfl

/-- Tokens report no reads of the cache. -/
theorem count_events_yields {kind : Event.Kind} (hkind : kind ≠ .tokenUnresolved)
    (yields : List Yield) : ((yields.flatMap Yield.events).map Event.kind).count kind = 0 := by
  rw [List.count_eq_zero]
  intro hmem
  obtain ⟨event, hevent, rfl⟩ := List.mem_map.1 hmem
  obtain ⟨yield, -, hevent⟩ := List.mem_flatMap.1 hevent
  cases yield with
  | unclaimed token =>
      obtain rfl := List.mem_singleton.1 hevent
      exact hkind rfl
  | empty | rendered => cases hevent

/-- Keeping a style sheet changes nothing but the entries of the cache, and adds none but that of
its class string. -/
theorem keep_entries (c : Compiler) (raw css : Text) :
    ∃ entries log,
      (c.keep raw css).2 =
        ({ c with cache := { c.cache with store := { c.cache.store with entries } } },
          .logged log) ∧
      ∀ k e, (k, e) ∈ entries → (k, e) ∈ c.cache.store.entries ∨ k = raw := by
  have hkept : ∀ k e, (k, e) ∈ c.cache.store.entries →
      (k, e) ∈ c.cache.store.entries ∨ k = raw := fun _ _ => .inl
  rw [keep]
  split
  · exact ⟨_, [], rfl, hkept⟩
  · rw [Cache.set]
    rcases Cache.guarded_cases c.cache c.cache.store.enabled (Cache.capacityOf c.cache.maxSize)
      (fun _ => ((), c.cache.store.set raw css)) with ⟨misuse, -, -, hset⟩ | hset <;> rw [hset]
    · exact ⟨_, _, rfl, hkept⟩
    · obtain ⟨entries, hstore⟩ := c.cache.store.set_settings raw css
      refine ⟨entries, _, by rw [hstore], fun k e he => ?_⟩
      have hmem : (k, e) ∈ (c.cache.store.set raw css).entries := by rwa [hstore]
      exact (Cache.Store.mem_set hmem).imp_right And.left

section

variable [Platform]

/-! ### What tokens come to -/

/-- What a token with its claim comes to under a renderer and a theme. -/
inductive Yields (renderer : Renderer) (theme : Theme) : ResolvedToken → Yield → Prop where
  | unclaimed {token : ClassToken} : Yields renderer theme ⟨token, none⟩ (.unclaimed token)
  | empty {token : ClassToken} {found : Match} {made : Option Declarations}
      (hmade : (found.generate theme).1 = .ok made) (hempty : made.getD [] = []) :
      Yields renderer theme ⟨token, some found⟩ (.empty token found.rule)
  | rendered {token : ClassToken} {found : Match} {declarations : Declarations}
      (hmade : (found.generate theme).1 = .ok (some declarations)) (hne : declarations ≠ []) :
      Yields renderer theme ⟨token, some found⟩
        (.rendered (renderer token (ResolvedToken.declared token declarations)))

variable {renderer : Renderer} {theme : Theme} {effects : Effects}

/-- A token comes to one thing only. -/
theorem Yields.unique {item : ResolvedToken} {yield yield' : Yield}
    (h : Yields renderer theme item yield) (h' : Yields renderer theme item yield') :
    yield = yield' := by
  cases h with
  | unclaimed =>
      cases h'
      rfl
  | empty hmade hempty =>
      cases h' with
      | empty => rfl
      | rendered hmade' hne =>
          cases hmade.symm.trans hmade'
          exact absurd hempty hne
  | rendered hmade hne =>
      cases h' with
      | empty hmade' hempty =>
          cases hmade.symm.trans hmade'
          exact absurd hempty hne
      | rendered hmade' =>
          cases hmade.symm.trans hmade'
          rfl

/-- **One token** that is rendered has one yield. -/
theorem yields_render {item : ResolvedToken} {rendering : ResolvedToken.Rendering}
    (h : item.render renderer theme = (.ok rendering, effects)) :
    ∃ yield, Yields renderer theme item yield ∧ effects.events = yield.events ∧
      ResolvedToken.findingsOf [rendering] = yield.findings ∧
      ResolvedToken.cssOf [rendering] = yield.rules := by
  obtain ⟨token, claim⟩ := item
  rw [ResolvedToken.render] at h
  cases claim with
  | none =>
      obtain ⟨hrendering, rfl⟩ := Prod.mk.inj h
      cases hrendering
      exact ⟨_, .unclaimed, rfl, rfl, rfl⟩
  | some found =>
      obtain ⟨hrendering, rfl⟩ := Prod.mk.inj h
      obtain ⟨made, hmade, rfl⟩ := exists_of_map_eq_ok hrendering
      rcases made with _ | _ | ⟨d, ds⟩
      · exact ⟨_, .empty hmade rfl, rfl, rfl, rfl⟩
      · exact ⟨_, .empty hmade rfl, rfl, rfl, rfl⟩
      · exact ⟨_, .rendered hmade (List.cons_ne_nil d ds), rfl, rfl, rfl⟩

/-- **Tokens** that are rendered have one yield each. -/
theorem yields_renderAll {items : List ResolvedToken}
    {renderings : List ResolvedToken.Rendering}
    (h : ResolvedToken.renderAll renderer theme items = (.ok renderings, effects)) :
    ∃ yields, List.Forall₂ (Yields renderer theme) items yields ∧
      effects.events = yields.flatMap Yield.events ∧
      ResolvedToken.findingsOf renderings = yields.flatMap Yield.findings ∧
      ResolvedToken.cssOf renderings = yields.flatMap Yield.rules := by
  induction items generalizing renderings effects with
  | nil =>
      cases h
      exact ⟨[], .nil, rfl, rfl, rfl⟩
  | cons item items ih =>
      rw [ResolvedToken.renderAll] at h
      split at h
      · cases h
      next rendering first hitem =>
          obtain ⟨hresult, rfl⟩ := Prod.mk.inj h
          obtain ⟨later, hlater, rfl⟩ := exists_of_map_eq_ok hresult
          obtain ⟨yield, hyield, hevents, hfindings, hrules⟩ := yields_render hitem
          obtain ⟨yields, hyields, hevents', hfindings', hrules'⟩ := ih (Prod.ext hlater rfl)
          refine ⟨yield :: yields, .cons hyield hyields, ?_, ?_, ?_⟩ <;> rw [List.flatMap_cons]
          · rw [← hevents, ← hevents']
            rfl
          · rw [← hfindings, ← hfindings']
            exact List.filterMap_append (l := [rendering])
          · rw [← hrules, ← hrules']
            exact List.filterMap_append (l := [rendering])

/-! ### Class strings -/

/-- What becomes of one class string: it is served from the cache, or missed there and resolved. -/
inductive Line where
  | hit (raw css : Text)
  | miss (raw : Text) (items : List ResolvedToken) (yields : List Yield)

namespace Line

def raw : Line → Text
  | .hit raw _ | .miss raw _ _ => raw

def events : Line → List Event
  | .hit raw _ => [.cacheHit raw]
  | .miss raw _ yields => .cacheMiss raw :: yields.flatMap Yield.events

def piece : Line → Piece
  | .hit _ css => { css }
  | .miss _ items yields =>
    ⟨Text.join ['\n'] (yields.flatMap Yield.rules), yields.flatMap Yield.findings, items⟩

/-- The line is true of a compiler: what is served is in the cache, and what is missed resolves to
the items, each of which comes to its yield. -/
def Holds (c : Compiler) : Line → Prop
  | .hit raw css =>
    ∃ e, (raw, e) ∈ c.cache.store.entries ∧ c.cache.store.isLive e = true ∧ e.value = css
  | .miss raw items yields =>
    (c.resolve raw).1 = .ok items ∧ List.Forall₂ (Yields c.renderer c.theme) items yields

end Line

variable {c after : Compiler} {raw : Text}

theorem SameInputs.resolve_fst {c' : Compiler} (hsame : SameInputs c c') (h : c.registry.Valid)
    (h' : c'.registry.Valid) (raw : Text) : (c'.resolve raw).1 = (c.resolve raw).1 := by
  have htokens : (c'.config.tokens raw).1 = (c.config.tokens raw).1 := by rw [hsame.config]
  rcases resolve_cases h raw with ⟨failure, effects, ht, hr⟩ |
      ⟨tokens, registry, effects, ht, hr, -⟩ <;>
    rcases resolve_cases h' raw with ⟨failure', effects', ht', hr'⟩ |
      ⟨tokens', registry', effects', ht', hr', -⟩ <;>
    rw [hr, hr'] <;> rw [ht, ht'] at htokens <;> cases htokens
  · rfl
  · rw [hsame.rules]

/-- A class string that is compiled anew is accounted for by the yields of its tokens. -/
theorem compileAnew_accounted (h : c.registry.Valid) {piece : Piece}
    (hnew : c.compileAnew raw = (.ok piece, after, effects)) :
    ∃ items yields, (c.resolve raw).1 = .ok items ∧
      List.Forall₂ (Yields c.renderer c.theme) items yields ∧
      piece = (Line.miss raw items yields).piece ∧
      effects.events = yields.flatMap Yield.events ∧
      Traced [raw] effects.events c.cache.store after.cache.store := by
  have hquiet : (c.resolve raw).2.2.events = [] := by
    rw [resolve]
    split <;> rfl
  rw [compileAnew] at hnew
  rcases resolve_cases h raw with ⟨failure, effects', -, hr⟩ |
      ⟨tokens, registry, effects', -, hr, -, -⟩
  · simp only [hr] at hnew
    cases hnew
  · simp only [hr] at hnew hquiet
    split at hnew
    · cases hnew
    next renderings more hrender =>
        obtain ⟨yields, hyields, hevents, hfindings, hrules⟩ := yields_renderAll hrender
        obtain ⟨entries, log, hkeep, hkept⟩ := keep_entries { c with registry } raw
          (Text.join ['\n'] (ResolvedToken.cssOf renderings))
        simp only [hkeep] at hnew
        obtain ⟨hpiece, hrest⟩ := Prod.mk.inj hnew
        obtain ⟨rfl, rfl⟩ := Prod.mk.inj hrest
        obtain ⟨-, -, rfl⟩ := exists_of_map_eq_ok hpiece
        have hall : (effects' ++ more ++ Effects.logged log).events =
            yields.flatMap Yield.events := by
          change (effects'.events ++ more.events) ++ [] = _
          rw [hquiet, List.append_nil, List.nil_append, hevents]
        refine ⟨_, yields, by rw [hr], hyields, ?_, hall, ?_, fun k e he => ?_⟩
        · rw [hfindings, hrules]
          rfl
        · rw [hall, count_events_yields (by decide), count_events_yields (by decide)]
          rfl
        · exact (hkept k e he).imp_right List.mem_singleton.2

/-- A line that is true after other class strings have been compiled was true before. -/
theorem Line.Holds.of_after {c' : Compiler} {line : Line} {keys : List Text} {events : List Event}
    (hline : line.Holds c') (hsame : SameInputs c c') (h : c.registry.Valid)
    (h' : c'.registry.Valid) (htraced : Traced keys events c.cache.store c'.cache.store)
    (hraw : line.raw ∉ keys) : line.Holds c := by
  cases line with
  | hit raw css =>
      obtain ⟨e, he, hlive, hvalue⟩ := hline
      rw [htraced.store] at hlive
      exact ⟨e, (htraced.entries raw e he).resolve_right hraw, hlive, hvalue⟩
  | miss raw items yields =>
      obtain ⟨hitems, hyields⟩ := hline
      rw [hsame.resolve_fst h h'] at hitems
      rw [hsame.renderer, hsame.theme] at hyields
      exact ⟨hitems, hyields⟩

/-- **One class string** has one line. -/
theorem compileString_accounted (h : c.registry.Valid) (henabled : c.cache.store.enabled = true)
    {piece : Piece} (hstep : c.compileString raw = (.ok piece, after, effects)) :
    ∃ line : Line, line.raw = raw ∧ line.Holds c ∧ effects.events = line.events ∧
      piece = line.piece ∧ Traced [raw] effects.events c.cache.store after.cache.store := by
  have htraced := traced_get henabled raw
  obtain ⟨css, hvalue, rfl, rfl, rfl⟩ | ⟨hvalue, later, hnew, rfl⟩ := compileString_eq_ok hstep
  · rw [hvalue] at htraced
    exact ⟨.hit raw css, rfl, Cache.Store.live_of_get_eq_some hvalue, rfl, rfl, htraced.store,
      fun k e he => (htraced.entries k e he).imp_right (absurd · List.not_mem_nil)⟩
  · rw [hvalue] at htraced
    obtain ⟨items, yields, hitems, hyields, rfl, hevents, hkept⟩ :=
      compileAnew_accounted (c := c.afterRead raw) h hnew
    rw [(sameInputs_afterRead c raw).resolve_fst h h] at hitems
    refine ⟨.miss raw items yields, rfl, ⟨hitems, hyields⟩, ?_, rfl, htraced.trans hkept⟩
    rw [Line.events, ← hevents]
    rfl

/-- Class strings are compiled one after the other, and each has come to its line. -/
inductive Entered : Compiler → List Line → Compiler → Prop where
  | nil (c : Compiler) : Entered c [] c
  | cons {c next after : Compiler} {line : Line} {ledger : List Line} {effects : Effects}
      (hstep : c.compileString line.raw = (.ok line.piece, next, effects))
      (hevents : effects.events = line.events) (hrest : Entered next ledger after) :
      Entered c (line :: ledger) after

/-- **Class strings** one after the other have one line each. -/
theorem compileStrings_accounted (h : c.registry.Valid)
    (henabled : c.cache.store.enabled = true) {raws : List Text} (hnodup : raws.Nodup)
    {pieces : List Piece} (hstep : c.compileStrings raws = (.ok pieces, after, effects)) :
    ∃ ledger : List Line, ledger.map Line.raw = raws ∧ (∀ line ∈ ledger, line.Holds c) ∧
      effects.events = ledger.flatMap Line.events ∧ pieces = ledger.map Line.piece ∧
      Traced raws effects.events c.cache.store after.cache.store ∧ Entered c ledger after := by
  induction raws generalizing c pieces effects with
  | nil =>
      cases hstep
      exact ⟨[], rfl, nofun, rfl, rfl, .refl _, .nil _⟩
  | cons raw rest ih =>
      obtain ⟨hfresh, hrest⟩ := List.nodup_cons.1 hnodup
      obtain ⟨piece, next, first, later, last, hfirst, hlater, rfl, rfl⟩ :=
        compileStrings_cons_eq_ok hstep
      obtain ⟨hsame, hvalid⟩ := sameInputs_compileString h raw
      rw [hfirst] at hsame hvalid
      obtain ⟨line, hraw, hline, hevents, rfl, htraced⟩ :=
        compileString_accounted h henabled hfirst
      have henabled' : next.cache.store.enabled = true := by
        rw [htraced.store]
        exact henabled
      obtain ⟨ledger, hraws, hledger, hevents', rfl, htraced', hentered⟩ :=
        ih hvalid henabled' hrest hlater
      rw [← hraw] at hfirst
      refine ⟨line :: ledger, ?_, ?_, ?_, rfl, htraced.trans htraced',
        .cons hfirst hevents hentered⟩
      · rw [List.map_cons, hraw, hraws]
      · intro line' hline'
        rcases List.mem_cons.1 hline' with rfl | hmem
        · exact hline
        · -- another class string, so what the first one has put in the cache does not matter
          have hne : line'.raw ∉ [raw] := by
            intro heq
            have hmem' := List.mem_map_of_mem (f := Line.raw) hmem
            rw [List.mem_singleton.1 heq, hraws] at hmem'
            exact hfresh hmem'
          exact (hledger line' hmem).of_after hsame h hvalid htraced hne
      · rw [List.flatMap_cons, ← hevents, ← hevents']
        rfl

/-! ### Tokens that no rule claims -/

theorem Yields.announced {item : ResolvedToken} {yield : Yield}
    (h : Yields renderer theme item yield) (hne : item.token.original ≠ []) :
    Announced yield.findings yield.events := by
  cases h with
  | @unclaimed token =>
      have htoken : (ResolvedToken.unresolved token).token ≠ some [] := fun heq =>
        hne (Option.some.inj heq)
      have hlisted : ((ResolvedToken.unresolved token).code == "unresolved".toList &&
          (ResolvedToken.unresolved token).token != some []) = true := by
        rw [bne_iff_ne.2 htoken, Bool.and_true]
        exact beq_self_eq_true "unresolved".toList
      exact List.filterMap_cons_some (if_pos hlisted)
  | @empty token found made =>
      have hcode : ((ResolvedToken.empty token found.rule).code == "unresolved".toList) = false :=
        show ("empty".toList == "unresolved".toList) = false by decide
      exact List.filterMap_cons_none (if_neg (by rw [hcode]; exact Bool.false_ne_true))
  | rendered => rfl

theorem announced_of_yields {items : List ResolvedToken} {yields : List Yield}
    (h : List.Forall₂ (Yields renderer theme) items yields)
    (hne : ∀ item ∈ items, item.token.original ≠ []) :
    Announced (yields.flatMap Yield.findings) (yields.flatMap Yield.events) := by
  induction h with
  | nil => rfl
  | @cons item yield items yields hyield hyields ih =>
      rw [List.flatMap_cons, List.flatMap_cons]
      exact (hyield.announced (hne item List.mem_cons_self)).append
        (ih fun item hitem => hne item (List.mem_cons_of_mem _ hitem))

theorem Line.Holds.announced {line : Line} (hline : line.Holds c) (h : c.registry.Valid) :
    Announced line.piece.diagnostics line.events := by
  cases line with
  | hit raw css => rfl
  | miss raw items yields =>
      obtain ⟨hitems, hyields⟩ := hline
      refine announced_of_yields hyields fun item hitem => ?_
      rcases resolve_cases h raw with ⟨failure, effects, -, hr⟩ |
          ⟨tokens, registry, effects, ht, hr, -⟩ <;> rw [hr] at hitems <;> cases hitems
      obtain ⟨token, htoken, rfl⟩ := List.mem_map.1 hitem
      exact original_ne_nil ht htoken

theorem announced_of_holds (h : c.registry.Valid) {ledger : List Line}
    (hledger : ∀ line ∈ ledger, line.Holds c) :
    Announced (ledger.flatMap (·.piece.diagnostics)) (ledger.flatMap Line.events) := by
  induction ledger with
  | nil => rfl
  | cons line ledger ih =>
      rw [List.flatMap_cons, List.flatMap_cons]
      exact ((hledger line List.mem_cons_self).announced h).append
        (ih fun line' hline' => hledger line' (List.mem_cons_of_mem _ hline'))

/-! ### Compilations -/

/-- The ledger accounts for a compilation of class strings. -/
structure Accounts (ledger : List Line) (c : Compiler) (classes : List Text) (result : Compilation)
    (after : Compiler) (effects : Effects) : Prop where
  /-- There is one line for every class string that is not blocked, in the order in which they first
  occur. -/
  raws : ledger.map Line.raw = classes.eraseDups.filter fun raw => ¬ c.Blocked raw
  holds : ∀ line ∈ ledger, line.Holds c
  events : effects.events =
    ledger.flatMap Line.events ++ [.cssGenerated (ledger.map Line.raw) result.css]
  /-- The style sheet has every piece once that is not empty. -/
  css : result.css =
    Text.join ['\n'] ((ledger.map (·.piece.css)).filter (!·.isEmpty)).eraseDups
  diagnostics : result.diagnostics = ledger.flatMap (·.piece.diagnostics)
  resolved : result.resolved = ledger.flatMap (·.piece.resolved)
  unresolved : result.unresolved = effects.unclaimed
  hits : after.cache.store.hits =
    c.cache.store.hits + (effects.events.map Event.kind).count .cacheHit
  misses : after.cache.store.misses =
    c.cache.store.misses + (effects.events.map Event.kind).count .cacheMiss

/-- Class strings that have come to the lines of a ledger are accounted for by it. -/
theorem accounts_of_compileStrings (h : c.registry.Valid) {classes : List Text}
    {ledger : List Line} (hraws : ledger.map Line.raw = c.selected classes)
    (hledger : ∀ line ∈ ledger, line.Holds c)
    (hevents : effects.events = ledger.flatMap Line.events)
    (htraced : Traced (c.selected classes) effects.events c.cache.store after.cache.store) :
    Accounts ledger c classes (assemble (ledger.map Line.piece)) after
      (effects ++ .event (.cssGenerated (c.selected classes)
        (assemble (ledger.map Line.piece)).css)) := by
  have hcss : (assemble (ledger.map Line.piece)).css =
      Text.join ['\n'] ((ledger.map (·.piece.css)).filter (!·.isEmpty)).eraseDups := by
    rw [assemble, distinct_eq_eraseDups, List.map_map]
    rfl
  have hdiagnostics : (assemble (ledger.map Line.piece)).diagnostics =
      ledger.flatMap (·.piece.diagnostics) :=
    List.flatMap_map ..
  have hannounced := (announced_of_holds h hledger).append
    (announced_generated (c.selected classes) (assemble (ledger.map Line.piece)).css)
  have hlast := htraced.trans (.generated after.cache.store (c.selected classes)
    (assemble (ledger.map Line.piece)).css)
  refine ⟨?_, hledger, ?_, hcss, hdiagnostics, ?_, ?_,
    congrArg Cache.Store.hits hlast.store, congrArg Cache.Store.misses hlast.store⟩
  · rw [hraws, selected_eq]
  · rw [hraws, ← hevents]
    rfl
  · exact List.flatMap_map ..
  · rw [List.append_nil, ← hdiagnostics, ← hevents] at hannounced
    exact hannounced

/-- **Compiling** has a ledger that accounts for it and that its class strings have come to. -/
theorem compile_entered (h : c.registry.Valid) (henabled : c.cache.store.enabled = true)
    {classes : List Text} {result : Compilation}
    (hresult : c.compile classes = (.ok result, after, effects)) :
    ∃ ledger, Accounts ledger c classes result after effects ∧ Entered c ledger after := by
  unfold compile at hresult
  dsimp only at hresult
  split at hresult
  · cases hresult
  next pieces next effects' hpieces =>
      cases hresult
      obtain ⟨ledger, hraws, hledger, hevents, rfl, htraced, hentered⟩ :=
        compileStrings_accounted h henabled (c.nodup_selected classes) hpieces
      exact ⟨ledger, accounts_of_compileStrings h hraws hledger hevents htraced, hentered⟩

/-- **The account of a compilation.**  Let a compiler with a cache be created and put to any
operations, failing ones among them.  If a compilation then gives a result, a ledger accounts for
it. -/
theorem compile_accounted {config : Config} {renderer : Renderer} {theme : Theme}
    {rules : List Rule} {c : Compiler} {log : Log}
    (hcreate : create config renderer theme rules = (.ok c, log)) (ops : List Op)
    (henabled : (c.run ops).cache.store.enabled = true) {classes : List Text}
    {result : Compilation} {after : Compiler} {effects : Effects}
    (hresult : (c.run ops).compile classes = (.ok result, after, effects)) :
    ∃ ledger, Accounts ledger (c.run ops) classes result after effects := by
  obtain ⟨ledger, haccounts, -⟩ :=
    compile_entered (valid_run (valid_of_create hcreate) ops) henabled hresult
  exact ⟨ledger, haccounts⟩

end

/-- One class string is served, and one is missed whose tokens come to a rule of the style sheet, to
no declarations and to no claim. -/
theorem compile_accounted_mixed :
    ∃ c log result after effects,
      create {} bareRenderer (spacingTheme "2rem") [spacingRule "padding"] = (.ok c, log) ∧
      (c.run [.compile ["p-lg".toList]]).cache.store.enabled = true ∧
      (c.run [.compile ["p-lg".toList]]).compile ["p-lg".toList, "-p-lg p-xl nope".toList] =
        (.ok result, after, effects) ∧
      effects.events = [.cacheHit "p-lg".toList, .cacheMiss "-p-lg p-xl nope".toList,
        .tokenUnresolved "nope".toList "nope".toList,
        .cssGenerated ["p-lg".toList, "-p-lg p-xl nope".toList]
          "padding:2rem\npadding:-2rem".toList] ∧
      result.diagnostics.map (·.code) = ["empty".toList, "unresolved".toList] ∧
      ∃ ledger, Accounts ledger (c.run [.compile ["p-lg".toList]])
        ["p-lg".toList, "-p-lg p-xl nope".toList] result after effects := by
  have hpasses : passes
      (fun c _ => passes
        (fun result rest => decide ((c.run [.compile ["p-lg".toList]]).cache.store.enabled = true ∧
          rest.2.events = [.cacheHit "p-lg".toList, .cacheMiss "-p-lg p-xl nope".toList,
            .tokenUnresolved "nope".toList "nope".toList,
            .cssGenerated ["p-lg".toList, "-p-lg p-xl nope".toList]
              "padding:2rem\npadding:-2rem".toList] ∧
          result.diagnostics.map (·.code) = ["empty".toList, "unresolved".toList]))
        ((c.run [.compile ["p-lg".toList]]).compile
          ["p-lg".toList, "-p-lg p-xl nope".toList]))
      (create {} bareRenderer (spacingTheme "2rem") [spacingRule "padding"]) = true := by
    decide +kernel
  obtain ⟨c, log, hcreate, hpasses⟩ := exists_of_passes hpasses
  obtain ⟨result, ⟨after, effects⟩, hresult, hpasses⟩ := exists_of_passes hpasses
  obtain ⟨henabled, hevents, hcodes⟩ := of_decide_eq_true hpasses
  exact ⟨c, log, result, after, effects, hcreate, henabled, hresult, hevents, hcodes,
    compile_accounted hcreate [.compile ["p-lg".toList]] henabled hresult⟩

end Compiler

end UtilityCss

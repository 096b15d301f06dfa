import UtilityCss.Compiler.Basic
import UtilityCss.Proofs.Registry.Lookup

/-!
# Compilers — the style sheet of a class string

`Compiler.sheet` is what a class string comes to from the configuration, the renderer, the theme and
the rules alone: its tokens are read, each is looked up among the rules, and what they come to is
rendered.  A compiler goes through the memo and the index of its registry instead;
`compileAnew_cases` says that this makes no difference, and what compiling changes: the registry
learns, and the style sheet, if there is one, is kept in the cache.
-/

namespace UtilityCss

namespace Compiler

/-- Tokens with what the rules alone answer for their utilities. -/
def resolved (rules : List CompiledRule) (tokens : List ClassToken) : List ResolvedToken :=
  tokens.map fun token => ⟨token, Registry.choose rules token.utility⟩

variable [Platform]

/-- The style sheet of a class string, from the rules alone. -/
def sheet (config : Config) (renderer : Renderer) (theme : Theme) (rules : List CompiledRule)
    (raw : Text) : Outcome Text :=
  match (config.tokens raw).1 with
  | .error failure => .error failure
  | .ok tokens =>
    match (ResolvedToken.renderAll renderer theme (resolved rules tokens)).1 with
    | .error failure => .error failure
    | .ok renderings => .ok (Text.join ['\n'] (ResolvedToken.cssOf renderings))

end Compiler

namespace Registry

variable [Platform]

/-- Looking tokens up gives what the rules alone give, and leaves the rules as they are. -/
theorem Valid.resolve {r : Registry} (h : Valid r) (tokens : List ClassToken) :
    ∃ registry log, r.resolve tokens = (Compiler.resolved r.rules tokens, registry, log) ∧
      registry.rules = r.rules ∧ registry.strict = r.strict ∧ Valid registry := by
  induction tokens generalizing r with
  | nil => exact ⟨r, [], rfl, rfl, rfl, h⟩
  | cons token rest ih =>
      obtain ⟨hanswer, hrules, hstrict, hvalid⟩ := h.claim token.utility
      obtain ⟨registry, log, hrest, hrules', hstrict', hvalid'⟩ := ih hvalid
      refine ⟨registry, (r.claim token.utility).2.2 ++ log, ?_, hrules'.trans hrules,
        hstrict'.trans hstrict, hvalid'⟩
      rw [hrules] at hrest
      simp only [Registry.resolve, hrest, hanswer]
      rfl

end Registry

namespace Compiler

/-- Two compilers that differ only in what they have learned and kept: in the memo and the index of
the registry, and in the cache. -/
structure SameInputs (c c' : Compiler) : Prop where
  config : c'.config = c.config
  renderer : c'.renderer = c.renderer
  theme : c'.theme = c.theme
  generation : c'.generation = c.generation
  rules : c'.registry.rules = c.registry.rules

theorem SameInputs.refl (c : Compiler) : SameInputs c c :=
  ⟨rfl, rfl, rfl, rfl, rfl⟩

theorem SameInputs.trans {c c' c'' : Compiler} (h : SameInputs c c') (h' : SameInputs c' c'') :
    SameInputs c c'' :=
  ⟨h'.config.trans h.config, h'.renderer.trans h.renderer, h'.theme.trans h.theme,
    h'.generation.trans h.generation, h'.rules.trans h.rules⟩

variable [Platform]

/-- The style sheet of a class string under the inputs of a compiler. -/
def sheetOf (c : Compiler) (raw : Text) : Outcome Text :=
  sheet c.config c.renderer c.theme c.registry.rules raw

theorem SameInputs.sheetOf {c c' : Compiler} (h : SameInputs c c') (raw : Text) :
    c'.sheetOf raw = c.sheetOf raw := by
  simp only [Compiler.sheetOf]
  rw [h.config, h.renderer, h.theme, h.rules]

/-- Resolving a class string fails if its tokens cannot be read, and otherwise gives what the rules
alone give; only the registry learns. -/
theorem resolve_cases {c : Compiler} (h : c.registry.Valid) (text : Text) :
    (∃ failure effects, (c.config.tokens text).1 = .error failure ∧
      c.resolve text = (.error failure, c, effects)) ∨
    ∃ tokens registry effects, (c.config.tokens text).1 = .ok tokens ∧
      c.resolve text = (.ok (resolved c.registry.rules tokens), { c with registry }, effects) ∧
      registry.rules = c.registry.rules ∧ registry.Valid := by
  rw [resolve]
  cases ht : c.config.tokens text with
  | mk result log =>
      cases result with
      | error failure => exact .inl ⟨failure, _, rfl, rfl⟩
      | ok tokens =>
          obtain ⟨registry, later, hresolve, hrules, -, hvalid⟩ := h.resolve tokens
          exact .inr ⟨tokens, registry, .logged (log ++ later), rfl, by simp only [hresolve],
            hrules, hvalid⟩

/-- **Compiling without the cache.**  It fails as the style sheet does, or makes the style sheet and
keeps it; besides, only the registry learns. -/
theorem compileAnew_cases {c : Compiler} (h : c.registry.Valid) (raw : Text) :
    ∃ registry effects, registry.rules = c.registry.rules ∧ registry.Valid ∧
      ((∃ failure, c.sheetOf raw = .error failure ∧
        c.compileAnew raw = (.error failure, { c with registry }, effects)) ∨
      ∃ piece : Piece, c.sheetOf raw = .ok piece.css ∧
        c.compileAnew raw =
          ((({ c with registry } : Compiler).keep raw piece.css).1.map fun _ => piece,
            (({ c with registry } : Compiler).keep raw piece.css).2.1, effects)) := by
  rw [compileAnew, sheetOf, sheet]
  rcases resolve_cases h raw with ⟨failure, effects, ht, hr⟩ |
      ⟨tokens, registry, effects, ht, hr, hrules, hvalid⟩
  · exact ⟨c.registry, effects, rfl, h, .inl ⟨failure, by rw [ht], by rw [hr]⟩⟩
  · simp only [ht, hr]
    cases hrender :
      ResolvedToken.renderAll c.renderer c.theme (resolved c.registry.rules tokens) with
    | mk result more =>
        cases result with
        | error failure =>
            exact ⟨registry, effects ++ more, hrules, hvalid, .inl ⟨failure, rfl, rfl⟩⟩
        | ok renderings =>
            let piece : Piece := ⟨Text.join ['\n'] (ResolvedToken.cssOf renderings),
              ResolvedToken.findingsOf renderings, resolved c.registry.rules tokens⟩
            exact ⟨registry, _, hrules, hvalid, .inr ⟨piece, rfl, rfl⟩⟩

end Compiler

end UtilityCss

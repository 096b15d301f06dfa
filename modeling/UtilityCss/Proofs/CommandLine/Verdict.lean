import UtilityCss.CommandLine.Basic
import UtilityCss.Proofs.Compiler.Fresh

/-!
# Command line — the verdict of a strict compilation

`compile --strict` is a check: its exit code says whether there is a token in the class lists that
no rule claims.

**The verdict** (`exit_compile_strict`).  If the compilation gives a result, the exit code is one if
some piece of the class lists that is not blocked has a token that no rule claims, and zero
otherwise.  The settings of the cache do not matter for it, but that the lifetime has to be a number
if it is shown.  Nor does it matter how often a piece is given: the compiler has just been created,
so none is served from the cache (`Compiler.unresolved_of_unlisted`).
-/

namespace UtilityCss.CommandLine

variable {files : Text → Document.File} {name err : Text} {line : List Text} {i : Invocation}
  {c after : Compiler} {result : Compilation}

/-! ### The compilation -/

/-- The exit code of a compilation is one if it is strict and there are unresolved tokens, unless
the counts of the cache cannot be shown. -/
theorem exit_showCompilation
    (hstats : i.has "--stats" = true → (Cache.lifetimeOf c.cache.lifetime).isOk = true) :
    (showCompilation i c result err).exit =
      if i.has "--strict" && !result.unresolved.isEmpty then 1 else 0 := by
  rw [showCompilation]
  dsimp only
  split
  next hshown =>
      rw [Cache.stats]
      cases hlifetime : Cache.lifetimeOf c.cache.lifetime with
      | error misuse =>
          have hok := hstats hshown
          rw [hlifetime] at hok
          cases hok
      | ok lifetime => rfl
  next => rfl

/-- A piece of the class lists has a token that no rule claims, and is not blocked. -/
def FindsUnclaimed (c : Compiler) (i : Invocation) : Prop :=
  ∃ argument ∈ i.arguments, ∃ piece ∈ ClassList.splitList argument,
    ¬ c.Blocked piece ∧ ∃ token, c.Unclaimed piece token

section

variable [Platform]

/-- The first compilation of a compiler leaves tokens unresolved if no rule claims them. -/
theorem unresolved_ne_nil_iff {config : Config} {renderer : Renderer} {theme : Theme}
    {rules : List Rule} {log : Log} {effects : Effects}
    (hcreate : Compiler.create config renderer theme rules = (.ok c, log))
    (hresult : c.compile (i.arguments.flatMap ClassList.splitList) = (.ok result, after, effects)) :
    result.unresolved ≠ [] ↔ FindsUnclaimed c i := by
  have hvalid := Compiler.valid_of_create hcreate
  have hnone : ∀ raw ∈ i.arguments.flatMap ClassList.splitList, raw ∉ c.cache.store.keys := by
    intro raw _
    rw [(Compiler.cache_of_create hcreate).1]
    exact List.not_mem_nil
  have hmem : ∀ token, token ∈ result.unresolved ↔ ∃ piece,
      ((∃ argument ∈ i.arguments, piece ∈ ClassList.splitList argument) ∧ ¬ c.Blocked piece) ∧
        c.Unclaimed piece token := by
    intro token
    rw [Compiler.unresolved_of_unlisted hvalid hnone hresult]
    simp only [List.mem_flatMap, List.mem_filter, List.mem_eraseDups, decide_eq_true_eq,
      Compiler.mem_unclaimed]
  constructor
  · intro hne
    obtain ⟨token, htoken⟩ := List.exists_mem_of_ne_nil _ hne
    obtain ⟨piece, ⟨⟨argument, hargument, hpiece⟩, hblocked⟩, hunclaimed⟩ := (hmem token).1 htoken
    exact ⟨argument, hargument, piece, hpiece, hblocked, token, hunclaimed⟩
  · rintro ⟨argument, hargument, piece, hpiece, hblocked, token, hunclaimed⟩
    have htoken : token ∈ result.unresolved :=
      (hmem token).2 ⟨piece, ⟨⟨argument, hargument, hpiece⟩, hblocked⟩, hunclaimed⟩
    exact List.ne_nil_of_mem htoken

/-! ### Commands -/

/-- **A command** is run by its name. -/
theorem runWith_of_commandOf? {reader : Reader} {spec : CommandSpec} {command : Invocation → Output}
    (hname : Text.startsWith name ['-'] = false)
    (hcommand : commandOf? files name = some (spec, command))
    (hline : reader.read (present files) spec line = .ok i) :
    runWith reader files (name :: line) = command i := by
  have hversion : Invocation.has ⟨name :: line, []⟩ "--version" = false := rfl
  rw [runWith, reader.read_program _ hname]
  simp only [hversion, Bool.false_eq_true, if_false, hcommand]
  rw [runCommand, hline]

/-! ### The verdict -/

/-- **The verdict.** Let a command line of `compile` with `--strict` be read, by any reader, let
the compiler be created from its rule document and let it compile the pieces of its class lists.
The run exits with one if a piece that is not blocked has a token that no rule claims, and with
zero otherwise. -/
theorem exit_compile_strict {reader : Reader} {files : Text → Document.File}
    {line : List Text} {i : Invocation} {document : Document} {c after : Compiler} {log : Log}
    {result : Compilation} {effects : Effects}
    (hline : reader.read (present files) compileSpec line = .ok i)
    (hstrict : i.has "--strict" = true) (hdocument : documentOf files i = .ok document)
    (hstats : i.has "--stats" = true →
      (Cache.lifetimeOf (configWith document.config i).cache.lifetime).isOk = true)
    (hcreate : Compiler.create (configWith document.config i) Selector.render document.theme
      document.rules = (.ok c, log))
    (hresult : c.compile (i.arguments.flatMap ClassList.splitList) = (.ok result, after, effects)) :
    ((runWith reader files ("compile".toList :: line)).exit = 1 ↔ FindsUnclaimed c i) ∧
    ((runWith reader files ("compile".toList :: line)).exit = 0 ↔ ¬ FindsUnclaimed c i) := by
  have hrun : runWith reader files ("compile".toList :: line) = showCompilation i after result
      (logText (i.has "--verbose") (log ++ effects.log)) := by
    rw [runWith_of_commandOf? rfl rfl hline, runCompile]
    simp only [hdocument, hcreate, hresult]
  have hlifetime : after.cache.lifetime = (configWith document.config i).cache.lifetime := by
    have hkept := Compiler.sameSettings_compile (Compiler.valid_of_create hcreate)
      (i.arguments.flatMap ClassList.splitList)
    rw [hresult] at hkept
    exact ((Compiler.cache_of_create hcreate).2.trans hkept).lifetime
  rw [← hlifetime] at hstats
  rw [hrun, exit_showCompilation hstats, hstrict, ← unresolved_ne_nil_iff hcreate hresult]
  by_cases hnil : result.unresolved = [] <;> simp [hnil]

end

/-- A rule document with a rule for `p-4` that blocks one piece. -/
def paddingFile : Text → Document.File
  | ['r'] =>
    .text ("\x7b\"rules\":[\x7b\"pattern\":\"p-4\",".toList ++
      "\"properties\":\x7b\"padding\":\"1rem\"\x7d\x7d],".toList ++
      "\"config\":\x7b\"blocklist\":[\"m-1\"]\x7d\x7d".toList)
  | _ => .missing

/-- Class lists that are compiled with room for a single style sheet. -/
def strictLine : List Text :=
  ["--strict".toList, "--rules".toList, "r".toList, "--max-size".toList, "1".toList,
    "--stats".toList, "p-4 hover:(p-4 m-2)".toList, "m-1 p-4 hover:(p-4 m-2)".toList]

def strictInvocation : Invocation :=
  ⟨["p-4 hover:(p-4 m-2)".toList, "m-1 p-4 hover:(p-4 m-2)".toList],
    [("--strict".toList, .flag), ("--rules".toList, .path "r".toList),
      ("--max-size".toList, .integer 1), ("--stats".toList, .flag)]⟩

theorem exit_compile_strict_repeated :
    ∃ document c log result after effects,
      plainReader.read (present paddingFile) compileSpec strictLine = .ok strictInvocation ∧
      strictInvocation.has "--strict" = true ∧ strictInvocation.has "--stats" = true ∧
      documentOf paddingFile strictInvocation = .ok document ∧
      (Cache.lifetimeOf (configWith document.config strictInvocation).cache.lifetime).isOk = true ∧
      Compiler.create (configWith document.config strictInvocation) Selector.render document.theme
        document.rules = (.ok c, log) ∧
      c.compile (strictInvocation.arguments.flatMap ClassList.splitList) =
        (.ok result, after, effects) ∧
      FindsUnclaimed c strictInvocation ∧
      (run paddingFile ("compile".toList :: strictLine)).exit = 1 := by
  have hpasses : Compiler.passes (fun document _ => Compiler.passes
        (fun c _ => Compiler.passes
          (fun _ _ => decide (¬ c.Blocked "hover:(p-4 m-2)".toList ∧
            c.Unclaimed "hover:(p-4 m-2)".toList "hover:m-2".toList ∧
            (Cache.lifetimeOf
              (configWith document.config strictInvocation).cache.lifetime).isOk = true))
          (c.compile (strictInvocation.arguments.flatMap ClassList.splitList)))
        (Compiler.create (configWith document.config strictInvocation) Selector.render
          document.theme document.rules))
      (documentOf paddingFile strictInvocation, ()) = true := by
    decide +kernel
  obtain ⟨document, ⟨⟩, hread, hpasses⟩ := Compiler.exists_of_passes hpasses
  obtain ⟨c, log, hcreate, hpasses⟩ := Compiler.exists_of_passes hpasses
  obtain ⟨result, ⟨after, effects⟩, hresult, hpasses⟩ := Compiler.exists_of_passes hpasses
  obtain ⟨hblocked, hunclaimed, hstats⟩ := of_decide_eq_true hpasses
  have hline : plainReader.read (present paddingFile) compileSpec strictLine =
      .ok strictInvocation := by
    rfl
  have hstrict : strictInvocation.has "--strict" = true := by
    decide
  have hdocument : documentOf paddingFile strictInvocation = .ok document :=
    (Prod.mk.inj hread).1
  have hpiece : "hover:(p-4 m-2)".toList ∈ ClassList.splitList "p-4 hover:(p-4 m-2)".toList := by
    decide +kernel
  have hfinds : FindsUnclaimed c strictInvocation :=
    ⟨_, List.mem_cons_self, _, hpiece, hblocked, _, hunclaimed⟩
  have hverdict := exit_compile_strict hline hstrict hdocument (fun _ => hstats) hcreate hresult
  exact ⟨document, c, log, result, after, effects, hline, hstrict, rfl, hdocument, hstats, hcreate,
    hresult, hfinds, hverdict.1.2 hfinds⟩

end UtilityCss.CommandLine

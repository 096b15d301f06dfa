import UtilityCss.CommandLine.Usage
import UtilityCss.Compiler.Basic
import UtilityCss.Document.Basic
import UtilityCss.Platform.Plain

/-!
# Command line — the commands

`expand` and `parse` show how a class list is read, `match` shows which rule claims a utility, and
`compile` makes a style sheet of class lists with the rules of a document.

A run is a function of the command line and the files: it gives the exit code and what is printed.
How the command line of a command is read is a parameter (`Reader`); the program has a reader of its
own (`plainReader`).
-/

namespace UtilityCss.CommandLine

/-- What a run gives. -/
structure Output where
  exit : Nat := 0
  out : Text := []
  err : Text := []
  /-- The misuse that has ended the run, if one has. -/
  misuse : Option Misuse := none
  deriving DecidableEq, Repr

/-- The name of the program. -/
def program : Text := "classcraft".toList

/-- The version of the program. -/
def version : Text := "0.1.0".toList

/-! ### The commands and their options -/

/-- The option for the rule document. -/
def rulesOption : OptionSpec := { name := "--rules".toList, kind := .path, required := true }

/-- A flag. -/
def flagOption (name : String) (letter : Option Char := none) : OptionSpec :=
  { name := name.toList, kind := .flag, letter }

/-- `expand`. -/
def expandSpec : CommandSpec := { name := "expand".toList, argument := some "TEXT".toList }

/-- `parse`. -/
def parseSpec : CommandSpec :=
  { name := "parse".toList, argument := some "TEXT".toList, options := [flagOption "--no-groups"] }

/-- `match`. -/
def matchSpec : CommandSpec :=
  { name := "match".toList, argument := some "UTILITY".toList, options := [rulesOption] }

/-- `compile`. -/
def compileSpec : CommandSpec :=
  { name := "compile".toList, argument := some "CLASSES...".toList, many := true,
    options := [rulesOption, { name := "--max-size".toList, kind := .integer },
      { name := "--ttl".toList, kind := .decimal }, flagOption "--strict", flagOption "--stats",
      flagOption "--verbose" (some 'v')] }

/-- The program itself, whose arguments are a command and its arguments. -/
def programSpec : CommandSpec :=
  { name := [], argument := none, options := [flagOption "--version"], argumentsLast := true }

/-- The command line of a command up to its arguments, as it is called. -/
def commandPath (spec : CommandSpec) : Text :=
  if spec.name.isEmpty then program else program ++ ' ' :: spec.name

/-- How a command is called. -/
def usage (spec : CommandSpec) : Text :=
  "Usage: ".toList ++ commandPath spec ++ " [OPTIONS] ".toList ++
    spec.argument.getD "COMMAND [ARGS]...".toList

/-- What a line is that ends. -/
def line (t : Text) : Text := t ++ ['\n']

/-- What is printed for a command line that cannot be used. -/
def refuse (spec : CommandSpec) (problem : Problem) : Output :=
  let error := line ("Error: ".toList ++ problem.message)
  let hint := line (usage spec) ++ line ("Try '".toList ++ commandPath spec ++
    " --help' for help.".toList) ++ ['\n']
  { exit := 2, err := if problem.showsUsage then hint ++ error else error }

/-! ### Readers -/

/-- What reads command lines.  It gives the invocation of a command, or the output of a run that
ends there, be it for a problem or for a page of help. -/
structure Reader where
  read : (Text → Bool) → CommandSpec → List Text → Except Output Invocation
  /-- The program takes the name of a command and all that follows it as arguments. -/
  read_program (pathExists : Text → Bool) {name : Text} (hname : name.startsWith ['-'] = false)
    (line : List Text) :
    read pathExists programSpec (name :: line) = .ok ⟨name :: line, []⟩

/-- Where options have ended, everything is an argument. -/
theorem foldlM_step_of_ended (spec : CommandSpec) {g : Given} (hpending : g.pending = none)
    (hended : g.ended = true) (line : List Text) :
    line.foldlM (Given.step spec) g = .ok { g with arguments := line.reverse ++ g.arguments } := by
  induction line generalizing g with
  | nil => rfl
  | cons argument line ih =>
      have hstep : Given.step spec g argument =
          .ok { g with arguments := argument :: g.arguments } := by
        simp [Given.step, hpending, hended]
      rw [List.foldlM_cons, hstep]
      refine (ih (g := { g with arguments := argument :: g.arguments }) hpending hended).trans ?_
      simp

/-- The program takes the name of a command and all that follows it as arguments. -/
theorem readInvocation_program (pathExists : Text → Bool) {name : Text}
    (hname : name.startsWith ['-'] = false) (line : List Text) :
    readInvocation pathExists programSpec (name :: line) = .ok ⟨name :: line, []⟩ := by
  have hfirst : Given.step programSpec {} name = .ok { arguments := [name], ended := true } := by
    have hends : (name == ['-', '-']) = false := by
      rw [beq_eq_false_iff_ne]
      rintro rfl
      cases hname
    simp [Given.step, hends, hname, programSpec]
  have hread : Given.read programSpec (name :: line) =
      .ok { arguments := line.reverse ++ [name], ended := true } := by
    rw [Given.read, List.foldlM_cons, hfirst]
    simp [foldlM_step_of_ended, pure, Except.pure, bind, Except.bind]
  have hreverse : (line.reverse ++ [name]).reverse = name :: line := by simp
  rw [readInvocation, hread]
  change (Except.ok ⟨(line.reverse ++ [name]).reverse, []⟩ : Except Problem Invocation) = _
  rw [hreverse]

/-- The reader of the program: it knows no pages of help. -/
def plainReader : Reader where
  read pathExists spec line := (readInvocation pathExists spec line).mapError (refuse spec)
  read_program pathExists _ hname line := by rw [readInvocation_program pathExists hname]; rfl

/-! ### The log -/

/-- The name of an area in the log. -/
def areaName : Log.Area → Text
  | .classToken => program ++ ".parser.classes".toList
  | .classList => program ++ ".parser.groups".toList
  | .template => program ++ ".handlers.template".toList
  | .registry => program ++ ".matcher.matcher".toList
  | .cache => program ++ ".cache.css_cache".toList
  | .compiler => program ++ ".compiler".toList

/-- The word for a level. -/
def levelWord : Log.Level → Text
  | .debug => "DEBUG".toList
  | .warning => "WARNING".toList

/-- What is printed of a message: all of it with its area, or the bare words of a warning. -/
def logLine (verbose : Bool) (e : Log.Entry) : Text :=
  if verbose then
    line (levelWord e.level ++ ' ' :: areaName e.area ++ ':' :: ' ' :: e.message)
  else if e.level == .warning then line e.message
  else []

/-- What is printed of the log. -/
def logText (verbose : Bool) (log : Log) : Text :=
  log.flatMap (logLine verbose)

/-! ### Runs -/

/-- What is printed for a failure, after what has been printed before. -/
def fail (err : Text) : Failure → Output
  | .misuse misuse => { exit := 1, err, misuse := some misuse }
  | failure => { exit := 2, err := err ++ line ("Rule error: ".toList ++ failure.message) }

/-- The tokens of a class list, and what is reported about them. -/
def tokensOf (groups : Bool) (text : Text) : List ClassToken × Log :=
  let config : Config := { groups := .bool groups }
  match config.tokens text with
  | (.ok tokens, log) => (tokens, log)
  | (.error _, log) => ([], log)

/-- A token as a JSON object. -/
def tokenJson (t : ClassToken) : Json :=
  .object [("original".toList, .string t.original),
    ("variants".toList, .array (t.variants.map .string)), ("utility".toList, .string t.utility),
    ("negative".toList, .bool t.negative), ("important".toList, .bool t.important)]

/-- Prints a class list with its groups expanded. -/
def runExpand (text : Text) : Output :=
  { out := line (ClassList.expandText text), err := logText false (Config.unclosedLog text) }

/-- Prints the tokens of a class list, one on a line. -/
def runParse (text : Text) (groups : Bool) : Output :=
  let (tokens, log) := tokensOf groups text
  { out := tokens.flatMap fun t => line ((tokenJson t).write .spaced), err := logText false log }

/-- The path without parts that say nothing. -/
def plainPath (path : Text) : Text :=
  let parts := path.splitOn '/'
  let kept := parts.filter fun part => !part.isEmpty && part != ['.']
  let root : Text :=
    match path with
    | '/' :: '/' :: '/' :: _ => ['/']
    | '/' :: '/' :: _ => ['/', '/']
    | '/' :: _ => ['/']
    | _ => []
  match root ++ Text.join ['/'] kept with
  | [] => ['.']
  | t => t

section

variable [Platform]

/-- The document that the option for it names. -/
def documentOf (files : Text → Document.File) (i : Invocation) : Outcome Document :=
  match i.value? "--rules" with
  | some (.path path) => Document.load (plainPath path) (files path)
  | _ => .ok {}

/-- What is printed about a match. -/
def matchText (m : Match) : Text :=
  let rule := m.rule
  line ("Rule: ".toList ++ rule.name.display ++ " (priority=".toList ++
      Text.ofInt rule.rule.priority ++ ", layer=".toList ++ rule.rule.layer ++ [')']) ++
    (m.captures.zipIdx.flatMap fun (capture, i) =>
      line ("  [".toList ++ Text.ofNat i ++ "] ".toList ++ capture))

/-- Prints the rule that claims a utility. -/
def runMatch (files : Text → Document.File) (i : Invocation) (utility : Text) : Output :=
  match documentOf files i with
  | .error failure => fail [] failure
  | .ok document =>
    let empty : Registry := { strict := document.config.strictNames.isTruthy }
    match empty.addAll document.rules with
    | (.error failure, _, log) => fail (logText false log) failure
    | (.ok _, registry, _) =>
      match (registry.claim utility).1 with
      | none => { exit := 1, out := line ("No rule matches ".toList ++ Text.quoted utility) }
      | some found => { out := matchText found }

/-- The configuration with the settings of the command line. -/
def configWith (config : Config) (i : Invocation) : Config :=
  let maxSize :=
    match i.value? "--max-size" with
    | some (.integer n) => .int n
    | _ => config.cache.maxSize
  let lifetime :=
    match i.value? "--ttl" with
    | some (.decimal x) => .number (.float (if x ≥ 0.0 then x else 1.0 / 0.0))
    | _ => config.cache.lifetime
  { config with cache := { config.cache with maxSize, lifetime } }

/-- What is printed about the cache. -/
def statsText (s : Cache.Stats) : Text :=
  line ("Cache: ".toList ++ Text.ofNat s.size ++ '/' :: s.maxSize.display ++ " entries, ".toList ++
    Text.ofNat s.hits ++ " hit(s), ".toList ++ Text.ofNat s.misses ++ " miss(es)".toList)

/-- Prints what has been compiled. -/
def showCompilation (i : Invocation) (c : Compiler) (result : Compilation) (err : Text) : Output :=
  let out := if result.css.isEmpty then [] else line result.css
  let err := err ++ result.diagnostics.flatMap fun d => line d.text
  let exit := if i.has "--strict" && !result.unresolved.isEmpty then 1 else 0
  if i.has "--stats" then
    match c.cache.stats with
    | .ok stats => { exit, out, err := err ++ statsText stats }
    | .error failure => { fail err failure with out }
  else { exit, out, err }

/-- Prints the style sheet for class lists. -/
def runCompile (files : Text → Document.File) (i : Invocation) : Output :=
  let shown := logText (i.has "--verbose")
  match documentOf files i with
  | .error failure => fail [] failure
  | .ok document =>
    match Compiler.create (configWith document.config i) Selector.render document.theme
        document.rules with
    | (.error failure, log) => fail (shown log) failure
    | (.ok compiler, log) =>
      match compiler.compile (i.arguments.flatMap ClassList.splitList) with
      | (.error failure, _, effects) => fail (shown (log ++ effects.log)) failure
      | (.ok result, compiler, effects) =>
        showCompilation i compiler result (shown (log ++ effects.log))

/-- Something is found at a path. -/
def present (files : Text → Document.File) (path : Text) : Bool :=
  match files path with
  | .missing => false
  | _ => true

/-- Runs a command. -/
def runCommand (reader : Reader) (files : Text → Document.File) (spec : CommandSpec)
    (arguments : List Text) (run : Invocation → Output) : Output :=
  match reader.read (present files) spec arguments with
  | .error output => output
  | .ok invocation => run invocation

/-- A command by its name. -/
def commandOf? (files : Text → Document.File) (name : Text) :
    Option (CommandSpec × (Invocation → Output)) :=
  let first := fun i : Invocation => i.arguments.headD []
  if name == expandSpec.name then some (expandSpec, fun i => runExpand (first i))
  else if name == parseSpec.name then
    some (parseSpec, fun i => runParse (first i) (!i.has "--no-groups"))
  else if name == matchSpec.name then some (matchSpec, fun i => runMatch files i (first i))
  else if name == compileSpec.name then some (compileSpec, runCompile files)
  else none

/-- What is printed for the version. -/
def versionOutput : Output :=
  { out := line (program ++ ", version ".toList ++ version) }

/-- Runs the program with a reader of command lines. -/
def runWith (reader : Reader) (files : Text → Document.File) (arguments : List Text) : Output :=
  match reader.read (fun _ => true) programSpec arguments with
  | .error output => output
  | .ok i =>
    if i.has "--version" then versionOutput
    else
      match i.arguments with
      | [] => refuse programSpec .commandMissing
      | name :: rest =>
        match commandOf? files name with
        | some (spec, command) => runCommand reader files spec rest command
        | none => refuse programSpec (.unknownCommand name)

end

/-- Runs the program. -/
def run (files : Text → Document.File) (arguments : List Text) : Output :=
  runWith plainReader files arguments

end UtilityCss.CommandLine

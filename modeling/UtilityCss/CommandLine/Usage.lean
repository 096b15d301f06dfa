import UtilityCss.Number.Reader
import UtilityCss.Text.Quoted

/-!
# Command line — usage

A command takes one argument, or any number of them, and options.  Options may stand anywhere before
`--`; everything else is an argument, in order.  An option with a value takes what stands after `=`,
or else the next argument whatever it is; if it is given twice the last value counts.

What is given is read first, and the values are read after it: those of options in the order in
which they were first given, then the arguments, and then the options that must be given and are
not.
-/

namespace UtilityCss.CommandLine

/-- What the value of an option is read as. -/
inductive ValueKind where
  /-- The option has no value. -/
  | flag
  | integer
  | decimal
  /-- The path of something that exists. -/
  | path
  deriving DecidableEq, Repr

/-- An option. -/
structure OptionSpec where
  /-- Its name, with the hyphens. -/
  name : Text
  kind : ValueKind
  required : Bool := false
  /-- A letter that it may be given by. -/
  letter : Option Char := none
  deriving DecidableEq, Repr

/-- A command. -/
structure CommandSpec where
  name : Text
  /-- What its argument is called, if it takes any. -/
  argument : Option Text
  /-- Whether it takes any number of arguments, but at least one. -/
  many : Bool := false
  options : List OptionSpec := []
  /-- Whether options end where the first argument stands. -/
  argumentsLast : Bool := false
  deriving DecidableEq, Repr

/-- What is wrong with a command line. -/
inductive Problem where
  | unknownOption (name : Text)
  | valueMissing (name : Text)
  | valueRefused (name : Text)
  | unknownCommand (name : Text)
  | commandMissing
  | argumentMissing (label : Text)
  | optionMissing (name : Text)
  | extraArguments (arguments : List Text)
  | notInteger (option value : Text)
  | notDecimal (option value : Text)
  | pathMissing (option path : Text)
  deriving DecidableEq, Repr

namespace Problem

/-- The words for the value of an option that cannot be used. -/
def invalid (option reason : Text) : Text :=
  "Invalid value for '".toList ++ option ++ "': ".toList ++ reason

/-- The words for a problem. -/
def message : Problem → Text
  | unknownOption name => "No such option: ".toList ++ name
  | valueMissing name => "Option ".toList ++ Text.quoted name ++ " requires an argument.".toList
  | valueRefused name => "Option ".toList ++ Text.quoted name ++ " does not take a value.".toList
  | unknownCommand name => "No such command ".toList ++ Text.quoted name ++ ['.']
  | commandMissing => "Missing command.".toList
  | argumentMissing label => "Missing argument '".toList ++ label ++ "'.".toList
  | optionMissing name => "Missing option '".toList ++ name ++ "'.".toList
  | extraArguments arguments =>
    "Got unexpected extra argument".toList ++ (if arguments.length == 1 then [] else ['s']) ++
      " (".toList ++ Text.join [' '] arguments ++ [')']
  | notInteger option value =>
    invalid option (Text.quoted value ++ " is not a valid integer.".toList)
  | notDecimal option value =>
    invalid option (Text.quoted value ++ " is not a valid float.".toList)
  | pathMissing option path =>
    invalid option ("Path ".toList ++ Text.quoted path ++ " does not exist.".toList)

/-- Whether the usage of the command is shown before the words. -/
def showsUsage : Problem → Bool
  | valueMissing _ | valueRefused _ => false
  | _ => true

end Problem

/-! ### What is given -/

/-- What a command line gives, as far as it has been read. -/
structure Given where
  /-- The options with their values, the last one first. -/
  options : List (OptionSpec × Text) := []
  /-- The arguments, the last one first. -/
  arguments : List Text := []
  /-- An option whose value comes next. -/
  pending : Option OptionSpec := none
  /-- Whether options have ended. -/
  ended : Bool := false

namespace Given

/-- Gives an option. -/
def give (g : Given) (o : OptionSpec) (value : Text) : Given :=
  { g with options := (o, value) :: g.options, pending := none }

/-- Gives flags by their letters. -/
def letters (spec : CommandSpec) (g : Given) : Text → Except Problem Given
  | [] => .ok g
  | c :: rest =>
    match spec.options.find? (·.letter == some c) with
    | some o => letters spec (g.give o []) rest
    | none => .error (.unknownOption ['-', c])

/-- The name of an option and the value after `=`. -/
def splitValue (argument : Text) : Text × Option Text :=
  match argument.dropWhile (· != '=') with
  | [] => (argument, none)
  | _ :: value => (argument.takeWhile (· != '='), some value)

/-- Reads an argument that starts with a hyphen. -/
def option (spec : CommandSpec) (g : Given) (argument : Text) : Except Problem Given :=
  let (name, value) := splitValue argument
  match spec.options.find? (·.name == name), value with
  | some o, none => if o.kind == .flag then .ok (g.give o []) else .ok { g with pending := some o }
  | some o, some v => if o.kind == .flag then .error (.valueRefused name) else .ok (g.give o v)
  | none, _ =>
    if Text.startsWith argument ['-', '-'] then .error (.unknownOption name)
    else letters spec g (argument.drop 1)

/-- Reads one part of a command line. -/
def step (spec : CommandSpec) (g : Given) (argument : Text) : Except Problem Given :=
  match g.pending with
  | some o => .ok (g.give o argument)
  | none =>
    let plain : Given := { g with arguments := argument :: g.arguments }
    if g.ended then .ok plain
    else if argument == ['-', '-'] then .ok { g with ended := true }
    else if Text.startsWith argument ['-'] && argument.length > 1 then g.option spec argument
    else .ok { plain with ended := spec.argumentsLast }

/-- Reads a command line. -/
def read (spec : CommandSpec) (arguments : List Text) : Except Problem Given := do
  let g ← arguments.foldlM (step spec) ({} : Given)
  match g.pending with
  | some o => throw (.valueMissing o.name)
  | none => return g

/-- The options that are given, in the order in which they were first given. -/
def order (g : Given) : List OptionSpec :=
  Text.distinct (g.options.reverse.map Prod.fst)

/-- The value of an option. -/
def value? (g : Given) (o : OptionSpec) : Option Text :=
  g.options.lookup o

end Given

/-! ### Values -/

/-- The value of an option. -/
inductive Value where
  | flag
  | integer (value : Int)
  | decimal (value : Float)
  | path (path : Text)

/-- Reads the value of an option. -/
def readValue (pathExists : Text → Bool) (o : OptionSpec) (value : Text) : Except Problem Value :=
  match o.kind with
  | .flag => .ok .flag
  | .integer =>
    match Number.readInt? value with
    | some i => .ok (.integer i)
    | none => .error (.notInteger o.name value)
  | .decimal =>
    match Number.readFloat? value with
    | some x => .ok (.decimal x)
    | none => .error (.notDecimal o.name value)
  | .path => if pathExists value then .ok (.path value) else .error (.pathMissing o.name value)

/-- A command line that has been read. -/
structure Invocation where
  arguments : List Text
  values : List (Text × Value)

/-- Reads the values of options, in order. -/
def readValues (pathExists : Text → Bool) (g : Given) :
    List OptionSpec → Except Problem (List (Text × Value))
  | [] => .ok []
  | o :: rest => do
    let value ← readValue pathExists o ((g.value? o).getD [])
    return (o.name, value) :: (← readValues pathExists g rest)

/-- Checks that there are as many arguments as a command takes. -/
def checkArguments (spec : CommandSpec) (arguments : List Text) : Except Problem Unit :=
  match spec.argument with
  | some label => if arguments.isEmpty then .error (.argumentMissing label) else .ok ()
  | none => .ok ()

/-- The arguments that a command does not take. -/
def extraArguments (spec : CommandSpec) (arguments : List Text) : List Text :=
  if spec.many || spec.argumentsLast then []
  else if spec.argument.isSome then arguments.drop 1
  else arguments

/-- Reads the command line of a command. -/
def readInvocation (pathExists : Text → Bool) (spec : CommandSpec) (line : List Text) :
    Except Problem Invocation := do
  let g ← Given.read spec line
  let arguments := g.arguments.reverse
  let values ← readValues pathExists g g.order
  checkArguments spec arguments
  match spec.options.find? (fun o => o.required && (g.value? o).isNone) with
  | some o => throw (.optionMissing o.name)
  | none => pure ()
  let extra := extraArguments spec arguments
  if !extra.isEmpty then throw (.extraArguments extra)
  return ⟨arguments, values⟩

namespace Invocation

/-- The value of an option. -/
def value? (i : Invocation) (name : String) : Option Value :=
  i.values.lookup name.toList

/-- Whether a flag is given. -/
def has (i : Invocation) (name : String) : Bool :=
  (i.value? name).isSome

end Invocation

end UtilityCss.CommandLine

import UtilityCss.Config.Basic
import UtilityCss.Json.Reader
import UtilityCss.Number.Reader
import UtilityCss.Rule.Basic

/-!
# Rule documents

A rule document is a JSON object with rules, a theme and a configuration.  Every rule has a pattern
and templates for its properties.  The fields of a template must be ones that the captures of the
pattern can fill; a malformed pattern is found out later, when its rule is registered.
-/

namespace UtilityCss

/-- What a rule document holds. -/
structure Document where
  rules : List Rule := []
  theme : Theme := []
  config : Config := {}

namespace Document

variable [Platform]

/-! ### Templates -/

/-- A failure of a rule. -/
def refuse (index : Option Int) (message : Text) : Outcome α :=
  .error (.badDocument message index none)

/-- The words that name a property. -/
def propertyLabel (name : Text) : Text :=
  "property ".toList ++ Text.quoted name ++ ": ".toList

/-- A field as it is shown. -/
def shownField (key : Text) : Text :=
  Char.ofNat 123 :: key ++ [Char.ofNat 125]

/-- Checks the key of a field that is no automatic one. -/
def checkKey (index : Option Int) (groups : Nat) (property key : Text) : Outcome Unit :=
  if key == "value".toList then .ok ()
  else if key.isEmpty || !key.all Text.isDigit then
    refuse index (propertyLabel property ++ "unknown template field ".toList ++ shownField key)
  else
    match Number.readInt? key with
    | none => .error (.misuse .badValue)
    | some n =>
      if n > groups then
        refuse index (propertyLabel property ++ "template field ".toList ++ shownField key ++
          " but pattern has ".toList ++ Text.ofNat groups ++ " group(s)".toList)
      else .ok ()

/-- Checks the fields of a template; fields without a key are numbered from `automatic` on. -/
def checkFields (index : Option Int) (groups : Nat) (property : Text) :
    Nat → List Text → Outcome Unit
  | _, [] => .ok ()
  | automatic, name :: rest => do
    let key := name.takeWhile (!Template.isAccess ·)
    if key.isEmpty then
      checkKey index groups property (Text.ofNat automatic)
      checkFields index groups property (automatic + 1) rest
    else
      checkKey index groups property key
      checkFields index groups property automatic rest

/-- Checks the templates of a rule whose pattern has a number of groups. -/
def checkTemplates (index : Option Int) (groups : Nat) : Declarations → Outcome Unit
  | [] => .ok ()
  | (property, template) :: rest =>
    match Template.fieldNames template with
    | .error fault =>
      .error (.badDocument (propertyLabel property ++ fault.message) index (some .badValue))
    | .ok names => do
      checkFields index groups property 0 names
      checkTemplates index groups rest

/-- Checks the templates of a rule against its pattern.  A malformed pattern is not reported here,
and one that there is no room to read is a misuse. -/
def checkAgainst (index : Option Int) (source : Text) (templates : Declarations) : Outcome Unit :=
  if !Room.readsPattern source then .error (.misuse .engineLimit)
  else
    match Pattern.ofText source {} with
    | .ok pattern => checkTemplates index pattern.groups templates
    | .error (.malformed _ _) => .ok ()
    | .error fault => .error (.misuse fault.misuse)

/-! ### Rules -/

/-- The members that a rule may have. -/
def ruleMembers : List Text :=
  ["name", "pattern", "priority", "layer", "properties", "theme_key", "arbitrary"].map
    String.toList

/-- A member of a rule, or a default. -/
def memberOr (members : List (Text × Json)) (name : String) (default : Json) : Json :=
  (Json.member? name.toList members).getD default

/-- The pattern of a rule. -/
def patternOf (index : Option Int) (members : List (Text × Json)) : Outcome Text :=
  match Json.member? "pattern".toList members with
  | some (.string (c :: rest)) => .ok (c :: rest)
  | _ => refuse index "'pattern' must be a non-empty string".toList

/-- The properties of a rule. -/
def propertiesOf (index : Option Int) (members : List (Text × Json)) :
    Outcome (List (Text × Json)) :=
  match memberOr members "properties" (.object []) with
  | .object properties => .ok properties
  | _ => refuse index "'properties' must be an object".toList

/-- The templates of properties: their texts, which must be ones that can be written. -/
def templatesOf : List (Text × Json) → Outcome Declarations
  | [] => .ok []
  | (name, j) :: rest => do
    let template ← j.shown
    let templates ← templatesOf rest
    return (name, template) :: templates

/-- The priority of a rule. -/
def priorityOf (index : Option Int) (members : List (Text × Json)) : Outcome Int :=
  match memberOr members "priority" (.int 0) with
  | .number (.int i) => .ok i
  | _ => refuse index "'priority' must be an integer".toList

/-- Reads a rule of a document. -/
def readRule (j : Json) (index : Option Int) : Outcome Rule :=
  match j with
  | .object members => do
    let unknown := (members.map Prod.fst).filter (!ruleMembers.contains ·)
    if !unknown.isEmpty then
      refuse index ("unknown keys: ".toList ++ Text.join [',', ' '] (unknown.mergeSort Text.le))
    let source ← patternOf index members
    let properties ← propertiesOf index members
    let priority ← priorityOf index members
    let templates ← templatesOf properties
    checkAgainst index source templates
    let handler : TemplateHandler :=
      ⟨templates, memberOr members "theme_key" .null,
        (memberOr members "arbitrary" (.bool false)).isTruthy⟩
    let layer ← (memberOr members "layer" (.str "utilities")).shown
    return ⟨source, none, some (.template handler), priority, layer, memberOr members "name" .null⟩
  | _ => refuse index "rule must be an object".toList

/-- Reads rules that are numbered from `index` on. -/
def readRules : Int → List Json → Outcome (List Rule)
  | _, [] => .ok []
  | index, j :: rest => do
    let rule ← readRule j (some index)
    let rules ← readRules (index + 1) rest
    return rule :: rules

/-! ### Documents -/

/-- The configuration of a document. -/
def readConfig (j : Json) : Outcome Config :=
  match Config.ofJson j with
  | .error (.badConfig message) => .error (.badDocument message none (some .badConfig))
  | result => result

/-- A value, or an empty object for one that does not count as true. -/
def orEmpty (j : Option Json) : Json :=
  match j with
  | some j => if j.isTruthy then j else .object []
  | none => .object []

/-- Reads a document. -/
def ofJson (j : Json) : Outcome Document :=
  match j with
  | .object members =>
    match memberOr members "rules" (.array []) with
    | .array items => do
      let rules ← readRules 0 items
      let config ← readConfig (orEmpty (Json.member? "config".toList members))
      let theme ← Config.tableOf (orEmpty (Json.member? "theme".toList members))
      return ⟨rules, theme, config⟩
    | _ => refuse none "'rules' must be a list".toList
  | _ => refuse none "rule file must contain a JSON object".toList

/-! ### Files -/

/-- What is found at a path. -/
inductive File where
  | text (content : Text)
  /-- A file that is no UTF-8. -/
  | binary
  | directory
  | missing

/-- A text with one kind of line end. -/
def plainLines : Text → Text
  | [] => []
  | '\r' :: '\n' :: rest => '\n' :: plainLines rest
  | c :: rest => (if c == '\r' then '\n' else c) :: plainLines rest

/-- A failure to read a file. -/
def refuseFile (path reason : Text) (cause : Cause) : Outcome α :=
  .error (.badDocument ("cannot read ".toList ++ path ++ ": ".toList ++ reason) none (some cause))

/-- Reads a document from what is found at a path. -/
def load (path : Text) (file : File) : Outcome Document :=
  match file with
  | .missing =>
    refuseFile path ("[Errno 2] No such file or directory: ".toList ++ Text.quoted path)
      .missingFile
  | .directory =>
    refuseFile path ("[Errno 21] Is a directory: ".toList ++ Text.quoted path) .directory
  | .binary => .error (.misuse .undecodable)
  | .text content =>
    let text := plainLines content
    match Json.read text with
    | .ok j => ofJson j
    | .error .longInteger => .error (.misuse .badValue)
    | .error (.malformed problem left) =>
      refuseFile path (Json.placedMessage text problem left) .malformedDocument

end Document

end UtilityCss

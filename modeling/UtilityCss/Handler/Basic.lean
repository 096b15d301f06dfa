import UtilityCss.ClassToken.Arbitrary
import UtilityCss.Failure.Basic
import UtilityCss.Log.Basic
import UtilityCss.Platform.Basic
import UtilityCss.Selector.Basic
import UtilityCss.Theme.Basic

/-!
# Handlers

A handler makes declarations of what the groups of a rule's pattern have captured.  It may give none
at all, and it may fail.

A template handler fills a template for every property.  The value `value` is the first group, or
the whole utility if there is none; with a theme key it is looked up in that scale of the theme,
and a value that the scale does not have gives no declarations.  A template that cannot be filled
gives none either, and says so in the log.
-/

namespace UtilityCss

/-- The templates of a rule. -/
structure TemplateHandler where
  properties : Declarations := []
  /-- The scale of the theme that values are looked up in; null for none. -/
  themeKey : Json := .null
  /-- Whether underscores in the value stand for spaces. -/
  arbitrary : Bool := false

/-- What makes declarations of the captures of a rule. -/
inductive Handler where
  /-- The same declarations for every match. -/
  | fixed (declarations : Declarations)
  | template (handler : TemplateHandler)
  | function (run : List Text → Theme → Outcome (Option Declarations))

variable [Platform]

namespace TemplateHandler

/-- The value that the captures hold: the first group, or the whole utility. -/
def capturedValue : List Text → Outcome Text
  | _ :: value :: _ => .ok value
  | [whole] => .ok whole
  | [] => .error (.misuse .missingIndex)

/-- A value of a scale, if the scale has it and it can be written.  Only an object gives values; a
text or an array can only tell that it does not have one. -/
def scaleValue (scale : Json) (value : Text) : Outcome (Option Text) :=
  match scale with
  | .object members =>
    match Json.member? value members with
    | some j => j.shown.map some
    | none => .ok none
  | .string t =>
    if (Text.indexOf? value t).isSome then .error (.misuse .wrongType) else .ok none
  | .array items =>
    if items.any (fun j => j.key? == some (.text value)) then .error (.misuse .wrongType)
    else .ok none
  | _ => .error (.misuse .wrongType)

/-- The value as the theme has it. -/
def themeValue (h : TemplateHandler) (theme : Theme) (value : Text) : Outcome (Option Text) :=
  match h.themeKey with
  | .null => .ok (some value)
  | key =>
    if key.key?.isNone then .error (.misuse .wrongType)
    else
      match theme.get? key with
      | some scale => if scale.isTruthy then scaleValue scale value else .ok none
      | none => .ok none

/-- Every property with its template filled. -/
def fillAll (f : Template.Filling) : Declarations → Except Template.Fault Declarations
  | [] => .ok []
  | (name, template) :: rest =>
    match Template.fill f template with
    | .error fault => .error fault
    | .ok value => (fillAll f rest).map ((name, value) :: ·)

/-- The message for a template that cannot be filled. -/
def faultEntry (captures : List Text) (fault : Template.Fault) : Log.Entry :=
  ⟨.warning, .template, "Cannot fill template for ".toList ++ Text.quoted (captures.headD []) ++
    ": ".toList ++ fault.message⟩

/-- The declarations for a value. -/
def declarationsFor (h : TemplateHandler) (captures : List Text) (value : Text) :
    Outcome (Option Declarations) × Log :=
  let value := if h.arbitrary then ClassToken.normalizeArbitrary value else value
  match fillAll ⟨captures, value⟩ h.properties with
  | .ok declarations => (.ok (some declarations), [])
  | .error fault =>
    match fault.misuse? with
    | some misuse => (.error (.misuse misuse), [])
    | none => (.ok none, [faultEntry captures fault])

/-- The declarations for captures under a theme. -/
def generate (h : TemplateHandler) (captures : List Text) (theme : Theme) :
    Outcome (Option Declarations) × Log :=
  match capturedValue captures with
  | .error failure => (.error failure, [])
  | .ok captured =>
    match h.themeValue theme captured with
    | .error failure => (.error failure, [])
    | .ok none => (.ok none, [])
    | .ok (some value) => h.declarationsFor captures value

end TemplateHandler

namespace Handler

/-- The declarations for captures under a theme, and what is reported. -/
def generate (h : Handler) (captures : List Text) (theme : Theme) :
    Outcome (Option Declarations) × Log :=
  match h with
  | .fixed declarations => (.ok (some declarations), [])
  | .template t => t.generate captures theme
  | .function run => (run captures theme, [])

end Handler

end UtilityCss

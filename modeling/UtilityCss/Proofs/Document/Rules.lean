import Mathlib.Data.List.Basic
import UtilityCss.Document.Basic
import UtilityCss.Proofs.Failure.Outcome
import UtilityCss.Proofs.Number.Digits

/-!
# Rule documents — rules that are refused and rules that slip

Reading a rule is meant to report whatever is wrong with it.  Most of it is checked for, but not
all: some conversions are made without a check, and where one of them fails, the result is a misuse
that says nothing about the rule.

**What slips** (`misused_readRule_iff`).  Everything else about a rule is read or reported
(`reports_readRule`), unless

* a property or the layer cannot be written as a text (`Json.IsShown`);
* the pattern is not malformed but beyond the limits of the engine, or there is no room to read it
  (`PatternSlips`);
* a template has a field whose key is made of digits and cannot be read as a number
  (`TemplatesSlip`).

Members, templates and fields are checked in a row, so of each the first that does not pass decides.
-/

namespace UtilityCss

namespace Json

variable [Room]

/-- The text of a value can be written: it is a string, or there is room for it and it holds no
integer that is too long. -/
def IsShown (j : Json) : Prop :=
  (∃ t, j = .string t) ∨ Room.writesValue j = true ∧ j.isWritable = true

/-- A value is shown, or it is a misuse to ask for its text. -/
theorem shown_cases (j : Json) :
    (j.IsShown ∧ j.shown = .ok j.display) ∨
      ¬ j.IsShown ∧ ∃ kind, j.shown = .error (.misuse kind) := by
  cases j with
  | string t => exact .inl ⟨.inl ⟨t, rfl⟩, rfl⟩
  | null | bool | number | array | object =>
      simp only [shown, IsShown, reduceCtorEq, exists_false, false_or]
      split
      next hroom => exact .inr ⟨fun h => absurd h.1 (by simpa using hroom), _, rfl⟩
      next hroom =>
          split
          next hlong => exact .inr ⟨fun h => absurd h.2 (by simpa using hlong), _, rfl⟩
          next hlong => exact .inl ⟨⟨by simpa using hroom, by simpa using hlong⟩, rfl⟩

/-- A value that can be written is shown as its text. -/
theorem shown_eq_ok_iff {j : Json} {t : Text} : j.shown = .ok t ↔ j.IsShown ∧ t = j.display := by
  obtain ⟨h, hshown⟩ | ⟨h, kind, hshown⟩ := j.shown_cases
  · rw [hshown]
    exact ⟨fun heq => ⟨h, (Except.ok.inj heq).symm⟩, fun heq => congrArg _ heq.2.symm⟩
  · rw [hshown]
    exact iff_of_false nofun fun heq => h heq.1

/-- It is a misuse to ask for the text of a value that cannot be written. -/
theorem misused_shown_iff {j : Json} : Misused j.shown ↔ ¬ j.IsShown := by
  obtain ⟨h, hshown⟩ | ⟨h, kind, hshown⟩ := j.shown_cases
  · rw [hshown]
    exact iff_of_false not_misused_ok (not_not.2 h)
  · rw [hshown]
    exact iff_of_true misused_error h

theorem reports_shown {reported : Failure → Prop} (j : Json) : Reports reported j.shown := by
  obtain ⟨-, hshown⟩ | ⟨-, kind, hshown⟩ := j.shown_cases
  · rw [hshown]
    exact reports_ok
  · rw [hshown]
    exact reports_misuse

end Json

namespace Document

variable {α : Type} {j : Json} {index : Option Int} {groups : Nat}

/-! ### Reports -/

/-- A failure of a rule document. -/
def IsReport (failure : Failure) : Prop :=
  ∃ message index cause, failure = .badDocument message index cause

/-- A rule that is refused is no misuse. -/
@[simp] theorem not_misused_refuse {message : Text} :
    ¬ Misused (refuse index message : Outcome α) := by
  rintro ⟨kind, h⟩
  cases h

theorem reports_refuse (index : Option Int) (message : Text) :
    Reports IsReport (refuse index message : Outcome α) :=
  reports_error ⟨message, index, none, rfl⟩

/-- There is a result, or the rule is refused. -/
def Answers (index : Option Int) (o : Outcome α) : Prop :=
  (∃ a, o = .ok a) ∨ ∃ message, o = refuse index message

/-- An answer is no misuse. -/
theorem Answers.not_misused {o : Outcome α} (h : Answers index o) : ¬ Misused o := by
  obtain ⟨a, rfl⟩ | ⟨message, rfl⟩ := h
  · exact not_misused_ok
  · exact not_misused_refuse

theorem Answers.reports {o : Outcome α} (h : Answers index o) : Reports IsReport o := by
  obtain ⟨a, rfl⟩ | ⟨message, rfl⟩ := h
  · exact reports_ok
  · exact reports_refuse index message

/-! ### Templates -/

/-- The keys of fields; those without one are numbered. -/
def fieldKeys : Nat → List Text → List Text
  | _, [] => []
  | automatic, name :: rest =>
    let key := name.takeWhile (!Template.isAccess ·)
    if key.isEmpty then Text.ofNat automatic :: fieldKeys (automatic + 1) rest
    else key :: fieldKeys automatic rest

/-- Captures can fill the field of a key: it is that of the value, or the number of a group. -/
def Fills (groups : Nat) (key : Text) : Prop :=
  key = "value".toList ∨
    key ≠ [] ∧ key.all Text.isDigit ∧ ∃ n, Number.readInt? key = some n ∧ n ≤ groups

/-- A key of digits that cannot be read: they are not all decimal, or they are too many. -/
def IsUnreadable (key : Text) : Prop :=
  key ≠ [] ∧ key.all Text.isDigit ∧ (¬ key.all Text.isDecimal ∨ Number.maxDigits < key.length)

/-- A key of digits is unreadable if it gives no number. -/
theorem isUnreadable_iff {key : Text} (hne : key ≠ []) (hdigits : key.all Text.isDigit) :
    IsUnreadable key ↔ Number.readInt? key = none := by
  have hread := Number.readInt?_isSome_iff hne hdigits
  rw [← Option.not_isSome_iff_eq_none, hread, not_and_or, Nat.not_le, IsUnreadable]
  exact ⟨fun h => h.2.2, fun h => ⟨hne, hdigits, h⟩⟩

/-- The fields of a template are checked one after the other, by their keys. -/
theorem checkFields_eq (property : Text) (automatic : Nat) (names : List Text) :
    checkFields index groups property automatic names =
      forM (fieldKeys automatic names) (checkKey index groups property) := by
  induction names generalizing automatic with
  | nil => rfl
  | cons name names ih =>
      rw [checkFields, fieldKeys]
      split
      · rw [List.forM_cons, ih]
      · rw [List.forM_cons, ih]

/-- A key that captures can fill is readable. -/
theorem Fills.not_isUnreadable {key : Text} (h : Fills groups key) : ¬ IsUnreadable key := by
  obtain rfl | ⟨hne, hdigits, n, hn, -⟩ := h
  · exact fun hunreadable => absurd hunreadable.2.1 (by decide)
  · simp [isUnreadable_iff hne hdigits, hn]

/-- A key is filled, is refused, or is unreadable. -/
theorem checkKey_cases (index : Option Int) (groups : Nat) (property key : Text) :
    (Fills groups key ∧ checkKey index groups property key = .ok ()) ∨
    (¬ Fills groups key ∧ ¬ IsUnreadable key ∧
      ∃ message, checkKey index groups property key = refuse index message) ∨
    (¬ Fills groups key ∧ IsUnreadable key ∧
      checkKey index groups property key = .error (.misuse .badValue)) := by
  rw [checkKey]
  by_cases hvalue : key = "value".toList
  · exact .inl ⟨.inl hvalue, by simp [hvalue]⟩
  rw [if_neg (by simpa using hvalue)]
  by_cases hdigits : key ≠ [] ∧ key.all Text.isDigit
  · rw [if_neg (by simpa using hdigits)]
    cases hread : Number.readInt? key with
    | none =>
        refine .inr (.inr ⟨?_, (isUnreadable_iff hdigits.1 hdigits.2).2 hread, rfl⟩)
        rintro (h | ⟨-, -, n, hn, -⟩)
        · exact hvalue h
        · simp [hread] at hn
    | some n =>
        have hreadable : ¬ IsUnreadable key := by
          simp [isUnreadable_iff hdigits.1 hdigits.2, hread]
        dsimp only
        split
        next hgroups =>
            refine .inr (.inl ⟨?_, hreadable, _, rfl⟩)
            rintro (h | ⟨-, -, m, hm, hle⟩)
            · exact hvalue h
            · cases hread.symm.trans hm
              omega
        next hgroups =>
            exact .inl ⟨.inr ⟨hdigits.1, hdigits.2, n, hread, by omega⟩, rfl⟩
  · rw [if_pos (by simpa [imp_iff_not_or] using hdigits)]
    refine .inr (.inl ⟨?_, fun h => hdigits ⟨h.1, h.2.1⟩, _, rfl⟩)
    rintro (h | ⟨hne, hall, -⟩)
    · exact hvalue h
    · exact hdigits ⟨hne, hall⟩

/-- A key passes if captures can fill it. -/
theorem checkKey_eq_ok_iff {property key : Text} :
    checkKey index groups property key = .ok () ↔ Fills groups key := by
  obtain ⟨hfills, hok⟩ | ⟨hnot, -, message, herror⟩ | ⟨hnot, -, herror⟩ :=
    checkKey_cases index groups property key
  · exact iff_of_true hok hfills
  · rw [herror]
    exact iff_of_false nofun hnot
  · rw [herror]
    exact iff_of_false nofun hnot

/-- To check an unreadable key is a misuse. -/
theorem misused_checkKey_iff {property key : Text} :
    Misused (checkKey index groups property key) ↔ IsUnreadable key := by
  obtain ⟨hfills, hok⟩ | ⟨-, hnot, message, herror⟩ | ⟨-, hunreadable, herror⟩ :=
    checkKey_cases index groups property key
  · rw [hok]
    exact iff_of_false not_misused_ok hfills.not_isUnreadable
  · rw [herror]
    exact iff_of_false nofun hnot
  · rw [herror]
    exact iff_of_true misused_error hunreadable

/-- Checks the template of a property. -/
def checkTemplate (index : Option Int) (groups : Nat) (entry : Text × Text) : Outcome Unit :=
  match Template.fieldNames entry.2 with
  | .error fault =>
    .error (.badDocument (propertyLabel entry.1 ++ fault.message) index (some .badValue))
  | .ok names => checkFields index groups entry.1 0 names

/-- Templates are checked one after the other. -/
theorem checkTemplates_eq (templates : Declarations) :
    checkTemplates index groups templates = forM templates (checkTemplate index groups) := by
  induction templates with
  | nil => rfl
  | cons entry templates ih =>
      rw [checkTemplates, List.forM_cons, checkTemplate, ih]
      cases Template.fieldNames entry.2 <;> rfl

/-- A template can be read, and all of its fields are filled. -/
def TemplateFits (groups : Nat) (template : Text) : Prop :=
  ∃ names, Template.fieldNames template = .ok names ∧
    ∀ key ∈ fieldKeys 0 names, Fills groups key

/-- A template can be read, and the first of its fields that is not filled is unreadable. -/
def TemplateSlips (groups : Nat) (template : Text) : Prop :=
  ∃ names before key after, Template.fieldNames template = .ok names ∧
    fieldKeys 0 names = before ++ key :: after ∧ (∀ k ∈ before, Fills groups k) ∧
    IsUnreadable key

/-- A template passes if it can be read and captures can fill all of its fields. -/
theorem checkTemplate_eq_ok_iff {entry : Text × Text} :
    checkTemplate index groups entry = .ok () ↔ TemplateFits groups entry.2 := by
  rw [checkTemplate, TemplateFits]
  cases Template.fieldNames entry.2 with
  | error fault => simp
  | ok names => simp [checkFields_eq, forM_eq_ok_iff, checkKey_eq_ok_iff]

/-- To check a template is a misuse if the first of its fields that captures cannot fill is
unreadable. -/
theorem misused_checkTemplate_iff {entry : Text × Text} :
    Misused (checkTemplate index groups entry) ↔ TemplateSlips groups entry.2 := by
  rw [checkTemplate, TemplateSlips]
  cases Template.fieldNames entry.2 with
  | error fault => simp [Misused]
  | ok names => simp [checkFields_eq, misused_forM_iff, misused_checkKey_iff, checkKey_eq_ok_iff]

/-- The first of the templates that does not fit slips. -/
def TemplatesSlip (groups : Nat) (templates : Declarations) : Prop :=
  ∃ before entry after, templates = before ++ entry :: after ∧
    (∀ e ∈ before, TemplateFits groups e.2) ∧ TemplateSlips groups entry.2

/-- To check templates is a misuse if the first one that does not fit slips. -/
theorem misused_checkTemplates_iff {templates : Declarations} :
    Misused (checkTemplates index groups templates) ↔ TemplatesSlip groups templates := by
  simp only [checkTemplates_eq, misused_forM_iff, checkTemplate_eq_ok_iff,
    misused_checkTemplate_iff, TemplatesSlip]

theorem reports_checkKey (index : Option Int) (groups : Nat) (property key : Text) :
    Reports IsReport (checkKey index groups property key) := by
  obtain ⟨-, h⟩ | ⟨-, -, message, h⟩ | ⟨-, -, h⟩ := checkKey_cases index groups property key
  · rw [h]
    exact reports_ok
  · rw [h]
    exact reports_refuse index message
  · rw [h]
    exact reports_misuse

/-- What does not fit is reported, or it is a misuse. -/
theorem reports_checkTemplates (index : Option Int) (groups : Nat) (templates : Declarations) :
    Reports IsReport (checkTemplates index groups templates) := by
  rw [checkTemplates_eq]
  refine Reports.forM fun entry => ?_
  rw [checkTemplate]
  split
  · exact reports_error ⟨_, _, _, rfl⟩
  · rw [checkFields_eq]
    exact Reports.forM (reports_checkKey index groups entry.1)

/-! ### Members -/

/-- A rule is an object with known members only, a pattern, properties and a priority. -/
def HasMembers (j : Json) (source : Text) (properties : List (Text × Json)) : Prop :=
  ∃ members priority, j = .object members ∧
    (∀ name ∈ members.map Prod.fst, name ∈ ruleMembers) ∧
    Json.member? "pattern".toList members = some (.string source) ∧ source ≠ [] ∧
    memberOr members "properties" (.object []) = .object properties ∧
    memberOr members "priority" (.int 0) = .int priority

/-- The layer of a rule. -/
def layerOf (j : Json) : Json :=
  (j.get? "layer").getD (.str "utilities")

section

variable {members : List (Text × Json)}

/-- The pattern of a rule is a text that is not empty. -/
theorem patternOf_eq_ok_iff {source : Text} :
    patternOf index members = .ok source ↔
      Json.member? "pattern".toList members = some (.string source) ∧ source ≠ [] := by
  rw [patternOf]
  split
  next c rest hmember =>
      rw [hmember]
      constructor
      · rintro ⟨⟩
        exact ⟨rfl, nofun⟩
      · rintro ⟨⟨⟩, -⟩
        rfl
  next hother =>
      refine iff_of_false nofun ?_
      rintro ⟨hmember, hne⟩
      cases source with
      | nil => exact hne rfl
      | cons c rest => exact hother c rest hmember

/-- The properties of a rule are an object, the empty one if there are none. -/
theorem propertiesOf_eq_ok_iff {properties : List (Text × Json)} :
    propertiesOf index members = .ok properties ↔
      memberOr members "properties" (.object []) = .object properties := by
  rw [propertiesOf]
  split
  next found hmember =>
      rw [hmember]
      exact ⟨fun h => by cases h; rfl, fun h => by cases h; rfl⟩
  next hother => exact iff_of_false nofun (hother properties)

/-- The priority of a rule is an integer, zero if there is none. -/
theorem priorityOf_eq_ok_iff {priority : Int} :
    priorityOf index members = .ok priority ↔
      memberOr members "priority" (.int 0) = .int priority := by
  rw [priorityOf]
  split
  next i hmember =>
      rw [hmember]
      exact ⟨fun h => by cases h; rfl, fun h => by cases h; rfl⟩
  next hother => exact iff_of_false nofun (hother priority)

theorem answers_patternOf : Answers index (patternOf index members) := by
  rw [patternOf]
  split
  · exact .inl ⟨_, rfl⟩
  · exact .inr ⟨_, rfl⟩

theorem answers_propertiesOf : Answers index (propertiesOf index members) := by
  rw [propertiesOf]
  split
  · exact .inl ⟨_, rfl⟩
  · exact .inr ⟨_, rfl⟩

theorem answers_priorityOf : Answers index (priorityOf index members) := by
  rw [priorityOf]
  split
  · exact .inl ⟨_, rfl⟩
  · exact .inr ⟨_, rfl⟩

/-- An object has the members of a rule if each of the checks on them passes. -/
theorem hasMembers_iff {source : Text} {properties : List (Text × Json)} (index : Option Int) :
    HasMembers (.object members) source properties ↔
      (∀ name ∈ members.map Prod.fst, name ∈ ruleMembers) ∧
      patternOf index members = .ok source ∧ propertiesOf index members = .ok properties ∧
      ∃ priority, priorityOf index members = .ok priority := by
  simp only [patternOf_eq_ok_iff, propertiesOf_eq_ok_iff, priorityOf_eq_ok_iff]
  constructor
  · rintro ⟨_, priority, ⟨⟩, hknown, hpattern, hne, hproperties, hpriority⟩
    exact ⟨hknown, ⟨hpattern, hne⟩, hproperties, priority, hpriority⟩
  · rintro ⟨hknown, ⟨hpattern, hne⟩, hproperties, priority, hpriority⟩
    exact ⟨members, priority, rfl, hknown, hpattern, hne, hproperties, hpriority⟩

theorem layerOf_object : layerOf (.object members) = memberOr members "layer" (.str "utilities") :=
  rfl

end

section

variable [Platform]

/-! ### Texts -/

/-- The properties can be written, and the templates are their texts. -/
def AreTexts (properties : List (Text × Json)) (templates : Declarations) : Prop :=
  (∀ p ∈ properties, p.2.IsShown) ∧ templates = properties.map fun (name, j) => (name, j.display)

/-- A rule whose properties can be written has them as its templates. -/
def IsRule (j : Json) (source : Text) (templates : Declarations) : Prop :=
  ∃ properties, HasMembers j source properties ∧ AreTexts properties templates

/-- The templates of a rule are the texts of its properties. -/
theorem templatesOf_eq_ok_iff {properties : List (Text × Json)} {templates : Declarations} :
    templatesOf properties = .ok templates ↔ AreTexts properties templates := by
  induction properties generalizing templates with
  | nil => simp [templatesOf, AreTexts, eq_comm]
  | cons p rest ih =>
      obtain ⟨name, j⟩ := p
      simp only [templatesOf, bind_eq_ok_iff, Json.shown_eq_ok_iff, ih, AreTexts,
        List.forall_mem_cons, List.map_cons]
      constructor
      · rintro ⟨_, ⟨hshown, rfl⟩, _, ⟨hrest, rfl⟩, ⟨⟩⟩
        exact ⟨⟨hshown, hrest⟩, rfl⟩
      · rintro ⟨⟨hshown, hrest⟩, rfl⟩
        exact ⟨_, ⟨hshown, rfl⟩, _, ⟨hrest, rfl⟩, rfl⟩

/-- To take properties for templates is a misuse if one of them cannot be written. -/
theorem misused_templatesOf_iff {properties : List (Text × Json)} :
    Misused (templatesOf properties) ↔ ∃ p ∈ properties, ¬ p.2.IsShown := by
  induction properties with
  | nil => exact iff_of_false not_misused_ok nofun
  | cons p rest ih =>
      obtain ⟨name, j⟩ := p
      have hpure {templates : Declarations} : ¬ Misused (pure templates : Outcome Declarations) :=
        not_misused_ok
      simp only [templatesOf, misused_bind, Json.misused_shown_iff, Json.shown_eq_ok_iff, ih, hpure,
        and_false, exists_false, or_false, List.exists_mem_cons_iff]
      constructor
      · rintro (h | ⟨_, -, h⟩)
        · exact .inl h
        · exact .inr h
      · intro h
        by_cases hshown : j.IsShown
        · exact .inr ⟨_, ⟨hshown, rfl⟩, h.resolve_left (not_not.2 hshown)⟩
        · exact .inl hshown

/-! ### Patterns -/

/-- A pattern that is not malformed and cannot be run: there is no room to read it, or it is beyond
the limits of the engine. -/
def PatternSlips (source : Text) : Prop :=
  Room.readsPattern source = false ∨
    ∃ fault, Pattern.ofText source {} = .error fault ∧
      ∀ problem position, fault ≠ .malformed problem position

/-- There is room to read a pattern, and it can be read. -/
def Reads (source : Text) (pattern : Pattern) : Prop :=
  Room.readsPattern source = true ∧ Pattern.ofText source {} = .ok pattern

/-- There is room to read a pattern, and it is malformed. -/
def IsMalformed (source : Text) : Prop :=
  Room.readsPattern source = true ∧
    ∃ problem position, Pattern.ofText source {} = .error (.malformed problem position)

/-- To check templates against a pattern is a misuse if the pattern slips, or if it is read and the
templates slip. -/
theorem misused_checkAgainst_iff {source : Text} {templates : Declarations} :
    Misused (checkAgainst index source templates) ↔
      PatternSlips source ∨
      ∃ pattern, Reads source pattern ∧ TemplatesSlip pattern.groups templates := by
  rw [checkAgainst, PatternSlips]
  simp only [Reads]
  cases Room.readsPattern source with
  | false => simp
  | true =>
      cases Pattern.ofText source {} with
      | ok pattern => simp [misused_checkTemplates_iff]
      | error fault => cases fault <;> simp

/-- The templates pass the check if each of them does, or if the pattern is malformed. -/
theorem checkAgainst_eq_ok_iff {source : Text} {templates : Declarations} :
    checkAgainst index source templates = .ok () ↔
      IsMalformed source ∨
      ∃ pattern, Reads source pattern ∧
        ∀ entry ∈ templates, TemplateFits pattern.groups entry.2 := by
  rw [checkAgainst, IsMalformed]
  simp only [Reads]
  cases Room.readsPattern source with
  | false => simp
  | true =>
      cases Pattern.ofText source {} with
      | ok pattern => simp [checkTemplates_eq, forM_eq_ok_iff, checkTemplate_eq_ok_iff]
      | error fault => cases fault <;> simp

/-! ### Rules -/

/-- What goes wrong with a rule and is not reported. -/
inductive RuleSlips (j : Json) : Prop where
  /-- A property cannot be written. -/
  | property {source : Text} {properties : List (Text × Json)} {p : Text × Json}
      (hmembers : HasMembers j source properties) (hp : p ∈ properties) (h : ¬ p.2.IsShown)
  | pattern {source : Text} {templates : Declarations} (hrule : IsRule j source templates)
      (h : PatternSlips source)
  | templates {source : Text} {templates : Declarations} {pattern : Pattern}
      (hrule : IsRule j source templates) (hpattern : Reads source pattern)
      (h : TemplatesSlip pattern.groups templates)
  /-- The layer cannot be written. -/
  | layer {source : Text} {templates : Declarations} (hrule : IsRule j source templates)
      (hfits : IsMalformed source ∨ ∃ pattern, Reads source pattern ∧
        ∀ entry ∈ templates, TemplateFits pattern.groups entry.2)
      (h : ¬ (layerOf j).IsShown)

/-- The checks that come first report what they find.  What is left is to write the properties, to
check them against the pattern, and to write the layer. -/
theorem misused_readObject_iff {members : List (Text × Json)} :
    Misused (readRule (.object members) index) ↔
      ∃ source properties, HasMembers (.object members) source properties ∧
        (Misused (templatesOf properties) ∨ ∃ templates, templatesOf properties = .ok templates ∧
          (Misused (checkAgainst index source templates) ∨
            checkAgainst index source templates = .ok () ∧
              ¬ (layerOf (.object members)).IsShown)) := by
  simp only [hasMembers_iff index, layerOf_object, ← Json.misused_shown_iff]
  have hunknown : (members.map Prod.fst).filter (!ruleMembers.contains ·) = [] ↔
      ∀ name ∈ members.map Prod.fst, name ∈ ruleMembers := by
    simp [List.filter_eq_nil_iff]
  have hpure {rule : Rule} : ¬ Misused (pure rule : Outcome Rule) := not_misused_ok
  rw [readRule]
  by_cases hknown : ∀ name ∈ members.map Prod.fst, name ∈ ruleMembers
  · rw [if_neg (by simpa using hunknown.2 hknown)]
    simp only [misused_bind, answers_patternOf.not_misused, answers_propertiesOf.not_misused,
      answers_priorityOf.not_misused, false_or, hpure, and_false, exists_false, or_false]
    constructor
    · rintro ⟨source, hpattern, properties, hproperties, priority, hpriority, h⟩
      refine ⟨source, properties, ⟨hknown, hpattern, hproperties, priority, hpriority⟩, ?_⟩
      refine h.imp_right ?_
      rintro ⟨templates, htemplates, h⟩
      exact ⟨templates, htemplates, h.imp_right fun ⟨_, hchecked, hlayer⟩ => ⟨hchecked, hlayer⟩⟩
    · rintro ⟨source, properties, ⟨-, hpattern, hproperties, priority, hpriority⟩, h⟩
      refine ⟨source, hpattern, properties, hproperties, priority, hpriority, h.imp_right ?_⟩
      rintro ⟨templates, htemplates, h⟩
      exact ⟨templates, htemplates, h.imp_right fun ⟨hchecked, hlayer⟩ => ⟨(), hchecked, hlayer⟩⟩
  · rw [if_pos (by simpa using mt hunknown.1 hknown)]
    refine iff_of_false ?_ fun ⟨_, _, h, _⟩ => hknown h.1
    rintro ⟨kind, h⟩
    cases h

/-- **What slips**: to read a rule is a misuse if and only if something in it slips. -/
theorem misused_readRule_iff : Misused (readRule j index) ↔ RuleSlips j := by
  cases j with
  | object members =>
      simp only [misused_readObject_iff, misused_templatesOf_iff, templatesOf_eq_ok_iff,
        misused_checkAgainst_iff, checkAgainst_eq_ok_iff]
      constructor
      · rintro ⟨source, properties, hmembers, ⟨p, hp, h⟩ | ⟨templates, htemplates, h⟩⟩
        · exact .property hmembers hp h
        · have hrule : IsRule (.object members) source templates :=
            ⟨properties, hmembers, htemplates⟩
          obtain (h | ⟨pattern, hpattern, h⟩) | ⟨hfits, h⟩ := h
          · exact .pattern hrule h
          · exact .templates hrule hpattern h
          · exact .layer hrule hfits h
      · rintro (⟨hmembers, hp, h⟩ | ⟨⟨properties, hmembers, htemplates⟩, h⟩ |
          ⟨⟨properties, hmembers, htemplates⟩, hpattern, h⟩ |
          ⟨⟨properties, hmembers, htemplates⟩, hfits, h⟩)
        · exact ⟨_, _, hmembers, .inl ⟨_, hp, h⟩⟩
        · exact ⟨_, _, hmembers, .inr ⟨_, htemplates, .inl (.inl h)⟩⟩
        · exact ⟨_, _, hmembers, .inr ⟨_, htemplates, .inl (.inr ⟨_, hpattern, h⟩)⟩⟩
        · exact ⟨_, _, hmembers, .inr ⟨_, htemplates, .inr ⟨hfits, h⟩⟩⟩
  | null | bool | number | string | array =>
      refine iff_of_false not_misused_refuse ?_
      rintro (⟨⟨_, _, ⟨⟩, -⟩, -⟩ | ⟨⟨_, ⟨_, _, ⟨⟩, -⟩, -⟩, -⟩ | ⟨⟨_, ⟨_, _, ⟨⟩, -⟩, -⟩, -⟩ |
        ⟨⟨_, ⟨_, _, ⟨⟩, -⟩, -⟩, -⟩)

theorem reports_checkAgainst (index : Option Int) (source : Text) (templates : Declarations) :
    Reports IsReport (checkAgainst index source templates) := by
  rw [checkAgainst]
  split
  · exact reports_misuse
  · split
    · exact reports_checkTemplates _ _ _
    · exact reports_ok
    · exact reports_misuse

theorem reports_templatesOf (properties : List (Text × Json)) :
    Reports IsReport (templatesOf properties) := by
  induction properties with
  | nil => exact reports_ok
  | cons p rest ih =>
      exact (Json.reports_shown p.2).bind fun _ => ih.bind fun _ => reports_ok

/-- **What is reported**: a rule that is neither read nor a misuse is refused. -/
theorem reports_readRule (j : Json) (index : Option Int) :
    Reports IsReport (readRule j index) := by
  cases j with
  | object members =>
      rw [readRule]
      split
      · exact reports_refuse index _
      · refine answers_patternOf.reports.bind fun source => ?_
        refine answers_propertiesOf.reports.bind fun properties => ?_
        refine answers_priorityOf.reports.bind fun priority => ?_
        refine (reports_templatesOf properties).bind fun templates => ?_
        refine (reports_checkAgainst index source templates).bind fun _ => ?_
        exact (Json.reports_shown _).bind fun _ => reports_ok
  | null | bool | number | string | array => exact reports_refuse index _

end

end Document

end UtilityCss

import UtilityCss.Platform.Plain
import UtilityCss.Proofs.Document.Rules
import UtilityCss.Proofs.Registry.Order
import UtilityCss.Proofs.Registry.Roster
import UtilityCss.Proofs.Template.Faults

/-!
# Rule documents — the declarations that a rule generates

A rule of a document makes its declarations from templates.  A template that cannot be filled with
the captures of a utility is meant to give none, and no failure: so one rule cannot keep the other
classes of a list from being compiled.

**What is generated** (`generate_settled`).  Whatever utility a rule of a document claims, and
whatever the theme, as long as the scale that the rule looks up in is an object or not there: the
rule generates declarations or none, unless the captures slip through its handler
(`TemplateHandler.Slips`):

* a field, of a template or of a layout in one, asks for an attribute, or asks a text for a place
  that is no number;
* the value that the theme has cannot be written as a text;
* a layout asks for a text that is wider than the memory holds.

The check of the document looks at the first name of a field only, so it lets all of them pass.  A
text may lack the attribute, and that is a failure (`not_always_generated`).
-/

namespace UtilityCss

section

variable [Platform]

namespace TemplateHandler

/-- Every fault of filling the templates is caught if each template's are. -/
theorem caught_fillAll (f : Template.Filling) {properties : Declarations}
    (h : ∀ entry ∈ properties, Template.Caught (Template.fill f entry.2)) :
    Template.Caught (fillAll f properties) := by
  induction properties with
  | nil => exact Template.caught_ok
  | cons entry rest ih =>
      rw [List.forall_mem_cons] at h
      rw [fillAll]
      split
      next fault hfault => exact Template.caught_error (h.1 fault hfault)
      next => exact (ih h.2).map _

/-- There are declarations for a value, or none, or a fault that is not caught. -/
theorem declarationsFor_cases (h : TemplateHandler) (captures : List Text) (value : Text) :
    (∃ declarations log, h.declarationsFor captures value = (.ok declarations, log)) ∨
    ∃ fault misuse log,
      fillAll ⟨captures, if h.arbitrary then ClassToken.normalizeArbitrary value else value⟩
        h.properties = .error fault ∧ fault.misuse? = some misuse ∧
      h.declarationsFor captures value = (.error (.misuse misuse), log) := by
  rw [declarationsFor]
  split
  · exact .inl ⟨_, _, rfl⟩
  next fault hfault =>
      split
      next misuse hmisuse => exact .inr ⟨fault, misuse, _, hfault, hmisuse, rfl⟩
      next => exact .inl ⟨_, _, rfl⟩

/-- The value that a handler has for a capture under a theme: the capture itself, or what the scale
has for it. -/
inductive LooksUp (h : TemplateHandler) (theme : Theme) (captured : Text) : Json → Prop where
  | own (hkey : h.themeKey = .null) : LooksUp h theme captured (.string captured)
  | scaled {members : List (Text × Json)} {value : Json} (hkey : h.themeKey ≠ .null)
      (hscale : theme.get? h.themeKey = some (.object members))
      (hvalue : Json.member? captured members = some value) : LooksUp h theme captured value

/-- There is no key, or it is a name under which the theme has an object or nothing. -/
def HasScale (h : TemplateHandler) (theme : Theme) : Prop :=
  h.themeKey = .null ∨ ∃ name, h.themeKey = .string name ∧
    ∀ scale, theme.get? (.string name) = some scale → ∃ members, scale = .object members

/-- Looking a capture up gives nothing, or the text of the value that there is, as far as that can
be written. -/
theorem themeValue_cases {h : TemplateHandler} {theme : Theme} (hscale : h.HasScale theme)
    (captured : Text) :
    h.themeValue theme captured = .ok none ∨
    ∃ value, h.LooksUp theme captured value ∧
      h.themeValue theme captured = value.shown.map some := by
  rw [themeValue]
  obtain hnull | ⟨name, hname, hscale⟩ := hscale
  · rw [hnull]
    exact .inr ⟨_, .own hnull, rfl⟩
  · rw [hname]
    simp only [Json.key?, Option.isNone_some, Bool.false_eq_true, if_false]
    cases hfound : theme.get? (.string name) with
    | none => exact .inl rfl
    | some scale =>
        obtain ⟨members, rfl⟩ := hscale scale hfound
        dsimp only
        split
        · rw [scaleValue]
          cases hvalue : Json.member? captured members with
          | none => exact .inl rfl
          | some value =>
              have hkey : h.themeKey ≠ .null := fun hnull => by cases hname.symm.trans hnull
              exact .inr ⟨value, .scaled hkey (by rwa [hname]) hvalue, rfl⟩
        · exact .inl rfl

/-- What keeps a handler from making declarations or none of captures. -/
inductive Slips (h : TemplateHandler) (captures : List Text) (theme : Theme) : Prop where
  /-- A field, of a template or of a layout in one, asks for an attribute, or asks a text for a
  place that is no number. -/
  | snag {entry : Text × Text} {field : Template.Field} (hentry : entry ∈ h.properties)
      (hfield : field ∈ Template.fields entry.2) (hsnags : field.Snags)
  /-- The value cannot be written. -/
  | value {captured : Text} {value : Json} (hcaptured : capturedValue captures = .ok captured)
      (hvalue : h.LooksUp theme captured value) (hshown : ¬ value.IsShown)
  /-- A layout asks for a text that is wider than the memory holds. -/
  | width {captured : Text} {value : Json} {entry : Text × Text} {field : Template.Field}
      (hcaptured : capturedValue captures = .ok captured)
      (hvalue : h.LooksUp theme captured value) (hentry : entry ∈ h.properties)
      (hfield : field ∈ Template.fields entry.2)
      (hoverflows : field.Overflows ⟨captures,
        if h.arbitrary then ClassToken.normalizeArbitrary value.display else value.display⟩)

/-- **A handler** that has its scale makes declarations of captures, or none, or they slip. -/
theorem generate_cases {h : TemplateHandler} {theme : Theme} (hscale : h.HasScale theme)
    (whole : Text) (groups : List Text) :
    (∃ declarations log, h.generate (whole :: groups) theme = (.ok declarations, log)) ∨
    h.Slips (whole :: groups) theme ∧
      ∃ misuse log, h.generate (whole :: groups) theme = (.error (.misuse misuse), log) := by
  obtain ⟨captured, hcaptured⟩ : ∃ captured, capturedValue (whole :: groups) = .ok captured := by
    cases groups with
    | nil => exact ⟨whole, rfl⟩
    | cons group groups => exact ⟨group, rfl⟩
  rw [generate, hcaptured]
  dsimp only
  obtain hnone | ⟨value, hvalue, hthemed⟩ := themeValue_cases hscale captured
  · rw [hnone]
    exact .inl ⟨none, [], rfl⟩
  · rw [hthemed]
    obtain ⟨-, hshown⟩ | ⟨hnot, misuse, hshown⟩ := value.shown_cases
    · rw [hshown]
      obtain hmade | ⟨fault, misuse, log, hfill, hmisuse, hfails⟩ :=
        declarationsFor_cases h (whole :: groups) value.display
      · exact .inl hmade
      · refine .inr ⟨?_, misuse, log, hfails⟩
        -- if nothing snags or overflows, every fault is caught, and this one is not
        by_contra hslips
        have hcaught := caught_fillAll _ fun entry hentry => Template.caught_fill _
          fun field hfield => ⟨fun hsnags => hslips (.snag hentry hfield hsnags),
            fun hoverflows => hslips (.width hcaptured hvalue hentry hfield hoverflows)⟩
        rw [hcaught fault hfill] at hmisuse
        cases hmisuse
    · rw [hshown]
      exact .inr ⟨.value hcaptured hvalue hnot, misuse, [], rfl⟩

end TemplateHandler

namespace Document

variable {j : Json} {index : Option Int} {rule : Rule}

/-- The handler of a rule with templates. -/
def handlerOf (j : Json) (templates : Declarations) : TemplateHandler :=
  ⟨templates, (j.get? "theme_key").getD .null, ((j.get? "arbitrary").getD (.bool false)).isTruthy⟩

/-- A rule that has been read has the handler of its templates. -/
theorem handler_of_readRule (h : readRule j index = .ok rule) :
    ∃ source templates, IsRule j source templates ∧
      rule.handler = some (.template (handlerOf j templates)) := by
  cases j with
  | null | bool | number | string | array => cases h
  | object members =>
      have hunknown : (members.map Prod.fst).filter (!ruleMembers.contains ·) = [] ↔
          ∀ name ∈ members.map Prod.fst, name ∈ ruleMembers := by
        simp [List.filter_eq_nil_iff]
      rw [readRule] at h
      split at h
      · cases h
      next hknown =>
          obtain ⟨source, hpattern, h⟩ := bind_eq_ok_iff.1 h
          obtain ⟨properties, hproperties, h⟩ := bind_eq_ok_iff.1 h
          obtain ⟨priority, hpriority, h⟩ := bind_eq_ok_iff.1 h
          obtain ⟨templates, htemplates, h⟩ := bind_eq_ok_iff.1 h
          obtain ⟨-, -, h⟩ := bind_eq_ok_iff.1 h
          obtain ⟨layer, -, h⟩ := bind_eq_ok_iff.1 h
          cases h
          refine ⟨source, templates, ⟨properties, ?_, templatesOf_eq_ok_iff.1 htemplates⟩, rfl⟩
          exact (hasMembers_iff index).2
            ⟨hunknown.1 (by simpa using hknown), hpattern, hproperties, priority, hpriority⟩

/-- What keeps a rule of a document from generating declarations or none. -/
def GenerationSlips (j : Json) (captures : List Text) (theme : Theme) : Prop :=
  ∃ source templates, IsRule j source templates ∧ (handlerOf j templates).Slips captures theme

/-- **What is generated.**  Let a rule be read from a document, and let it claim a utility.  Let the
theme have, under the key that the rule brings, an object or nothing; the key may be missing or
null.  Then the rule generates declarations or none; or the captures slip through its handler, and
the failure is a misuse. -/
theorem generate_settled (hread : readRule j index = .ok rule) {compiled : CompiledRule}
    (hcompile : rule.compile = .ok compiled) {utility : Text} {found : Match}
    (hclaim : compiled.match? utility = some found) {theme : Theme}
    (hscale : ∀ key, j.get? "theme_key" = some key → key = .null ∨ ∃ name, key = .string name ∧
      ∀ scale, theme.get? key = some scale → ∃ members, scale = .object members) :
    (∃ declarations log, found.generate theme = (.ok declarations, log)) ∨
    GenerationSlips j found.captures theme ∧
      ∃ misuse log, found.generate theme = (.error (.misuse misuse), log) := by
  obtain ⟨source, templates, hrule, hhandler⟩ := handler_of_readRule hread
  have hown : found.rule.rule.handler = rule.handler := by
    rw [Registry.rule_of_match? hclaim, (Registry.name_of_compile hcompile).2]
  have hkey : (handlerOf j templates).HasScale theme := by
    rw [TemplateHandler.HasScale, handlerOf]
    cases hmember : j.get? "theme_key" with
    | none => exact .inl rfl
    | some key =>
        refine (hscale key hmember).imp_right ?_
        rintro ⟨name, rfl, hobject⟩
        exact ⟨name, rfl, hobject⟩
  rw [Match.generate, hown, hhandler]
  obtain hmade | ⟨hslips, hfails⟩ :=
    TemplateHandler.generate_cases hkey found.utility (found.groups.map (·.getD []))
  · exact .inl hmade
  · exact .inr ⟨⟨source, templates, hrule, hslips⟩, hfails⟩

end Document

end

namespace Document

/-- The rule of a document claims a utility; its captures and what it generates pass a check. -/
def generates (check : List Text → Outcome (Option Declarations) → Bool) (j : Json)
    (utility : Text) (theme : Theme) : Bool :=
  match readRule j none with
  | .error _ => false
  | .ok rule =>
    match rule.compile with
    | .error _ => false
    | .ok compiled =>
      match compiled.match? utility with
      | none => false
      | some found => check found.captures (found.generate theme).1

theorem exists_of_generates {check : List Text → Outcome (Option Declarations) → Bool} {j : Json}
    {utility : Text} {theme : Theme} (h : generates check j utility theme = true) :
    ∃ rule compiled found, readRule j none = .ok rule ∧ rule.compile = .ok compiled ∧
      compiled.match? utility = some found ∧
      check found.captures (found.generate theme).1 = true := by
  rw [generates] at h
  split at h
  · cases h
  next rule hread =>
      split at h
      · cases h
      next compiled hcompile =>
          split at h
          · cases h
          next found hclaim => exact ⟨rule, compiled, found, hread, hcompile, hclaim, h⟩

/-- A rule with one property. -/
def oneProperty (template : String) (rest : List (Text × Json)) : Json :=
  .object (("pattern".toList, .str "p-(\\d+)") ::
    ("properties".toList, .object [("padding".toList, .str template)]) :: rest)

/-- Spacing of one size. -/
def oneSize : Theme :=
  [(.str "spacing", .object [("5".toList, .str "1rem")])]

/-- The value of the theme is a text, and the layout asks for one of five characters. -/
theorem not_slips_layout :
    ¬ GenerationSlips
      (oneProperty "\x7bvalue:\x7b1\x7d\x7d" [("theme_key".toList, .str "spacing")])
      ["p-5".toList, "5".toList] oneSize := by
  rintro ⟨source, templates, ⟨properties, ⟨members, priority, hobject, -, -, -, hproperties, -⟩, -,
    rfl⟩, hslips⟩
  cases hobject
  cases hproperties
  have hfields : ∀ field ∈ Template.fields "\x7bvalue:\x7b1\x7d\x7d".toList,
      field = ⟨"value".toList, none, "\x7b1\x7d".toList, true⟩ ∨
        field = ⟨['1'], none, [], false⟩ := by
    decide
  have hvalue {h : TemplateHandler} {captured : Text} {value : Json}
      (hkey : h.themeKey = .str "spacing") (hvalue : h.LooksUp oneSize captured value) :
      value = .str "1rem" := by
    cases hvalue with
    | own hnull => cases hkey.symm.trans hnull
    | scaled _ hscale hvalue =>
        rw [hkey] at hscale
        cases hscale
        obtain ⟨-, rfl⟩ : "5".toList = captured ∧ Json.str "1rem" = value := by
          simpa [Json.member?] using hvalue
        rfl
  cases hslips with
  | snag hentry hfield hsnags =>
      obtain rfl := List.mem_singleton.1 hentry
      obtain rfl | rfl := hfields _ hfield <;> cases hsnags
  | value hcaptured hfound hshown =>
      rw [hvalue rfl hfound] at hshown
      exact hshown (.inl ⟨_, rfl⟩)
  | width hcaptured hfound hentry hfield hoverflows =>
      rw [hvalue rfl hfound] at hoverflows
      obtain rfl := List.mem_singleton.1 hentry
      obtain ⟨layout, hlayout, l, hread, hwide⟩ := hoverflows
      obtain rfl | rfl := hfields _ hfield
      · obtain ⟨depth, numbering, after, hfill⟩ := hlayout
        cases depth with
        | zero => cases hfill
        | succ depth =>
            cases numbering with
            | automatic n => cases hfill
            | undecided | manual =>
                cases hfill
                cases hread
                cases hwide
      · cases hlayout
        cases hread
        cases hwide

/-- A value of the theme that is laid out by the first group. -/
theorem generate_settled_layout :
    let j := oneProperty "\x7bvalue:\x7b1\x7d\x7d" [("theme_key".toList, .str "spacing")]
    ∃ rule compiled found, readRule j none = .ok rule ∧ rule.compile = .ok compiled ∧
      compiled.match? "p-5".toList = some found ∧ ¬ GenerationSlips j found.captures oneSize ∧
      ∃ declarations log, found.generate oneSize = (.ok declarations, log) := by
  intro j
  obtain ⟨rule, compiled, found, hread, hcompile, hclaim, hcheck⟩ := exists_of_generates
    (show generates (fun captures _ => captures == ["p-5".toList, "5".toList]) j "p-5".toList
      oneSize from by decide +kernel)
  have hslips : ¬ GenerationSlips j found.captures oneSize := by
    rw [eq_of_beq hcheck]
    exact not_slips_layout
  refine ⟨rule, compiled, found, hread, hcompile, hclaim, hslips, ?_⟩
  refine (generate_settled hread hcompile hclaim ?_).resolve_right fun h => hslips h.1
  rintro key hkey
  obtain rfl : .str "spacing" = key := Option.some.inj hkey
  refine .inr ⟨_, rfl, fun scale hscale => ?_⟩
  obtain rfl := Option.some.inj hscale
  exact ⟨_, rfl⟩

/-- A template that asks the value for an attribute is a failure. -/
theorem not_always_generated :
    ¬ ∀ (j : Json) (index : Option Int) (rule : Rule) (compiled : CompiledRule) (utility : Text)
      (found : Match) (theme : Theme), readRule j index = .ok rule → rule.compile = .ok compiled →
      compiled.match? utility = some found → (∀ key, j.get? "theme_key" = some key → key = .null) →
      ∃ declarations log, found.generate theme = (.ok declarations, log) := by
  intro hall
  have hfails : generates (fun _ made => !made.toBool) (oneProperty "\x7bvalue.px\x7d" [])
      "p-4".toList [] := by
    decide +kernel
  obtain ⟨rule, compiled, found, hread, hcompile, hclaim, hfailure⟩ := exists_of_generates hfails
  obtain ⟨declarations, log, hok⟩ :=
    hall _ none rule compiled _ found [] hread hcompile hclaim (fun key hkey => by cases hkey)
  rw [hok] at hfailure
  cases hfailure

end Document

end UtilityCss

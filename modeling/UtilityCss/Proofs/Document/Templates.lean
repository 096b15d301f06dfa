import Mathlib.Data.List.Forall2
import UtilityCss.Platform.Plain
import UtilityCss.Proofs.Template.Plain

/-!
# Rule documents — templates that are accepted

The templates of a rule are checked when its document is read, and filled when the rule generates
declarations.  The check knows how many groups the pattern has, and nothing of the utilities to
come.

**Accepted templates** (`readRule_isOk_iff_generates`).  Let everything else about a rule be in
order, and its templates be plain.  Then the rule is accepted if and only if a handler with its
templates and without a key of the theme generates declarations for all captures of that number,
under every theme.  The declarations are the properties in their order, each with what its template
says.
-/

namespace UtilityCss

namespace TemplateHandler

variable [Platform]

/-- All templates are filled, in their order. -/
theorem fillAll_eq_ok_iff {f : Template.Filling} {templates declarations : Declarations} :
    fillAll f templates = .ok declarations ↔
      List.Forall₂ (fun template declaration => declaration.1 = template.1 ∧
        Template.fill f template.2 = .ok declaration.2) templates declarations := by
  induction templates generalizing declarations with
  | nil => cases declarations <;> simp [fillAll]
  | cons entry rest ih =>
      obtain ⟨name, template⟩ := entry
      rw [fillAll, List.forall₂_cons_left_iff]
      cases hfill : Template.fill f template with
      | error fault => simp
      | ok u =>
          cases hrest : fillAll f rest with
          | error fault => simp [Except.map, ← ih, hrest]
          | ok filled =>
              constructor
              · rintro ⟨⟩
                exact ⟨(name, u), filled, ⟨rfl, rfl⟩, ih.1 hrest, rfl⟩
              · rintro ⟨⟨name', u'⟩, filled', ⟨hname, hu⟩, hfilled, rfl⟩
                cases hname
                cases hu
                cases hrest.symm.trans (ih.2 hfilled)
                rfl

theorem exists_fillAll_iff {f : Template.Filling} {templates : Declarations} :
    (∃ declarations, fillAll f templates = .ok declarations) ↔
      ∀ entry ∈ templates, ∃ u, Template.fill f entry.2 = .ok u := by
  induction templates with
  | nil => exact iff_of_true ⟨[], rfl⟩ nofun
  | cons entry rest ih =>
      obtain ⟨name, template⟩ := entry
      rw [List.forall_mem_cons, ← ih, fillAll]
      cases Template.fill f template with
      | error fault => simp
      | ok u => cases fillAll f rest <;> simp [Except.map]

/-- Without a key of the theme, declarations come from the captures alone. -/
theorem generate_eq_some_iff {templates declarations : Declarations} {arbitrary : Bool}
    {captures : List Text} {theme : Theme} :
    (generate ⟨templates, .null, arbitrary⟩ captures theme).1 = .ok (some declarations) ↔
      ∃ value, capturedValue captures = .ok value ∧
        fillAll ⟨captures, if arbitrary then ClassToken.normalizeArbitrary value else value⟩
          templates = .ok declarations := by
  rw [generate]
  cases hvalue : capturedValue captures with
  | error failure => simp
  | ok value =>
      simp only [themeValue, declarationsFor, Except.ok.injEq, exists_eq_left']
      split
      next filled hfilled => simp [hfilled]
      next fault hfault =>
          rw [hfault]
          split <;> simp

end TemplateHandler

namespace Document

variable {j : Json} {index : Option Int} {source : Text} {templates : Declarations}

section

variable [Platform]

/-- A rule whose members are in order, and whose properties and layer can be written, is accepted if
its templates pass the check. -/
theorem IsRule.isOk_readRule_iff (h : IsRule j source templates) (hlayer : (layerOf j).IsShown) :
    (∃ rule, readRule j index = .ok rule) ↔ checkAgainst index source templates = .ok () := by
  obtain ⟨properties, hmembers, htexts⟩ := h
  have hobject := hmembers
  obtain ⟨members, -, rfl, -⟩ := hobject
  obtain ⟨hknown, hpattern, hproperties, priority, hpriority⟩ := (hasMembers_iff index).1 hmembers
  have hunknown : (members.map Prod.fst).filter (!ruleMembers.contains ·) = [] := by
    simpa [List.filter_eq_nil_iff] using hknown
  rw [layerOf_object] at hlayer
  rw [readRule, if_neg (by simpa using hunknown)]
  simp only [bind_eq_ok_iff, hpattern, hproperties, hpriority,
    Json.shown_eq_ok_iff.2 ⟨hlayer, rfl⟩, Except.ok.injEq, exists_eq_left']
  constructor
  · rintro ⟨rule, templates', htexts', _, hcheck, -⟩
    rwa [htexts.2, ← (templatesOf_eq_ok_iff.1 htexts').2]
  · intro hcheck
    exact ⟨_, templates, templatesOf_eq_ok_iff.2 htexts, (), hcheck, rfl⟩

/-- The templates pass the check of a pattern that can be read if each of them does. -/
theorem Reads.checkAgainst_eq_ok_iff {pattern : Pattern} (h : Reads source pattern) :
    checkAgainst index source templates = .ok () ↔
      ∀ entry ∈ templates, TemplateFits pattern.groups entry.2 := by
  rw [Document.checkAgainst_eq_ok_iff]
  constructor
  · rintro (⟨-, problem, position, hmalformed⟩ | ⟨read, hread, hfits⟩)
    · cases h.2.symm.trans hmalformed
    · cases h.2.symm.trans hread.2
      exact hfits
  · intro hfits
    exact .inr ⟨pattern, h, hfits⟩

/-- **Accepted templates.** Let the members of a rule be in order, its pattern be valid, its layer
one that can be written and its templates plain. The rule is accepted if and only if a handler of
its templates, without a key of the theme, generates declarations for all captures of as many
groups as the pattern has, under every theme. If it generates declarations, they are the
properties in their order, each with what its template says of the captures and of the value: the
first group, or the whole if there is none. -/
theorem readRule_isOk_iff_generates (hrule : IsRule j source templates)
    (hlayer : (layerOf j).IsShown) {pattern : Pattern} (hpattern : Reads source pattern)
    (hplain : ∀ entry ∈ templates, Template.Plain entry.2) (index : Option Int)
    (arbitrary : Bool) :
    let handler : TemplateHandler := ⟨templates, .null, arbitrary⟩
    ((∃ rule, readRule j index = .ok rule) ↔
      ∀ captures theme, captures.length = pattern.groups + 1 →
        ∃ declarations, (handler.generate captures theme).1 = .ok (some declarations)) ∧
    ∀ captures theme declarations,
      (handler.generate captures theme).1 = .ok (some declarations) →
      ∃ value, TemplateHandler.capturedValue captures = .ok value ∧
        List.Forall₂ (fun template declaration => declaration.1 = template.1 ∧
          Template.Expands captures
            (if arbitrary then ClassToken.normalizeArbitrary value else value) 0 template.2
            declaration.2) templates declarations := by
  intro handler
  simp only [hrule.isOk_readRule_iff hlayer, hpattern.checkAgainst_eq_ok_iff, handler,
    TemplateHandler.generate_eq_some_iff]
  refine ⟨⟨fun hfits captures theme hcaptures => ?_, fun hall entry hentry => ?_⟩,
    fun captures theme declarations hgenerate => ?_⟩
  · have hvalue : ∃ value, TemplateHandler.capturedValue captures = .ok value := by
      match captures with
      | [whole] => exact ⟨whole, rfl⟩
      | whole :: value :: rest => exact ⟨value, rfl⟩
    obtain ⟨value, hvalue⟩ := hvalue
    obtain ⟨declarations, hfill⟩ :=
      (TemplateHandler.exists_fillAll_iff (f := ⟨captures,
        if arbitrary then ClassToken.normalizeArbitrary value else value⟩)).2 fun entry hentry =>
          ((hplain entry hentry).isOk_fill_iff hcaptures).2 (hfits entry hentry)
    exact ⟨declarations, value, hvalue, hfill⟩
  · have hcaptures := List.length_replicate (a := ([] : Text)) (n := pattern.groups + 1)
    obtain ⟨declarations, value, -, hfill⟩ := hall _ [] hcaptures
    have hfilled := TemplateHandler.exists_fillAll_iff.1 ⟨declarations, hfill⟩ entry hentry
    exact ((hplain entry hentry).isOk_fill_iff hcaptures).1 hfilled
  · obtain ⟨value, hvalue, hfill⟩ := hgenerate
    refine ⟨value, hvalue, ?_⟩
    rw [TemplateHandler.fillAll_eq_ok_iff] at hfill
    refine ((List.forall₂_and_left _ _).2 ⟨hplain, hfill⟩).imp ?_
    rintro template declaration ⟨hentry, hname, hfilled⟩
    exact ⟨hname, hentry.expands hfilled⟩

end

/-- Numbered fields, the value in doubled braces, and fields that are numbered in turn. -/
theorem readRule_isOk_iff_generates_padding :
    let properties : List (Text × Text) :=
      [("padding".toList, "\x7b1\x7dpx \x7b\x7b\x7bvalue\x7d\x7d\x7d".toList),
        ("margin".toList, "\x7b\x7d \x7b\x7d".toList)]
    let j : Json := .object [("pattern".toList, .str "p-(\\d+)"),
      ("properties".toList, .object (properties.map fun (name, t) => (name, .string t)))]
    ∃ pattern, IsRule j "p-(\\d+)".toList properties ∧ (layerOf j).IsShown ∧
      Reads "p-(\\d+)".toList pattern ∧
      (∀ entry ∈ properties, Template.Plain entry.2) ∧
      ∀ captures theme, captures.length = pattern.groups + 1 →
        ∃ declarations, (TemplateHandler.generate ⟨properties, .null, false⟩ captures theme).1 =
          .ok (some declarations) := by
  intro properties j
  have hshown : ∀ p ∈ properties.map fun (name, t) => (name, Json.string t), p.2.IsShown := by
    intro p hp
    obtain ⟨entry, -, rfl⟩ := List.mem_map.1 hp
    exact .inl ⟨_, rfl⟩
  have hrule : IsRule j "p-(\\d+)".toList properties :=
    ⟨_, ⟨_, 0, rfl, by decide, rfl, by decide, rfl, rfl⟩, hshown, rfl⟩
  have hlayer : (layerOf j).IsShown := .inl ⟨_, rfl⟩
  have hplain : ∀ entry ∈ properties, Template.Plain entry.2 := by decide +kernel
  have hvalid : (Pattern.ofText "p-(\\d+)".toList {}).toOption.isSome := by decide +kernel
  have haccepted : (readRule j none).toOption.isSome := by decide +kernel
  cases hpattern : Pattern.ofText "p-(\\d+)".toList {} with
  | error fault => rw [hpattern] at hvalid; cases hvalid
  | ok pattern =>
      have hreads : Reads "p-(\\d+)".toList pattern := ⟨rfl, hpattern⟩
      refine ⟨pattern, hrule, hlayer, hreads, hplain, ?_⟩
      refine (readRule_isOk_iff_generates hrule hlayer hreads hplain none false).1.1 ?_
      cases hread : readRule j none with
      | error failure => rw [hread] at haccepted; cases haccepted
      | ok rule => exact ⟨rule, rfl⟩

end Document

end UtilityCss

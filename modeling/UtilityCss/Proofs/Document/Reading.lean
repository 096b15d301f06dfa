import UtilityCss.Platform.Plain
import UtilityCss.Proofs.Config.Reading
import UtilityCss.Proofs.Document.Rules

/-!
# Rule documents — what is reported and what is not

Reading a document is meant to report whatever is wrong with it.

**What is reported** (`ofJson_reported_iff`).  A value of any shape is read as a document or
reported, unless it slips through (`Slips`): unless, with nothing to report before that,

* a rule slips through (`RuleSlips`);
* the configuration slips through (`Config.Slips`), as one does whose blocklist is a number
  (`not_always_settled`);
* the theme is no table.
-/

namespace UtilityCss.Document

variable {j : Json}

/-! ### Settings -/

/-- A configuration that is no misuse on its own is none in a document. -/
theorem misused_readConfig_iff : Misused (readConfig j) ↔ Config.Slips j := by
  rw [readConfig, ← Config.misused_ofJson_iff]
  split
  next message hconfig => simp [hconfig, Misused]
  next => rfl

/-- The configuration of a document is that which the value gives on its own. -/
theorem readConfig_eq_ok_iff {config : Config} :
    readConfig j = .ok config ↔ Config.ofJson j = .ok config := by
  rw [readConfig]
  split
  next message hconfig => simp [hconfig]
  next => rfl

/-- A configuration that cannot be read is reported as that of a document, or it is a misuse. -/
theorem reports_readConfig (j : Json) : Reports IsReport (readConfig j) := by
  rw [readConfig]
  split
  · exact reports_error ⟨_, _, _, rfl⟩
  next hother =>
      intro failure hfailure
      obtain ⟨message, rfl⟩ | hmisuse := Config.reports_ofJson j failure hfailure
      · exact absurd hfailure (hother message)
      · exact .inr hmisuse

section

variable [Platform]

/-! ### Rules -/

/-- Rules are read if the first one is and the others are, with the numbers that follow. -/
theorem readRules_cons_isOk_iff {items : List Json} {n : Int} :
    (∃ rules, readRules n (j :: items) = .ok rules) ↔
      (∃ rule, readRule j (some n) = .ok rule) ∧ ∃ rules, readRules (n + 1) items = .ok rules := by
  simp only [readRules, bind_eq_ok_iff]
  constructor
  · rintro ⟨_, rule, hrule, rules, hrules, -⟩
    exact ⟨⟨rule, hrule⟩, rules, hrules⟩
  · rintro ⟨⟨rule, hrule⟩, rules, hrules⟩
    exact ⟨rule :: rules, rule, hrule, rules, hrules, rfl⟩

/-- **Rules** are a misuse if one of them slips through and all before it are read. -/
theorem misused_readRules_iff {items : List Json} {n : Int} :
    Misused (readRules n items) ↔
      ∃ before rule after, items = before ++ rule :: after ∧
        (∃ rules, readRules n before = .ok rules) ∧ RuleSlips rule := by
  induction items generalizing n with
  | nil =>
      refine iff_of_false not_misused_ok ?_
      rintro ⟨before, rule, after, h, -⟩
      cases before <;> cases h
  | cons first items ih =>
      simp only [readRules, misused_bind, misused_readRule_iff, ih]
      -- the first rule slips, or it is read and a later one slips
      constructor
      · rintro (h | ⟨rule, hfirst, ⟨before, slipped, after, rfl, hrules, h⟩ | ⟨_, -, h⟩⟩)
        · exact ⟨[], first, items, rfl, ⟨[], rfl⟩, h⟩
        · have hbefore := readRules_cons_isOk_iff.2 ⟨⟨rule, hfirst⟩, hrules⟩
          exact ⟨first :: before, slipped, after, rfl, hbefore, h⟩
        · exact absurd h not_misused_ok
      · rintro ⟨before, slipped, after, hitems, hrules, h⟩
        cases before with
        | nil =>
            cases hitems
            exact .inl h
        | cons b before =>
            cases hitems
            obtain ⟨⟨rule, hfirst⟩, hbefore⟩ := readRules_cons_isOk_iff.1 hrules
            exact .inr ⟨rule, hfirst, .inl ⟨before, slipped, after, rfl, hbefore, h⟩⟩

/-! ### Documents -/

/-- What goes wrong with a document and is not reported; what comes before it goes well. -/
inductive Slips (j : Json) : Prop where
  | rule {members : List (Text × Json)} {before after : List Json} {rule : Json}
      {rules : List Rule} (hj : j = .object members)
      (hitems : memberOr members "rules" (.array []) = .array (before ++ rule :: after))
      (hrules : readRules 0 before = .ok rules) (h : RuleSlips rule)
  | config {members : List (Text × Json)} {items : List Json} {rules : List Rule}
      (hj : j = .object members) (hitems : memberOr members "rules" (.array []) = .array items)
      (hrules : readRules 0 items = .ok rules)
      (h : Config.Slips (orEmpty (Json.member? "config".toList members)))
  /-- The theme is no table. -/
  | theme {members : List (Text × Json)} {items : List Json} {rules : List Rule} {config : Config}
      (hj : j = .object members) (hitems : memberOr members "rules" (.array []) = .array items)
      (hrules : readRules 0 items = .ok rules)
      (hconfig : Config.ofJson (orEmpty (Json.member? "config".toList members)) = .ok config)
      (h : ¬ Json.IsTable (orEmpty (Json.member? "theme".toList members)))

/-- A document with a list of rules is a misuse if its rules are, or if they are read and its
configuration is, or if that is read, too, and its theme is no table. -/
theorem misused_ofMembers_iff {members : List (Text × Json)} {items : List Json}
    (hitems : memberOr members "rules" (.array []) = .array items) :
    Misused (ofJson (.object members)) ↔
      Misused (readRules 0 items) ∨ ∃ rules, readRules 0 items = .ok rules ∧
        (Config.Slips (orEmpty (Json.member? "config".toList members)) ∨
          ∃ config, Config.ofJson (orEmpty (Json.member? "config".toList members)) = .ok config ∧
            ¬ Json.IsTable (orEmpty (Json.member? "theme".toList members))) := by
  have hpure {rules config theme} : ¬ Misused (pure ⟨rules, theme, config⟩ : Outcome Document) :=
    not_misused_ok
  rw [ofJson, hitems]
  simp only [misused_bind, misused_readConfig_iff, readConfig_eq_ok_iff, Config.misused_tableOf_iff,
    hpure, and_false, exists_false, or_false]

/-- **What slips through**: a document is a misuse if and only if something in it slips. -/
theorem misused_ofJson_iff : Misused (ofJson j) ↔ Slips j := by
  constructor
  · intro h
    cases j with
    | object members =>
        cases hitems : memberOr members "rules" (.array []) with
        | array items =>
            rw [misused_ofMembers_iff hitems, misused_readRules_iff] at h
            obtain ⟨before, rule, after, rfl, ⟨rules, hrules⟩, h⟩ | ⟨rules, hrules, h⟩ := h
            · exact .rule rfl hitems hrules h
            obtain h | ⟨config, hconfig, h⟩ := h
            · exact .config rfl hitems hrules h
            · exact .theme rfl hitems hrules hconfig h
        | null | bool | number | string | object =>
            rw [ofJson, hitems] at h
            exact absurd h not_misused_refuse
    | null | bool | number | string | array => exact absurd h not_misused_refuse
  · rintro (⟨rfl, hitems, hrules, h⟩ | ⟨rfl, hitems, hrules, h⟩ | ⟨rfl, hitems, hrules, hconfig, h⟩)
    · rw [misused_ofMembers_iff hitems, misused_readRules_iff]
      exact .inl ⟨_, _, _, rfl, ⟨_, hrules⟩, h⟩
    · rw [misused_ofMembers_iff hitems]
      exact .inr ⟨_, hrules, .inl h⟩
    · rw [misused_ofMembers_iff hitems]
      exact .inr ⟨_, hrules, .inr ⟨_, hconfig, h⟩⟩

/-! ### What is reported -/

theorem reports_readRules (n : Int) (items : List Json) :
    Reports IsReport (readRules n items) := by
  induction items generalizing n with
  | nil => exact reports_ok
  | cons j items ih =>
      exact (reports_readRule j (some n)).bind fun _ => (ih (n + 1)).bind fun _ => reports_ok

theorem reports_ofJson (j : Json) : Reports IsReport (ofJson j) := by
  cases j with
  | object members =>
      rw [ofJson]
      split
      · refine (reports_readRules 0 _).bind fun _ => ?_
        refine (reports_readConfig _).bind fun _ => ?_
        exact (Config.reports_tableOf _).bind fun _ => reports_ok
      · exact reports_refuse none _
  | null | bool | number | string | array => exact reports_refuse none _

/-- **What is reported.**  Reading a value of any shape ends with a document or a report if and only
if nothing slips through. -/
theorem ofJson_reported_iff (j : Json) :
    ((∃ document, ofJson j = .ok document) ∨
      ∃ message index cause, ofJson j = .error (.badDocument message index cause)) ↔
    ¬ Slips j := by
  rw [← misused_ofJson_iff]
  constructor
  · rintro (⟨document, h⟩ | ⟨message, index, cause, h⟩) ⟨kind, hkind⟩
    · cases h.symm.trans hkind
    · cases h.symm.trans hkind
  · intro h
    cases hresult : ofJson j with
    | ok document => exact .inl ⟨document, rfl⟩
    | error failure =>
        obtain ⟨message, index, cause, rfl⟩ | ⟨kind, rfl⟩ := reports_ofJson j failure hresult
        · exact .inr ⟨message, index, cause, rfl⟩
        · exact absurd ⟨kind, hresult⟩ h

end

/-- A blocklist that is a number is a misuse. -/
theorem not_always_settled :
    ¬ ∀ j : Json, (∃ document, ofJson j = .ok document) ∨
      ∃ message index cause, ofJson j = .error (.badDocument message index cause) := by
  intro h
  have hresult : ofJson (.object [("config".toList, .object [("blocklist".toList, .int 5)])]) =
      .error (.misuse .wrongType) := rfl
  obtain ⟨document, hok⟩ | ⟨message, index, cause, herror⟩ :=
    h (.object [("config".toList, .object [("blocklist".toList, .int 5)])])
  · cases hresult.symm.trans hok
  · cases hresult.symm.trans herror

end UtilityCss.Document

import UtilityCss.Proofs.Compiler.Transparency
import UtilityCss.Proofs.Compiler.Version
import UtilityCss.Proofs.Theme.Mark

/-!
# Compilers — themes that are alike

A compiler marks its cache by the theme's own text, in which the order of members shows.  So a theme
that is alike to the one in use, and not equal to it, brings another version unless two digests
start alike (`setTheme_alike_iff`), and what was live goes stale.  It is so for the themes of
`not_always_orderless`.  The mark in a version is the fingerprint of the theme for the empty theme,
and else only if two digests start alike.
-/

namespace UtilityCss

namespace Cache.Store

/-- Every entry that is live in the one store is live in the other. -/
def KeepsLive (s s' : Store) : Prop :=
  ∀ x ∈ s.entries, s.isLive x.2 → x ∈ s'.entries ∧ s'.isLive x.2

/-- Entries **stay live under their own version only**. -/
theorem keepsLive_setVersion_iff (s : Store) (version : Text) :
    s.KeepsLive (s.setVersion version) ↔
      version = s.version ∨ ∀ x ∈ s.entries, s.isLive x.2 = false := by
  have hversion {s : Store} {e : Entry} (h : s.isLive e) : e.version = s.version := by
    rw [isLive, Bool.and_eq_true, beq_iff_eq] at h
    exact h.1
  constructor
  · intro hkeeps
    by_cases hlive : ∃ x ∈ s.entries, s.isLive x.2
    · obtain ⟨x, hx, hlive⟩ := hlive
      -- an entry has one version, so that the two stores agree in theirs
      have hlive' : (s.setVersion version).isLive x.2 := (hkeeps x hx hlive).2
      exact .inl ((hversion hlive').symm.trans (hversion hlive))
    · simp only [not_exists, not_and, Bool.not_eq_true] at hlive
      exact .inr hlive
  · rintro (rfl | hstale) x hx hlive
    · exact ⟨hx, hlive⟩
    · rw [hstale x hx] at hlive
      cases hlive

end Cache.Store

namespace Compiler

open Json (Tidy Alike IsInteger)
open Theme (Collide markText)

theorem generation_setTheme (c : Compiler) (theme : Theme) (eager : Bool) :
    (c.setTheme theme eager).1.generation = c.generation := by
  cases eager <;> rfl

/-- The version that a theme brings. -/
theorem version_setTheme (c : Compiler) (theme : Theme) (eager : Bool) :
    (c.setTheme theme eager).1.cache.store.version = stamp theme c.generation := by
  cases eager <;> rfl

theorem store_setTheme (c : Compiler) (theme : Theme) :
    (c.setTheme theme false).1.cache.store = c.cache.store.setVersion (stamp theme c.generation) :=
  rfl

theorem stamp_eq_iff {theme theme' : Theme} {generation : Nat} :
    stamp theme generation = stamp theme' generation ↔ theme.mark = theme'.mark :=
  ⟨fun h => (stamp_inj h).1, fun h => by rw [stamp, stamp, h]⟩

/-- **Themes that are alike**, one brought into use after the other: the version stays if they are
equal, and else by collision only; every live entry stays live if the version stays, and else if
there is none.  The mark in the version is the fingerprint of the theme if that is empty, and else
by collision only. -/
theorem setTheme_alike_iff {kind : Number → Prop} {members members' : List (Text × Json)}
    (h : Tidy kind (.object members)) (h' : Tidy kind (.object members'))
    (halike : Alike (.object members) (.object members')) (c : Compiler) (eager : Bool) :
    let before := (c.setTheme (.ofMembers members) eager).1
    let after := (before.setTheme (.ofMembers members') false).1
    let same := members = members' ∨
      Collide (markText (.ofMembers members)).bytes (markText (.ofMembers members')).bytes
    (after.cache.store.version = before.cache.store.version ↔ same) ∧
    (before.cache.store.KeepsLive after.cache.store ↔
      same ∨ ∀ x ∈ before.cache.store.entries, before.cache.store.isLive x.2 = false) ∧
    (before.cache.store.version =
        Theme.fingerprint (.object members) ++ '.' :: Text.ofNat c.generation ↔
      members = [] ∨ Collide (markText (.ofMembers members)).bytes
        (Theme.canonical (.object members)).bytes) := by
  intro before after same
  have hversion : stamp (.ofMembers members') before.generation = before.cache.store.version ↔
      same := by
    rw [version_setTheme, generation_setTheme, eq_comm, stamp_eq_iff]
    exact Theme.mark_eq_iff halike h h'
  refine ⟨?_, ?_, ?_⟩
  · rw [version_setTheme]
    exact hversion
  · rw [store_setTheme, Cache.Store.keepsLive_setVersion_iff, hversion]
  · rw [version_setTheme, stamp, List.append_left_inj]
    exact Theme.mark_eq_fingerprint_iff members

/-- A theme of two members. -/
def colors : List (Text × Json) :=
  [("a".toList, .str "1"), ("b".toList, .str "2")]

theorem tidy_colors : Tidy IsInteger (.object colors) :=
  .pair (by decide) (.string _) (.string _)

theorem tidy_reverse_colors : Tidy IsInteger (.object colors.reverse) :=
  .pair (by decide) (.string _) (.string _)

theorem alike_colors : Alike (.object colors) (.object colors.reverse) :=
  .swap (.string _) (.string _)

theorem mark_reverse_colors_ne :
    Theme.mark (.ofMembers colors.reverse) ≠ Theme.mark (.ofMembers colors) := by
  decide +kernel

theorem exists_create : ∃ c log, create {} Selector.render [] [] = (.ok c, log) :=
  ⟨_, _, rfl⟩

theorem setTheme_alike_iff_colors :
    ∃ c log, create {} Selector.render [] [] = (.ok c, log) ∧
      Tidy IsInteger (.object colors) ∧ Tidy IsInteger (.object colors.reverse) ∧
      Alike (.object colors) (.object colors.reverse) ∧
      let before := (c.setTheme (.ofMembers colors) false).1
      let after := (before.setTheme (.ofMembers colors.reverse) false).1
      after.cache.store.version ≠ before.cache.store.version ∧
        ¬ Collide (markText (.ofMembers colors)).bytes
          (markText (.ofMembers colors.reverse)).bytes := by
  obtain ⟨c, log, hcreate⟩ := exists_create
  refine ⟨c, log, hcreate, tidy_colors, tidy_reverse_colors, alike_colors, ?_⟩
  intro before after
  have hversion : after.cache.store.version ≠ before.cache.store.version :=
    fun h => mark_reverse_colors_ne (stamp_inj h).1
  have hsame := (setTheme_alike_iff tidy_colors tidy_reverse_colors alike_colors c false).1
  exact ⟨hversion, fun hcollide => hversion (hsame.2 (.inr hcollide))⟩

/-- A theme is replaced by one that is alike, and the version changes. -/
theorem not_always_orderless :
    ¬ ∀ (config : Config) (renderer : Renderer) (theme : Theme) (rules : List Rule) (c : Compiler)
      (log : Log) (ops : List Op) (members members' : List (Text × Json)),
      create config renderer theme rules = (.ok c, log) →
      Tidy IsInteger (.object members) → Tidy IsInteger (.object members') →
      Alike (.object members) (.object members') →
      let before := ((c.run ops).setTheme (.ofMembers members) false).1
      let after := (before.setTheme (.ofMembers members') false).1
      after.cache.store.version = before.cache.store.version ∧
        before.cache.store.KeepsLive after.cache.store ∧
        before.cache.store.version =
          Theme.fingerprint (.object members) ++ '.' :: Text.ofNat (c.run ops).generation := by
  intro hall
  obtain ⟨c, log, hcreate⟩ := exists_create
  have hversion := (hall {} Selector.render [] [] c log [] colors colors.reverse hcreate tidy_colors
    tidy_reverse_colors alike_colors).1
  exact mark_reverse_colors_ne (stamp_inj hversion).1

end Compiler

end UtilityCss

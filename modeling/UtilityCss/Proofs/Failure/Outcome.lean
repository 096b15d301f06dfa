import UtilityCss.Failure.Basic

/-!
# Failures — reported or a misuse

An operation that checks what it is given reports what it finds wrong with a failure of its own;
what goes wrong without having been checked is a misuse.  This module follows the two through
operations that are done one after the other.

`Misused` says that a result is a misuse, and `Reports` that it is nothing but a result, a report or
a misuse.  Of operations in a row, the first that does not succeed decides (`misused_bind`,
`misused_forM_iff`).
-/

namespace UtilityCss

variable {α β : Type} {reported : Failure → Prop}

/-- A result that is a misuse. -/
def Misused (o : Outcome α) : Prop :=
  ∃ kind, o = .error (.misuse kind)

/-- A result that, if it fails, is reported in a way or is a misuse. -/
def Reports (reported : Failure → Prop) (o : Outcome α) : Prop :=
  ∀ failure, o = .error failure → reported failure ∨ ∃ kind, failure = .misuse kind

/-- Of two operations in a row, the second one can only be a misuse where the first one succeeds. -/
theorem misused_bind {o : Outcome α} {f : α → Outcome β} :
    Misused (o >>= f) ↔ Misused o ∨ ∃ a, o = .ok a ∧ Misused (f a) := by
  cases o with
  | error failure => simp [Misused, bind, Except.bind]
  | ok a => simp [Misused, bind, Except.bind]

/-- Two operations in a row succeed if each of them does, the second one with the result of the
first. -/
theorem bind_eq_ok_iff {o : Outcome α} {f : α → Outcome β} {b : β} :
    o >>= f = .ok b ↔ ∃ a, o = .ok a ∧ f a = .ok b := by
  cases o with
  | error failure => simp [bind, Except.bind]
  | ok a => simp [bind, Except.bind]

/-- A result is no misuse. -/
@[simp] theorem not_misused_ok {a : α} : ¬ Misused (.ok a : Outcome α) := by
  rintro ⟨kind, h⟩
  cases h

@[simp] theorem misused_error {kind : Misuse} : Misused (.error (.misuse kind) : Outcome α) :=
  ⟨kind, rfl⟩

theorem reports_ok {a : α} : Reports reported (.ok a : Outcome α) :=
  nofun

/-- A failure that is meant to be reported is one. -/
theorem reports_error {failure : Failure} (h : reported failure) :
    Reports reported (.error failure : Outcome α) := by
  intro e he
  cases he
  exact .inl h

/-- A misuse is allowed everywhere. -/
theorem reports_misuse {kind : Misuse} :
    Reports reported (.error (.misuse kind) : Outcome α) := by
  intro e he
  cases he
  exact .inr ⟨kind, rfl⟩

/-- Operations that report what they find wrong do so in a row. -/
theorem Reports.bind {o : Outcome α} {f : α → Outcome β}
    (h : Reports reported o) (hf : ∀ a, Reports reported (f a)) : Reports reported (o >>= f) := by
  cases o with
  | error e =>
      intro failure hfailure
      cases hfailure
      exact h _ rfl
  | ok a => exact hf a

/-! ### Operations in a row -/

/-- Operations in a row are a misuse if one of them is and all before it succeed. -/
theorem misused_forM_iff {f : α → Outcome Unit} {l : List α} :
    Misused (forM l f) ↔
      ∃ before a after, l = before ++ a :: after ∧ (∀ b ∈ before, f b = .ok ()) ∧
        Misused (f a) := by
  induction l with
  | nil =>
      refine iff_of_false not_misused_ok ?_
      rintro ⟨before, a, after, h, -⟩
      cases before <;> cases h
  | cons first l ih =>
      rw [List.forM_cons, misused_bind, ih]
      constructor
      · rintro (h | ⟨_, hfirst, before, a, after, rfl, hbefore, h⟩)
        · exact ⟨[], first, l, rfl, nofun, h⟩
        · exact ⟨first :: before, a, after, rfl, List.forall_mem_cons.2 ⟨hfirst, hbefore⟩, h⟩
      · rintro ⟨before, a, after, hl, hbefore, h⟩
        cases before with
        | nil =>
            cases hl
            exact .inl h
        | cons b before =>
            cases hl
            rw [List.forall_mem_cons] at hbefore
            exact .inr ⟨(), hbefore.1, before, a, after, rfl, hbefore.2, h⟩

/-- Operations in a row succeed if all of them do. -/
theorem forM_eq_ok_iff {f : α → Outcome Unit} {l : List α} :
    forM l f = .ok () ↔ ∀ a ∈ l, f a = .ok () := by
  induction l with
  | nil => exact iff_of_true rfl nofun
  | cons first l ih =>
      rw [List.forM_cons, List.forall_mem_cons, ← ih]
      cases f first with
      | error failure => exact iff_of_false nofun fun h => nomatch h.1
      | ok u => exact (and_iff_right rfl).symm

theorem Reports.forM {f : α → Outcome Unit} {l : List α}
    (h : ∀ a, Reports reported (f a)) : Reports reported (forM l f) := by
  induction l with
  | nil => exact reports_ok
  | cons first l ih =>
      rw [List.forM_cons]
      exact (h first).bind fun _ => ih

end UtilityCss

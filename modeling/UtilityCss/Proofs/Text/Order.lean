import UtilityCss.Text.Basic

/-!
# Text — the order of texts

Texts are in a total order: that of the first characters that differ, and a start of a text comes
before the text (`le_total`, `le_trans`, `le_antisymm`).
-/

namespace UtilityCss.Text

variable {s t u : Text}

/-- The first characters decide unless they are equal. -/
theorem le_cons_iff {c d : Char} : le (c :: s) (d :: t) ↔ c < d ∨ c = d ∧ le s t := by
  rw [le]
  by_cases h : c = d
  · simp [h]
  · simp [h]

theorem le_total (s t : Text) : le s t ∨ le t s := by
  induction s generalizing t with
  | nil => exact .inl rfl
  | cons c s ih =>
      cases t with
      | nil => exact .inr rfl
      | cons d t =>
          rw [le_cons_iff, le_cons_iff]
          by_cases hcd : c < d
          · exact .inl (.inl hcd)
          · by_cases hdc : d < c
            · exact .inr (.inl hdc)
            · obtain rfl := Char.le_antisymm (Char.not_lt.1 hdc) (Char.not_lt.1 hcd)
              exact (ih t).imp (fun h => .inr ⟨rfl, h⟩) fun h => .inr ⟨rfl, h⟩

theorem le_trans (h : le s t) (h' : le t u) : le s u := by
  induction s generalizing t u with
  | nil => rfl
  | cons c s ih =>
      cases t with
      | nil => cases h
      | cons d t =>
          cases u with
          | nil => cases h'
          | cons e u =>
              rw [le_cons_iff] at h h' ⊢
              obtain hcd | ⟨rfl, hst⟩ := h <;> obtain hde | ⟨rfl, htu⟩ := h'
              · exact .inl (Char.lt_trans hcd hde)
              · exact .inl hcd
              · exact .inl hde
              · exact .inr ⟨rfl, ih hst htu⟩

/-- Texts that are neither before nor behind each other are equal. -/
theorem le_antisymm (h : le s t) (h' : le t s) : s = t := by
  induction s generalizing t with
  | nil =>
      cases t with
      | nil => rfl
      | cons d t => cases h'
  | cons c s ih =>
      cases t with
      | nil => cases h
      | cons d t =>
          rw [le_cons_iff] at h h'
          obtain hcd | ⟨rfl, hst⟩ := h <;> obtain hdc | ⟨heq, hts⟩ := h'
          · exact absurd hdc (Char.lt_asymm hcd)
          · exact absurd hcd (heq ▸ Char.lt_irrefl _)
          · exact absurd hdc (Char.lt_irrefl _)
          · rw [ih hst hts]

end UtilityCss.Text

import Mathlib.Data.Finset.Card
import UtilityCss.Text.Basic

/-!
# Caches — the history of uses

An entry is used when it is written and when it is read with success.  Of a history of uses,
`History.recency` is the list of the keys in the order of their last use, the latest first, and
`History.rivals` the set of the keys that have been used since the last use of a key.

**Recency** (`History.mem_take_recency`).  A key that has been used is among the first `n` in the
order of recency exactly if fewer than `n` other keys have been used since.

What one more use does to the first `n` keys is said by `History.take_recency_of_mem`, if its key is
among them, and by `History.take_recency_of_not_mem`, if it is not among the first of them.
-/

namespace UtilityCss.Cache

/-- A use of a key: its entry is written, or read with success. -/
inductive Use where
  | write (key value : Text)
  | read (key : Text)
  deriving DecidableEq

/-- The key that is used. -/
def Use.key : Use → Text
  | .write key _ => key
  | .read key => key

/-- Uses, the latest first. -/
abbrev History := List Use

namespace History

/-- The keys that have been used, each once, the most recently used first. -/
def recency : History → List Text
  | [] => []
  | use :: h => use.key :: (recency h).filter (· != use.key)

/-- The uses since the last one of a key. -/
def since (h : History) (k : Text) : History :=
  h.takeWhile (·.key != k)

/-- The keys that have been used since the last use of a key. -/
def rivals (h : History) (k : Text) : Finset Text :=
  ((since h k).map Use.key).toFinset

/-- The value that has been written last under a key. -/
def lastValue? (h : History) (k : Text) : Option Text :=
  h.findSome? fun
    | .write key value => if key == k then some value else none
    | .read _ => none

variable {h : History} {use : Use} {k : Text} {n : Nat}

theorem mem_recency : k ∈ recency h ↔ k ∈ h.map Use.key := by
  induction h with
  | nil => rfl
  | cons use h ih =>
      rw [recency, List.map_cons, List.mem_cons, List.mem_cons, List.mem_filter, ih]
      by_cases hk : k = use.key <;> simp [hk]

theorem nodup_recency (h : History) : (recency h).Nodup := by
  induction h with
  | nil => exact List.nodup_nil
  | cons use h ih =>
      rw [recency, List.nodup_cons]
      exact ⟨by simp, ih.filter _⟩

/-! ### Keys used since -/

/-- The keys before a key in the order of recency are those of the uses since its last one. -/
theorem takeWhile_recency (h : History) (k : Text) :
    (recency h).takeWhile (· != k) = recency (since h k) := by
  induction h with
  | nil => rfl
  | cons use h ih =>
      by_cases hk : use.key = k
      · simp [recency, since, hk]
      · -- the key that is taken out is not the one that is looked for
        have hpass : (fun key => !(key != use.key) || key != k) = (· != k) := by
          funext key
          by_cases hkey : key = use.key
          · simp [hkey, hk]
          · simp [hkey]
        have hsince : since (use :: h) k = use :: since h k :=
          List.takeWhile_cons_of_pos (by simpa using hk)
        rw [recency, List.takeWhile_cons_of_pos (by simpa using hk), List.takeWhile_filter, hpass,
          ih, hsince, recency]

theorem card_rivals (h : History) (k : Text) :
    (rivals h k).card = ((recency h).takeWhile (· != k)).length := by
  have hset : rivals h k = (recency (since h k)).toFinset := by
    ext key
    rw [rivals, List.mem_toFinset, List.mem_toFinset, mem_recency]
  rw [hset, List.toFinset_card_of_nodup (nodup_recency _), takeWhile_recency]

theorem mem_take_iff {l : List Text} (hk : k ∈ l) :
    k ∈ l.take n ↔ (l.takeWhile (· != k)).length < n := by
  induction l generalizing n with
  | nil => cases hk
  | cons key l ih =>
      cases n with
      | zero => simp
      | succ n =>
          by_cases hkey : key = k
          · simp [hkey]
          · have hl : k ∈ l := (List.mem_cons.1 hk).resolve_left fun heq => hkey heq.symm
            simp [hkey, Ne.symm hkey, ih hl]

/-- **Recency.**  The first keys are those since whose last use few others have been used. -/
theorem mem_take_recency : k ∈ (recency h).take n ↔ k ∈ h.map Use.key ∧ (rivals h k).card < n := by
  rw [card_rivals, ← mem_recency]
  constructor
  · intro hk
    have hmem := List.mem_of_mem_take hk
    exact ⟨hmem, (mem_take_iff hmem).1 hk⟩
  · rintro ⟨hmem, hlt⟩
    exact (mem_take_iff hmem).2 hlt

/-! ### One more use -/

theorem filter_bne_of_not_mem {l : List Text} (hk : k ∉ l) : l.filter (· != k) = l := by
  rw [List.filter_eq_self]
  intro key hkey
  simpa using fun heq : key = k => hk (heq ▸ hkey)

theorem take_filter_of_mem {l : List Text} (hl : l.Nodup) (hk : k ∈ l.take (n + 1)) :
    (l.filter (· != k)).take n = (l.take (n + 1)).filter (· != k) := by
  induction l generalizing n with
  | nil => simp
  | cons key l ih =>
      rw [List.nodup_cons] at hl
      rw [List.take_succ_cons] at hk ⊢
      by_cases hkey : key = k
      · subst hkey
        have hrest : key ∉ l.take n := fun hmem => hl.1 (List.mem_of_mem_take hmem)
        rw [List.filter_cons_of_neg (by simp), List.filter_cons_of_neg (by simp),
          filter_bne_of_not_mem hl.1, filter_bne_of_not_mem hrest]
      · have hk : k ∈ l.take n := (List.mem_cons.1 hk).resolve_left fun heq => hkey heq.symm
        rw [List.filter_cons_of_pos (by simpa using hkey),
          List.filter_cons_of_pos (by simpa using hkey)]
        cases n with
        | zero => simp at hk
        | succ n => rw [List.take_succ_cons, ih hl.2 hk]

theorem take_filter_of_not_mem {l : List Text} (hk : k ∉ l.take n) :
    (l.filter (· != k)).take n = l.take n := by
  induction l generalizing n with
  | nil => rfl
  | cons key l ih =>
      cases n with
      | zero => rfl
      | succ n =>
          rw [List.take_succ_cons, List.mem_cons, not_or] at hk
          rw [List.filter_cons_of_pos (by simpa using Ne.symm hk.1), List.take_succ_cons,
            List.take_succ_cons, ih hk.2]

/-- A use of a key among the first puts it in front of them. -/
theorem take_recency_of_mem (hk : use.key ∈ (recency h).take (n + 1)) :
    (recency (use :: h)).take (n + 1) =
      use.key :: ((recency h).take (n + 1)).filter (· != use.key) := by
  rw [recency, List.take_succ_cons, take_filter_of_mem (nodup_recency h) hk]

/-- A use of another key puts it in front and leaves no place for the last. -/
theorem take_recency_of_not_mem (hk : use.key ∉ (recency h).take n) :
    (recency (use :: h)).take (n + 1) = use.key :: (recency h).take n := by
  rw [recency, List.take_succ_cons, take_filter_of_not_mem hk]

/-! ### Values -/

theorem lastValue?_write (h : History) (key value k : Text) :
    lastValue? (.write key value :: h) k = if key == k then some value else lastValue? h k := by
  simp only [lastValue?]
  rw [List.findSome?_cons]
  split <;> simp_all

theorem lastValue?_read (h : History) (key k : Text) :
    lastValue? (.read key :: h) k = lastValue? h k :=
  rfl

theorem isSome_lastValue? (h : History) (k : Text) :
    (lastValue? h k).isSome ↔ ∃ value, Use.write k value ∈ h := by
  induction h with
  | nil => simp [lastValue?]
  | cons use h ih =>
      cases use with
      | read key => simp [lastValue?_read, ih]
      | write key value =>
          rw [lastValue?_write]
          by_cases hkey : key = k
          · simp [hkey]
          · simp [hkey, ih, Ne.symm hkey]

end History

end UtilityCss.Cache

import Mathlib.Data.List.Induction
import UtilityCss.Json.Table

/-!
# JSON — keys, names and pairs

What can be asked of a value of unknown shape that is gone through: whether it yields keys, names or
pairs (`Yields`).  A table is made of an object or of something that yields pairs (`isTable_iff`).

The distinct keys of a value stand for all of its keys: they are among them, and each key is the
same as one of them (`distinctKeys?_cases`).
-/

namespace UtilityCss.Json

variable {j : Json} {items keys : List Json}

/-- A value is a name. -/
def IsName (j : Json) : Prop :=
  ∃ t, j = .string t

/-- A value can be gone through, and all that it yields is of a kind. -/
def Yields (kind : Json → Prop) (j : Json) : Prop :=
  ∃ items, j.elements? = some items ∧ ∀ item ∈ items, kind item

/-- A value can be a key. -/
def IsKey (j : Json) : Prop :=
  j.key?.isSome

/-- A value yields a key and something else. -/
def IsPair (j : Json) : Prop :=
  ∃ key value, j.elements? = some [key, value] ∧ IsKey key

/-- A value is an object, or all that it yields are pairs. -/
def IsTable (j : Json) : Prop :=
  (∃ members, j = .object members) ∨ Yields IsPair j

/-! ### Keys -/

/-- Values are the same key if both may be keys and stand for one. -/
theorem sameKey_iff {a b : Json} : sameKey a b ↔ a.key?.isSome ∧ a.key? = b.key? := by
  rw [sameKey]
  cases a.key? <;> cases b.key? <;> simp

/-- A text is the same key as itself only. -/
theorem sameKey_string {t : Text} : sameKey j (.string t) ↔ j = .string t := by
  cases j with
  | number n =>
      cases n with
      | int i => simp [sameKey, key?]
      | float x =>
          cases hwhole : wholeFloat? x <;> simp [sameKey, key?, hwhole]
  | null | bool | string | array | object => simp [sameKey, key?]

theorem sameKey_self (h : IsKey j) : sameKey j j :=
  sameKey_iff.2 ⟨h, rfl⟩

/-- There is a set of the values if each of them may be a key. -/
theorem distinctKeys?_isSome_iff :
    (∃ keys, distinctKeys? items = some keys) ↔ ∀ item ∈ items, IsKey item := by
  rw [distinctKeys?]
  split
  next h => exact iff_of_true ⟨_, rfl⟩ (List.all_eq_true.1 h)
  next h => exact iff_of_false (by simp) fun hall => h (List.all_eq_true.2 hall)

/-- Adds a value to those that have been seen unless one of them is the same key. -/
def seenWith (seen : List Json) (item : Json) : List Json :=
  if seen.any (sameKey item) then seen else item :: seen

/-- Of equal keys one is kept: the kept ones are among the values, and each value has its key among
them. -/
theorem seenWith_cases (hkeys : ∀ item ∈ items, IsKey item) :
    (∀ key ∈ items.foldl seenWith [], key ∈ items) ∧
    ∀ item ∈ items, ∃ key ∈ items.foldl seenWith [], sameKey item key := by
  induction items using List.reverseRecOn with
  | nil => exact ⟨nofun, nofun⟩
  | append_singleton items last ih =>
      rw [List.forall_mem_append, List.forall_mem_singleton] at hkeys
      obtain ⟨hsub, hrep⟩ := ih hkeys.1
      rw [List.foldl_append, List.foldl_cons, List.foldl_nil, seenWith, List.forall_mem_append,
        List.forall_mem_singleton]
      split
      next hseen =>
          rw [List.any_eq_true] at hseen
          exact ⟨fun key hkey => List.mem_append_left _ (hsub key hkey), hrep, hseen⟩
      next =>
          have hlast := sameKey_self hkeys.2
          refine ⟨fun key hkey => ?_, fun item hitem => ?_, last, List.mem_cons_self, hlast⟩
          · obtain rfl | hkey := List.mem_cons.1 hkey
            · exact List.mem_concat_self
            · exact List.mem_append_left _ (hsub key hkey)
          · obtain ⟨key, hkey, hsame⟩ := hrep item hitem
            exact ⟨key, List.mem_cons_of_mem _ hkey, hsame⟩

/-- The distinct keys are among the keys, and each key is the same as one of them. -/
theorem distinctKeys?_cases (h : distinctKeys? items = some keys) :
    (∀ key ∈ keys, key ∈ items) ∧ ∀ item ∈ items, ∃ key ∈ keys, sameKey item key := by
  rw [distinctKeys?] at h
  split at h
  next hall =>
      cases h
      have hcases := seenWith_cases (List.all_eq_true.1 hall)
      simp only [List.mem_reverse]
      exact hcases
  next => cases h

/-! ### Tables -/

theorem isPair_iff : IsPair j ↔ ∃ pair, Table.pairOf j = .ok pair := by
  rw [IsPair, Table.pairOf]
  split
  next helements => simp [helements]
  next key value helements =>
      by_cases hkey : key.key?.isSome
      · exact iff_of_true ⟨key, value, helements, hkey⟩ ⟨(key, value), if_pos hkey⟩
      · rw [if_neg hkey]
        simp [helements, IsKey, hkey]
  next hpair helements =>
      refine iff_of_false ?_ (by simp)
      rintro ⟨key, value, h, -⟩
      exact hpair key value (Option.some.inj (helements.symm.trans h))

/-- A table is made of values each of which is a pair. -/
theorem ofPairs_isOk_iff {table : Table} :
    (∃ result, Table.ofPairs items table = .ok result) ↔ ∀ item ∈ items, IsPair item := by
  induction items generalizing table with
  | nil => simp [Table.ofPairs]
  | cons item items ih =>
      rw [Table.ofPairs, List.forall_mem_cons, isPair_iff]
      cases Table.pairOf item with
      | error misuse => simp
      | ok pair => simp [ih]

/-- A table can be made of the values that are tables, and of no other ones. -/
theorem isTable_iff : IsTable j ↔ ∃ table, Table.ofJson j = .ok table := by
  cases j with
  | object members => exact iff_of_true (.inl ⟨members, rfl⟩) ⟨_, rfl⟩
  | array | string => simp [IsTable, Yields, Table.ofJson, elements?, ofPairs_isOk_iff]
  | null | bool | number => simp [IsTable, Yields, Table.ofJson, elements?]

end UtilityCss.Json

import Mathlib.Data.List.Nodup
import UtilityCss.Json.Basic

/-!
# JSON — values up to the order of members

Two values are alike if they differ at most in the order of the members of their objects, at any
depth (`Alike`).  In a tidy value the members of every object have distinct names (`Tidy`), so that
members of one name are set against each other (`mem_zip_of_names`).
-/

namespace UtilityCss.Json

/-- The values are made of strings, truth values, nulls, arrays, objects whose members have distinct
names, and numbers of a kind. -/
inductive Tidy (kind : Number → Prop) : Json → Prop where
  | null : Tidy kind .null
  | bool (b : Bool) : Tidy kind (.bool b)
  | number {n : Number} (h : kind n) : Tidy kind (.number n)
  | string (t : Text) : Tidy kind (.string t)
  | array {items : List Json} (each : ∀ item ∈ items, Tidy kind item) : Tidy kind (.array items)
  | object {members : List (Text × Json)} (names : (members.map Prod.fst).Nodup)
      (each : ∀ m ∈ members, Tidy kind m.2) : Tidy kind (.object members)

/-- The values are equal up to the order of members: arrays item by item, and objects member by
member after their members have been put in some order. -/
inductive Alike : Json → Json → Prop where
  | null : Alike .null .null
  | bool (b : Bool) : Alike (.bool b) (.bool b)
  | number (n : Number) : Alike (.number n) (.number n)
  | string (t : Text) : Alike (.string t) (.string t)
  | array {items items' : List Json} (length : items.length = items'.length)
      (each : ∀ p ∈ items.zip items', Alike p.1 p.2) : Alike (.array items) (.array items')
  | object {members members' order order' : List (Text × Json)} (perm : members.Perm order)
      (perm' : members'.Perm order') (length : order.length = order'.length)
      (names : ∀ p ∈ order.zip order', p.1.1 = p.2.1)
      (each : ∀ p ∈ order.zip order', Alike p.1.2 p.2.2) :
      Alike (.object members) (.object members')

/-- Of members that have been put in order by their names, those of one name stand in one place. -/
theorem mem_zip_of_names {order order' : List (Text × Json)} {m m' : Text × Json}
    (hlength : order.length = order'.length) (hnames : ∀ p ∈ order.zip order', p.1.1 = p.2.1)
    (hnodup : (order'.map Prod.fst).Nodup) (hm : m ∈ order) (hm' : m' ∈ order') (h : m.1 = m'.1) :
    (m, m') ∈ order.zip order' := by
  obtain ⟨i, hi, rfl⟩ := List.mem_iff_getElem.1 hm
  have hi' : i < order'.length := hlength ▸ hi
  have hplace : (order[i], order'[i]) ∈ order.zip order' :=
    List.mem_iff_getElem.2 ⟨i, by rw [List.length_zip]; omega, by simp⟩
  have hsame : m' = order'[i] :=
    List.inj_on_of_nodup_map hnodup hm' (List.getElem_mem hi') (h.symm.trans (hnames _ hplace))
  rw [hsame]
  exact hplace

/-- The number is an integer. -/
def IsInteger (n : Number) : Prop :=
  ∃ i, n = .int i

section Pairs

variable {kind : Number → Prop} {name name' : Text} {j j' k k' : Json}

/-- An object of two members. -/
theorem Tidy.pair (hne : name ≠ name') (hj : Tidy kind j) (hj' : Tidy kind j') :
    Tidy kind (.object [(name, j), (name', j')]) := by
  refine .object (by simpa using hne) ?_
  simp only [List.forall_mem_cons]
  exact ⟨hj, hj', List.forall_mem_nil _⟩

/-- Two members may change places. -/
theorem Alike.swap (hj : Alike j k) (hj' : Alike j' k') :
    Alike (.object [(name, j), (name', j')]) (.object [(name', k'), (name, k)]) := by
  refine .object (.refl _) (.swap _ _ _) rfl ?_ ?_
  · simp
  · simp only [List.zip_cons_cons, List.forall_mem_cons]
    exact ⟨hj, hj', List.forall_mem_nil _⟩

end Pairs

end UtilityCss.Json

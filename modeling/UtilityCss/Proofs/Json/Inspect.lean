import UtilityCss.Proofs.Json.Alike
import UtilityCss.Proofs.Text.Quoted

/-!
# JSON — inspected values

In the text of a value the members of an object stand in their own order, so that of values that are
alike each has a text of its own (`inspect_inj`).  Where two such texts are compared, a name tells
where it ends (`Text.quoted_append_inj`); the names are those of one place, and so the values there
are alike.
-/

namespace UtilityCss

namespace Json

/-- The text of a member. -/
def inspectMember (m : Text × Json) : Text :=
  Text.quoted m.1 ++ ':' :: ' ' :: inspect m.2

theorem inspectItems_eq (items : List Json) : inspectItems items = items.map inspect := by
  induction items with
  | nil => rfl
  | cons item items ih => rw [inspectItems, ih, List.map_cons]

theorem inspectMembers_eq (members : List (Text × Json)) :
    inspectMembers members = members.map inspectMember := by
  induction members with
  | nil => rfl
  | cons m members ih => rw [inspectMembers, ih, List.map_cons, inspectMember]

/-- Parts that are joined, as many in one text as in the other: where each part tells what it is and
where it ends, the parts are the same. -/
theorem joined_inj_of_length {α : Type} {f : α → Text} {separator rest rest' : Text}
    {as bs : List α} (hlength : as.length = bs.length)
    (hpart : ∀ p ∈ as.zip bs, ∀ r r', f p.1 ++ r = f p.2 ++ r' → p.1 = p.2 ∧ r = r')
    (h : Text.join separator (as.map f) ++ rest = Text.join separator (bs.map f) ++ rest') :
    as = bs ∧ rest = rest' := by
  induction as generalizing bs with
  | nil =>
      obtain rfl := List.length_eq_zero_iff.1 hlength.symm
      exact ⟨rfl, h⟩
  | cons a as ih =>
      cases bs with
      | nil => cases hlength
      | cons b bs =>
          rw [List.zip_cons_cons, List.forall_mem_cons] at hpart
          cases as with
          | nil =>
              obtain rfl := List.length_eq_zero_iff.1 (Nat.succ.inj hlength).symm
              obtain ⟨hsame, hrest⟩ := hpart.1 _ _ h
              exact ⟨congrArg (fun a => [a]) hsame, hrest⟩
          | cons a' as =>
              cases bs with
              | nil => cases hlength
              | cons b' bs =>
                  simp only [List.map_cons, Text.join, List.append_assoc] at h ih
                  obtain ⟨hsame, htail⟩ := hpart.1 _ _ h
                  obtain ⟨heq, hrest⟩ := ih (Nat.succ.inj hlength) hpart.2
                    (List.append_cancel_left htail)
                  exact ⟨congrArg₂ List.cons hsame heq, hrest⟩

/-- **The text of a value tells** which of the values it is that are alike, and where it ends. -/
theorem inspect_append_inj {kind : Number → Prop} {j j' : Json} {rest rest' : Text}
    (halike : Alike j j') (h : Tidy kind j) (h' : Tidy kind j')
    (heq : inspect j ++ rest = inspect j' ++ rest') : j = j' ∧ rest = rest' := by
  induction halike generalizing rest rest' with
  | null | bool | number | string => exact ⟨rfl, List.append_cancel_left heq⟩
  | array hlength _ ih =>
      cases h with
      | array each =>
          cases h' with
          | array each' =>
              simp only [inspect, inspectItems_eq, List.cons_append, List.append_assoc] at heq
              obtain ⟨rfl, hrest⟩ := joined_inj_of_length hlength (fun p hp r r' hitem =>
                ih p hp (each _ (List.of_mem_zip hp).1) (each' _ (List.of_mem_zip hp).2) hitem)
                (List.cons.inj heq).2
              exact ⟨rfl, (List.cons.inj hrest).2⟩
  | @object members members' order order' hperm hperm' hlength hnames _ ih =>
      cases h with
      | object names each =>
          cases h' with
          | object names' each' =>
              simp only [inspect, inspectMembers_eq, List.cons_append, List.append_assoc] at heq
              -- members in one place have one name, and those of one name are alike
              have hpart : ∀ p ∈ members.zip members', ∀ r r',
                  inspectMember p.1 ++ r = inspectMember p.2 ++ r' → p.1 = p.2 ∧ r = r' := by
                intro p hp r r' hmember
                have hm : p.1 ∈ members := (List.of_mem_zip hp).1
                have hm' : p.2 ∈ members' := (List.of_mem_zip hp).2
                simp only [inspectMember, List.append_assoc] at hmember
                obtain ⟨hname, hvalue⟩ := Text.quoted_append_inj hmember
                have hplace : (p.1, p.2) ∈ order.zip order' :=
                  mem_zip_of_names hlength hnames ((hperm'.map Prod.fst).nodup_iff.1 names')
                    (hperm.mem_iff.1 hm) (hperm'.mem_iff.1 hm') hname
                obtain ⟨hsame, hrest⟩ := ih _ hplace (each _ hm) (each' _ hm')
                  (by simpa using hvalue)
                exact ⟨Prod.ext hname hsame, hrest⟩
              have hmembers : members.length = members'.length := by
                rw [hperm.length_eq, hlength, hperm'.length_eq]
              obtain ⟨rfl, hrest⟩ := joined_inj_of_length hmembers hpart (List.cons.inj heq).2
              exact ⟨rfl, (List.cons.inj hrest).2⟩

theorem inspect_inj {kind : Number → Prop} {j j' : Json} (halike : Alike j j') (h : Tidy kind j)
    (h' : Tidy kind j') (heq : inspect j = inspect j') : j = j' := by
  have hnil : inspect j ++ [] = inspect j' ++ [] := by rw [heq]
  exact (inspect_append_inj halike h h' hnil).1

end Json

end UtilityCss

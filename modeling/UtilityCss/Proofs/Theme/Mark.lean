import UtilityCss.Proofs.Json.Inspect
import UtilityCss.Proofs.Theme.Fingerprint

/-!
# Themes — what a mark tells

The mark of a theme in use is the fingerprint of the theme's own text (`markText`), where its
fingerprint is that of its canonical text.  In the theme's own text the order of members shows, and
the two texts never are the same unless the theme is empty.

* `mark_eq_iff`: themes that are alike have one mark if they are equal, and else by collision only.
* `mark_eq_fingerprint_iff`: the mark of an object is its fingerprint if it is empty, and else by
  collision only.
-/

namespace UtilityCss.Theme

open Json (Tidy Alike)

variable {kind : Number → Prop} {members members' : List (Text × Json)}

/-- The text whose digest makes the mark of a theme in use. -/
def markText (t : Theme) : Text :=
  if t.isEmpty then (Json.object []).canonical else Json.writeString t.inspect

theorem mark_eq (t : Theme) : mark t = fingerprintOf (markText t) := by
  rw [mark, markText]
  split <;> rfl

theorem isAscii_markText (t : Theme) : (markText t).IsAscii := by
  rw [markText]
  split
  · exact Json.isAscii_canonical (.object List.nodup_nil (List.forall_mem_nil _))
  · exact Json.isAscii_writeString _

theorem inspect_ofMembers (members : List (Text × Json)) :
    (Table.ofMembers members).inspect = (Json.object members).inspect := by
  rw [Table.inspect, Table.ofMembers, List.map_map, Json.inspect, Json.inspectMembers_eq]
  rfl

theorem markText_ofMembers (hne : members ≠ []) :
    markText (.ofMembers members) = Json.writeString (Json.object members).inspect := by
  rw [markText, if_neg (by simpa [Table.ofMembers] using hne), inspect_ofMembers]

/-- The order of members **shows** in the text of a theme in use. -/
theorem markText_inj (halike : Alike (.object members) (.object members'))
    (h : Tidy kind (.object members)) (h' : Tidy kind (.object members'))
    (heq : markText (.ofMembers members) = markText (.ofMembers members')) :
    members = members' := by
  have hlength : members.length = members'.length := by
    cases halike with
    | object hperm hperm' hlength => rw [hperm.length_eq, hlength, hperm'.length_eq]
  by_cases hne : members = []
  · subst hne
    exact (List.length_eq_zero_iff.1 hlength.symm).symm
  · have hne' : members' ≠ [] := by
      rintro rfl
      exact hne (List.length_eq_zero_iff.1 hlength)
    rw [markText_ofMembers hne, markText_ofMembers hne'] at heq
    have hinspect := (Json.writeString_append_inj (congrArg (· ++ []) heq)).1
    exact Json.object.inj (Json.inspect_inj halike h h' hinspect)

/-- Themes that are alike have one mark if they are equal, and else **by collision only**. -/
theorem mark_eq_iff (halike : Alike (.object members) (.object members'))
    (h : Tidy kind (.object members)) (h' : Tidy kind (.object members')) :
    mark (.ofMembers members) = mark (.ofMembers members') ↔
      members = members' ∨ Collide (markText (.ofMembers members)).bytes
        (markText (.ofMembers members')).bytes := by
  have htext : markText (.ofMembers members) = markText (.ofMembers members') ↔
      members = members' :=
    ⟨markText_inj halike h h', fun heq => by rw [heq]⟩
  rw [mark_eq, mark_eq, fingerprintOf_eq_iff (isAscii_markText _) (isAscii_markText _), htext]

/-- The mark of an object is its fingerprint if it is empty, and else **by collision only**. -/
theorem mark_eq_fingerprint_iff (members : List (Text × Json)) :
    mark (.ofMembers members) = fingerprint (.object members) ↔
      members = [] ∨ Collide (markText (.ofMembers members)).bytes
        (canonical (.object members)).bytes := by
  rw [mark_eq, fingerprint, fingerprintOf_eq, fingerprintOf_eq]
  by_cases hne : members = []
  · subst hne
    exact iff_of_true rfl (.inl rfl)
  · -- one text starts with a quotation mark and the other with a brace
    have hbytes : (markText (.ofMembers members)).bytes ≠ (canonical (.object members)).bytes := by
      rw [markText_ofMembers hne, canonical_object, Json.canonical_object]
      intro h
      exact absurd (List.cons.inj h).1 (by decide)
    exact ⟨fun h => .inr ⟨hbytes, h⟩, fun h => (h.resolve_left hne).2⟩

end UtilityCss.Theme

import UtilityCss.Json.Raw
import UtilityCss.Proofs.Json.Canonical

/-!
# JSON — raw values and their canonical texts

The canonical text of a value is that of its raw value (`canonical_ofJson`): raw strings are in the
order of texts and are written like them.

With halves of surrogate pairs the text is no longer canonical: two halves that make a pair are
written like the character that the pair stands for.
-/

namespace UtilityCss.Json

namespace Points

/-- A character is the code point of its number. -/
theorem val_ofChar (c : Char) : (ofChar c).val = c.toNat := by
  refine Nat.mod_eq_of_lt ?_
  obtain h | ⟨-, h⟩ := c.valid
  · exact Nat.lt_trans h (by decide)
  · exact h

theorem ofChar_inj {c d : Char} : ofChar c = ofChar d ↔ c = d := by
  rw [Fin.ext_iff, val_ofChar, val_ofChar, Char.toNat_inj]

/-- Code points are ordered as characters are. -/
theorem ofChar_lt_ofChar {c d : Char} : ofChar c < ofChar d ↔ c < d := by
  rw [Fin.lt_def, val_ofChar, val_ofChar]
  rfl

/-- A character is no half of a pair, so it is written as in a text. -/
theorem escape_ofChar (c : Char) : escape (ofChar c) = escapeChar c := by
  have hhalf : isHalf (ofChar c) = false := by
    have hvalid : c.toNat < 0xD800 ∨ 0xDFFF < c.toNat ∧ c.toNat < 0x110000 := c.valid
    simp only [isHalf, isHighUnit, isLowUnit, val_ofChar, Bool.or_eq_false_iff,
      Bool.and_eq_false_iff, decide_eq_false_iff_not]
    omega
  rw [escape, hhalf, val_ofChar, Char.ofNat_toNat]
  rfl

/-- A text without surrogates is written in the same way. -/
theorem write_ofText (t : Text) : (ofText t).write = writeString t := by
  rw [write, writeString, ofText, List.flatMap_map]
  simp only [escape_ofChar]

/-- Texts without surrogates are ordered in the same way. -/
theorem le_ofText (s t : Text) : le (ofText s) (ofText t) = Text.le s t := by
  induction s generalizing t with
  | nil => rfl
  | cons c s ih =>
      cases t with
      | nil => rfl
      | cons d t =>
          have ih : le (s.map ofChar) (t.map ofChar) = Text.le s t := ih t
          rw [ofText, ofText, List.map_cons, List.map_cons, le, Text.le, ih]
          simp only [beq_iff_eq, ofChar_inj, ofChar_lt_ofChar]

end Points

namespace Raw

/-- A member with its name as a raw string. -/
def rawName (m : Text × Text) : Points × Text :=
  (.ofText m.1, m.2)

theorem writeObject_map (members : List (Text × Text)) :
    writeObject (members.map rawName) = Json.writeObject .canonical members := by
  have hsorted : (sortMembers members).map rawName =
      (members.map rawName).mergeSort fun a b => Points.le a.1 b.1 :=
    List.map_mergeSort fun a _ b _ => (Points.le_ofText a.1 b.1).symm
  rw [writeObject, ← hsorted, List.map_map, Json.writeObject]
  simp only [Function.comp_def, rawName, Points.write_ofText, Json.Layout.canonical, if_true]

mutual

/-- The canonical text of a value is that of its raw value. -/
theorem canonical_ofJson : ∀ j : Json, (ofJson j).canonical = j.canonical
  | .null | .bool true | .bool false | .number _ => rfl
  | .string t => Points.write_ofText t
  | .array items => by
      rw [ofJson, canonical, canonicalItems_ofItems, Json.canonical, write]
      rfl
  | .object members => by
      rw [ofJson, canonical, canonicalMembers_ofMembers, writeObject_map, Json.canonical, write]

theorem canonicalItems_ofItems : ∀ items : List Json,
    canonicalItems (ofItems items) = writeItems .canonical items
  | [] => rfl
  | j :: rest => by
      rw [ofItems, canonicalItems, canonical_ofJson j, canonicalItems_ofItems rest, writeItems]
      rfl

/-- The members of an object are written one by one in the same way. -/
theorem canonicalMembers_ofMembers : ∀ members : List (Text × Json),
    canonicalMembers (ofMembers members) = (writeMembers .canonical members).map rawName
  | [] => rfl
  | (name, j) :: rest => by
      rw [ofMembers, canonicalMembers, canonical_ofJson j, canonicalMembers_ofMembers rest,
        writeMembers]
      rfl

end

/-- The raw values are equal up to the order of members. -/
inductive Alike : Raw → Raw → Prop where
  | null : Alike .null .null
  | bool (b : Bool) : Alike (.bool b) (.bool b)
  | number (n : Number) : Alike (.number n) (.number n)
  | string (s : Points) : Alike (.string s) (.string s)
  | array {items items' : List Raw} (length : items.length = items'.length)
      (each : ∀ p ∈ items.zip items', Alike p.1 p.2) : Alike (.array items) (.array items')
  | object {members members' order order' : List (Points × Raw)} (perm : members.Perm order)
      (perm' : members'.Perm order') (length : order.length = order'.length)
      (names : ∀ p ∈ order.zip order', p.1.1 = p.2.1)
      (each : ∀ p ∈ order.zip order', Alike p.1.2 p.2.2) :
      Alike (.object members) (.object members')

/-- The values of two members of one name are alike if the objects that they make are. -/
theorem Alike.of_single {name : Points} {r r' : Raw}
    (h : Alike (.object [(name, r)]) (.object [(name, r')])) : Alike r r' := by
  cases h with
  | object perm perm' length names each =>
      obtain rfl := List.singleton_perm.1 perm
      obtain rfl := List.singleton_perm.1 perm'
      exact each _ List.mem_cons_self

end Raw

end UtilityCss.Json

import Mathlib.Data.List.Nodup
import UtilityCss.Proofs.Json.Alike
import UtilityCss.Proofs.Json.Strings
import UtilityCss.Proofs.Number.Digits
import UtilityCss.Proofs.Text.Order

/-!
# JSON — canonical texts

The canonical text of a value leaves the order of members out and nothing else: two tidy values
whose numbers are integers have the same text exactly if they are alike (`canonical_eq_iff`).

* `canonical_of_alike`: the members of an object with distinct names are sorted in one way only, so
  their order does not show.
* `alike_of_canonical_append`: a text tells where a value ends and what it is.  The first character
  tells the kind of the value (`shape_of_canonical`); what may follow a value (`Ended`) cannot go on
  with a number.
* `isAscii_canonical`: a canonical text is in ASCII.
-/

namespace UtilityCss

namespace Text

variable {s t r r' : Text}

theorem join_eq_append (separator t : Text) (ts : List Text) :
    join separator (t :: ts) = t ++ ts.flatMap (separator ++ ·) := by
  induction ts generalizing t with
  | nil => simp [join]
  | cons u ts ih => rw [join, ih, List.flatMap_cons, List.append_assoc, List.append_assoc]

/-- Texts of a kind of characters, each with something of another kind behind it. -/
theorem append_inj_of_all {p : Char → Bool} (hs : s.all p) (ht : t.all p)
    (hr : ∀ c ∈ r.head?, p c = false) (hr' : ∀ c ∈ r'.head?, p c = false)
    (h : s ++ r = t ++ r') : s = t ∧ r = r' := by
  have htake {s r : Text} (hs : s.all p) (hr : ∀ c ∈ r.head?, p c = false) :
      (s ++ r).takeWhile p = s := by
    rw [List.takeWhile_append_of_pos (List.all_eq_true.1 hs)]
    cases r with
    | nil => simp
    | cons c r => simp [hr c rfl]
  have heq : s = t := by rw [← htake hs hr, h, htake ht hr']
  subst heq
  exact ⟨rfl, List.append_cancel_left h⟩

/-- Different integers have different texts. -/
theorem ofInt_inj {i j : Int} (h : ofInt i = ofInt j) : i = j := by
  have hminus (m : Nat) (t : Text) : ofNat m ≠ '-' :: t := fun heq => by
    have hdigit := Number.isAsciiDigit_of_mem_ofNat (heq ▸ List.mem_cons_self : '-' ∈ ofNat m)
    exact absurd hdigit (by decide)
  cases i with
  | ofNat m =>
      cases j with
      | ofNat n => rw [ofNat_inj h]
      | negSucc n => exact absurd h (hminus m _)
  | negSucc m =>
      cases j with
      | ofNat n => exact absurd h.symm (hminus n _)
      | negSucc n => rw [Nat.succ.inj (ofNat_inj (List.cons.inj h).2)]

theorem ofInt_ne_nil (i : Int) : ofInt i ≠ [] := by
  cases i with
  | ofNat n => exact Nat.toDigits_ne_nil
  | negSucc n => exact List.cons_ne_nil _ _

end Text

namespace Json

/-! ### Texts -/

theorem writeItems_eq (layout : Layout) (items : List Json) :
    writeItems layout items = items.map (write layout) := by
  induction items with
  | nil => rfl
  | cons item items ih => rw [writeItems, ih, List.map_cons]

theorem writeMembers_eq (layout : Layout) (members : List (Text × Json)) :
    writeMembers layout members = members.map fun m => (m.1, write layout m.2) := by
  induction members with
  | nil => rfl
  | cons m members ih => rw [writeMembers, ih, List.map_cons]

/-- A member with the canonical text of its value. -/
def named (m : Text × Json) : Text × Text :=
  (m.1, canonical m.2)

/-- The canonical text of a member. -/
def memberText (m : Text × Json) : Text :=
  writeString m.1 ++ [':'] ++ canonical m.2

/-- Members in the order of their names. -/
def ordered (members : List (Text × Json)) : List (Text × Json) :=
  members.mergeSort fun a b => Text.le a.1 b.1

theorem map_named_ordered (members : List (Text × Json)) :
    (ordered members).map named = sortMembers (members.map named) :=
  List.map_mergeSort fun _ _ _ _ => rfl

/-- Ordering the members of an object loses none of them. -/
theorem ordered_perm (members : List (Text × Json)) : (ordered members).Perm members :=
  List.mergeSort_perm _ _

/-- An array is its items between brackets, with commas. -/
theorem canonical_array (items : List Json) :
    canonical (.array items) = '[' :: (Text.join [','] (items.map canonical) ++ [']']) := by
  rw [canonical, write, writeItems_eq]
  rfl

/-- An object is its ordered members between braces, with commas. -/
theorem canonical_object (members : List (Text × Json)) :
    canonical (.object members) = Char.ofNat 123 ::
      (Text.join [','] ((ordered members).map memberText) ++ [Char.ofNat 125]) := by
  have htexts : (ordered members).map memberText =
      (sortMembers (members.map named)).map fun m => writeString m.1 ++ [':'] ++ m.2 := by
    rw [← map_named_ordered, List.map_map]
    rfl
  rw [htexts, canonical, write, writeMembers_eq]
  rfl

/-! ### The order of members -/

/-- Members with distinct names are sorted in one way only. -/
theorem sortMembers_eq_of_perm {members members' : List (Text × Text)}
    (hperm : members.Perm members') (hnames : (members.map Prod.fst).Nodup) :
    sortMembers members = sortMembers members' := by
  have hsorted (ms : List (Text × Text)) :
      (sortMembers ms).Pairwise fun a b => Text.le a.1 b.1 = true := by
    refine List.pairwise_mergeSort ?_ ?_ ms
    · exact fun _ _ _ => Text.le_trans
    · exact fun a b => Bool.or_eq_true_iff.2 (Text.le_total a.1 b.1)
  have hsame : (sortMembers members).Perm (sortMembers members') :=
    ((List.mergeSort_perm _ _).trans hperm).trans (List.mergeSort_perm _ _).symm
  refine hsame.eq_of_pairwise (fun a b ha hb hab hba => ?_) (hsorted _) (hsorted _)
  have ha' : a ∈ members := (List.mergeSort_perm _ _).mem_iff.1 ha
  have hb' : b ∈ members := hperm.mem_iff.2 ((List.mergeSort_perm _ _).mem_iff.1 hb)
  exact List.inj_on_of_nodup_map hnames ha' hb' (Text.le_antisymm hab hba)

theorem map_eq_of_zip {α β γ : Type} {f : α → γ} {g : β → γ} {as : List α} {bs : List β}
    (hlength : as.length = bs.length) (h : ∀ p ∈ as.zip bs, f p.1 = g p.2) :
    as.map f = bs.map g := by
  induction as generalizing bs with
  | nil => rw [List.length_eq_zero_iff.1 hlength.symm]; rfl
  | cons a as ih =>
      cases bs with
      | nil => cases hlength
      | cons b bs =>
          rw [List.zip_cons_cons, List.forall_mem_cons] at h
          rw [List.map_cons, List.map_cons, h.1, ih (Nat.succ.inj hlength) h.2]

/-- **The order of members does not show** in the canonical text. -/
theorem canonical_of_alike {kind : Number → Prop} {j j' : Json} (h : Alike j j')
    (htidy : Tidy kind j) : canonical j = canonical j' := by
  induction h with
  | null | bool | number | string => rfl
  | array hlength _ ih =>
      cases htidy with
      | array each =>
          have hitems := map_eq_of_zip hlength fun p hp =>
            ih p hp (each p.1 (List.of_mem_zip hp).1)
          rw [canonical_array, canonical_array, hitems]
  | @object members members' order order' hperm hperm' hlength hnames _ ih =>
      cases htidy with
      | object names each =>
          have hnamed : order.map named = order'.map named := map_eq_of_zip hlength fun p hp => by
            have hmem : p.1 ∈ members := hperm.mem_iff.2 (List.of_mem_zip hp).1
            rw [named, named, hnames p hp, ih p hp (each p.1 hmem)]
          have hsorted : (ordered members).map named = (ordered members').map named := by
            rw [map_named_ordered, map_named_ordered]
            refine sortMembers_eq_of_perm ((hperm.map named).trans ?_) (by rwa [List.map_map])
            rw [hnamed]
            exact (hperm'.map named).symm
          have htexts := congrArg (List.map fun m => writeString m.1 ++ [':'] ++ m.2) hsorted
          rw [List.map_map, List.map_map] at htexts
          rw [canonical_object, canonical_object]
          exact congrArg (fun ts => _ :: (Text.join [','] ts ++ _)) htexts

/-! ### Where a value ends -/

/-- What may follow a value: nothing, a comma or the end of an array or an object. -/
def Ended (rest : Text) : Prop :=
  ∀ c ∈ rest.head?, c = ',' ∨ c = ']' ∨ c = Char.ofNat 125

/-- A character that a number is written with. -/
def isNumberChar (c : Char) : Bool :=
  c == '-' || Text.isAsciiDigit c

/-- What may stand behind a number does not go on with it. -/
theorem Ended.not_isNumberChar {rest : Text} (h : Ended rest) :
    ∀ c ∈ rest.head?, isNumberChar c = false := by
  intro c hc
  obtain rfl | rfl | rfl := h c hc <;> decide

theorem all_isNumberChar_ofInt (i : Int) : (Text.ofInt i).all isNumberChar := by
  have hdigits (n : Nat) : (Text.ofNat n).all isNumberChar :=
    List.all_eq_true.2 fun c hc => by simp [isNumberChar, Number.isAsciiDigit_of_mem_ofNat hc]
  cases i with
  | ofNat n => exact hdigits n
  | negSucc n => simp [Text.ofInt, isNumberChar, hdigits]

/-- An integer is told from what stands behind it. -/
theorem ofInt_append_inj {i j : Int} {rest rest' : Text} (hrest : Ended rest) (hrest' : Ended rest')
    (h : Text.ofInt i ++ rest = Text.ofInt j ++ rest') : i = j ∧ rest = rest' := by
  obtain ⟨htext, rfl⟩ := Text.append_inj_of_all (all_isNumberChar_ofInt i)
    (all_isNumberChar_ofInt j) hrest.not_isNumberChar hrest'.not_isNumberChar h
  exact ⟨Text.ofInt_inj htext, rfl⟩

/-- The kinds of values as their texts show them. -/
inductive Shape where
  | null
  | truth (b : Bool)
  | number
  | string
  | array
  | object
  deriving DecidableEq

/-- The kind of a value. -/
def shape : Json → Shape
  | .null => .null
  | .bool b => .truth b
  | .number _ => .number
  | .string _ => .string
  | .array _ => .array
  | .object _ => .object

/-- The kind of value whose text starts with a character. -/
def shapeOf? (c : Char) : Option Shape :=
  if c == 'n' then some .null
  else if c == 't' then some (.truth true)
  else if c == 'f' then some (.truth false)
  else if c == Text.doubleQuote then some .string
  else if c == '[' then some .array
  else if c == Char.ofNat 123 then some .object
  else if isNumberChar c then some .number
  else none

theorem shapeOf?_of_isNumberChar {c : Char} (h : isNumberChar c) : shapeOf? c = some .number := by
  have hne (d : Char) (hd : isNumberChar d = false) : c ≠ d := by
    rintro rfl
    rw [h] at hd
    cases hd
  simp [shapeOf?, h, hne 'n' rfl, hne 't' rfl, hne 'f' rfl, hne Text.doubleQuote rfl, hne '[' rfl,
    hne (Char.ofNat 123) rfl]

/-- **The first character** of a text tells the kind of the value. -/
theorem shape_of_canonical {j : Json} (h : Tidy IsInteger j) :
    ∃ c t, canonical j = c :: t ∧ shapeOf? c = some (shape j) := by
  cases h with
  | null => exact ⟨_, _, rfl, rfl⟩
  | bool b => cases b <;> exact ⟨_, _, rfl, rfl⟩
  | number hn =>
      obtain ⟨i, rfl⟩ := hn
      obtain ⟨c, t, htext⟩ := List.exists_cons_of_ne_nil (Text.ofInt_ne_nil i)
      have hall := all_isNumberChar_ofInt i
      rw [htext, List.all_cons, Bool.and_eq_true] at hall
      exact ⟨c, t, htext, shapeOf?_of_isNumberChar hall.1⟩
  | string t => exact ⟨_, _, rfl, rfl⟩
  | array each => exact ⟨_, _, rfl, rfl⟩
  | object names each => exact ⟨_, _, rfl, rfl⟩

/-- Parts with a comma before each, up to a closing character: where one part ends and what it is
tells the others. -/
theorem parts_inj {α β : Type} {R : α → β → Prop} {f : α → Text} {g : β → Text} {close : Char}
    {as : List α} {bs : List β} {rest rest' : Text} (hclose : close = ']' ∨ close = Char.ofNat 125)
    (hpart : ∀ a ∈ as, ∀ b ∈ bs, ∀ r r', Ended r → Ended r' → f a ++ r = g b ++ r' →
      R a b ∧ r = r')
    (h : (as.map f).flatMap ([','] ++ ·) ++ close :: rest =
      (bs.map g).flatMap ([','] ++ ·) ++ close :: rest') :
    as.length = bs.length ∧ (∀ p ∈ as.zip bs, R p.1 p.2) ∧ rest = rest' := by
  have hcomma : close ≠ ',' := by
    obtain rfl | rfl := hclose <;> decide
  have hended (ts : List Text) (r : Text) : Ended (ts.flatMap ([','] ++ ·) ++ close :: r) := by
    intro c hc
    cases ts with
    | nil =>
        obtain rfl : close = c := by simpa using hc
        exact .inr hclose
    | cons t ts => exact .inl (by simpa using hc.symm)
  induction as generalizing bs with
  | nil =>
      cases bs with
      | nil => exact ⟨rfl, by simp, by simpa using h⟩
      | cons b bs =>
          simp only [List.map_nil, List.flatMap_nil, List.nil_append, List.map_cons,
            List.flatMap_cons, List.cons_append] at h
          exact absurd (List.cons.inj h).1 hcomma
  | cons a as ih =>
      cases bs with
      | nil =>
          simp only [List.map_nil, List.flatMap_nil, List.nil_append, List.map_cons,
            List.flatMap_cons, List.cons_append] at h
          exact absurd (List.cons.inj h).1.symm hcomma
      | cons b bs =>
          simp only [List.map_cons, List.flatMap_cons, List.cons_append, List.nil_append,
            List.cons.injEq, true_and, List.append_assoc] at h
          obtain ⟨hab, htail⟩ := hpart a List.mem_cons_self b List.mem_cons_self _ _ (hended _ _)
            (hended _ _) h
          obtain ⟨hlength, hzip, hrest⟩ := ih (fun a ha b hb =>
            hpart a (List.mem_cons_of_mem _ ha) b (List.mem_cons_of_mem _ hb)) htail
          refine ⟨congrArg Nat.succ hlength, ?_, hrest⟩
          rw [List.zip_cons_cons, List.forall_mem_cons]
          exact ⟨hab, hzip⟩

/-- Parts that are joined by commas, up to a closing character that none of them starts with. -/
theorem joined_inj {α β : Type} {R : α → β → Prop} {f : α → Text} {g : β → Text} {close : Char}
    {as : List α} {bs : List β} {rest rest' : Text} (hclose : close = ']' ∨ close = Char.ofNat 125)
    (hf : ∀ a ∈ as, ∀ r r', f a ++ r ≠ close :: r') (hg : ∀ b ∈ bs, ∀ r r', g b ++ r ≠ close :: r')
    (hpart : ∀ a ∈ as, ∀ b ∈ bs, ∀ r r', Ended r → Ended r' → f a ++ r = g b ++ r' →
      R a b ∧ r = r')
    (h : Text.join [','] (as.map f) ++ close :: rest =
      Text.join [','] (bs.map g) ++ close :: rest') :
    as.length = bs.length ∧ (∀ p ∈ as.zip bs, R p.1 p.2) ∧ rest = rest' := by
  cases as with
  | nil =>
      cases bs with
      | nil => exact ⟨rfl, by simp, by simpa [Text.join] using h⟩
      | cons b bs =>
          rw [List.map_cons, Text.join_eq_append, List.append_assoc] at h
          exact absurd h.symm (hg b List.mem_cons_self _ _)
  | cons a as =>
      cases bs with
      | nil =>
          rw [List.map_cons, Text.join_eq_append, List.append_assoc] at h
          exact absurd h (hf a List.mem_cons_self _ _)
      | cons b bs =>
          -- with a comma before the first part, too, all parts are alike
          refine parts_inj hclose hpart ?_
          simpa [Text.join_eq_append] using h

/-- Values whose texts start a common text are of one shape, which their first character shows. -/
theorem shape_eq_of_canonical_append {j j' : Json} {rest rest' : Text} (h : Tidy IsInteger j)
    (h' : Tidy IsInteger j') (heq : canonical j ++ rest = canonical j' ++ rest') :
    shape j = shape j' := by
  obtain ⟨c, t, htext, hshape⟩ := shape_of_canonical h
  obtain ⟨c', t', htext', hshape'⟩ := shape_of_canonical h'
  rw [htext, htext'] at heq
  rw [(List.cons.inj heq).1, hshape'] at hshape
  exact (Option.some.inj hshape).symm

/-- No value starts with a character that closes an array or an object. -/
theorem canonical_append_ne {j : Json} (h : Tidy IsInteger j) {close : Char}
    (hclose : shapeOf? close = none) (r r' : Text) : canonical j ++ r ≠ close :: r' := by
  obtain ⟨c, t, htext, hshape⟩ := shape_of_canonical h
  rw [htext]
  intro heq
  rw [(List.cons.inj heq).1, hclose] at hshape
  cases hshape

theorem memberText_append_ne (m : Text × Json) (r r' : Text) :
    memberText m ++ r ≠ Char.ofNat 125 :: r' := by
  intro h
  simp only [memberText, writeString, List.cons_append] at h
  exact absurd (List.cons.inj h).1 (by decide)

/-- A member is told from another one by its name and then by its value. -/
theorem memberText_append_inj {m m' : Text × Json} {r r' : Text}
    (h : memberText m ++ r = memberText m' ++ r') :
    m.1 = m'.1 ∧ canonical m.2 ++ r = canonical m'.2 ++ r' := by
  simp only [memberText, List.append_assoc] at h
  obtain ⟨hname, hrest⟩ := writeString_append_inj h
  exact ⟨hname, by simpa using hrest⟩

/-- **A text tells** where a value ends and what it is, up to the order of members. -/
theorem alike_of_canonical_append {j j' : Json} {rest rest' : Text} (h : Tidy IsInteger j)
    (h' : Tidy IsInteger j') (hrest : Ended rest) (hrest' : Ended rest')
    (heq : canonical j ++ rest = canonical j' ++ rest') : Alike j j' ∧ rest = rest' := by
  -- the first characters say that both values are of one kind, so one case of the other is left
  induction h generalizing j' rest rest' with
  | null =>
      have hshape := shape_eq_of_canonical_append .null h' heq
      cases h' with
      | null => exact ⟨.null, List.append_cancel_left heq⟩
      | _ => cases hshape
  | bool b =>
      have hshape := shape_eq_of_canonical_append (.bool b) h' heq
      cases h' with
      | bool b' =>
          cases hshape
          exact ⟨.bool b, List.append_cancel_left heq⟩
      | _ => cases hshape
  | number hn =>
      have hshape := shape_eq_of_canonical_append (.number hn) h' heq
      cases h' with
      | number hn' =>
          obtain ⟨i, rfl⟩ := hn
          obtain ⟨i', rfl⟩ := hn'
          obtain ⟨rfl, rfl⟩ := ofInt_append_inj hrest hrest' heq
          exact ⟨.number _, rfl⟩
      | _ => cases hshape
  | string t =>
      have hshape := shape_eq_of_canonical_append (.string t) h' heq
      cases h' with
      | string t' =>
          obtain ⟨rfl, rfl⟩ := writeString_append_inj heq
          exact ⟨.string t, rfl⟩
      | _ => cases hshape
  | array each ih =>
      have hshape := shape_eq_of_canonical_append (.array each) h' heq
      cases h' with
      | array each' =>
          rw [canonical_array, canonical_array, List.cons_append, List.cons_append,
            List.append_assoc, List.append_assoc] at heq
          obtain ⟨hlength, hzip, rfl⟩ := joined_inj (.inl rfl)
            (fun item hitem => canonical_append_ne (each item hitem) rfl)
            (fun item hitem => canonical_append_ne (each' item hitem) rfl)
            (fun item hitem item' hitem' r r' hr hr' => ih item hitem (each' item' hitem') hr hr')
            (List.cons.inj heq).2
          exact ⟨.array hlength hzip, rfl⟩
      | _ => cases hshape
  | @object members names each ih =>
      have hshape := shape_eq_of_canonical_append (.object names each) h' heq
      cases h' with
      | @object members' names' each' =>
          rw [canonical_object, canonical_object, List.cons_append, List.cons_append,
            List.append_assoc, List.append_assoc] at heq
          -- the orders by name are the orders in which the two are set against each other
          have hpart : ∀ m ∈ ordered members, ∀ m' ∈ ordered members', ∀ r r', Ended r → Ended r' →
              memberText m ++ r = memberText m' ++ r' →
                (m.1 = m'.1 ∧ Alike m.2 m'.2) ∧ r = r' := by
            intro m hm m' hm' r r' hr hr' hmember
            obtain ⟨hname, hvalue⟩ := memberText_append_inj hmember
            obtain ⟨halike, hrest⟩ := ih m ((ordered_perm _).mem_iff.1 hm)
              (each' m' ((ordered_perm _).mem_iff.1 hm')) hr hr' hvalue
            exact ⟨⟨hname, halike⟩, hrest⟩
          obtain ⟨hlength, hzip, rfl⟩ := joined_inj (.inr rfl)
            (fun m _ => memberText_append_ne m) (fun m _ => memberText_append_ne m) hpart
            (List.cons.inj heq).2
          exact ⟨.object (ordered_perm _).symm (ordered_perm _).symm hlength
            (fun p hp => (hzip p hp).1) fun p hp => (hzip p hp).2, rfl⟩
      | _ => cases hshape

/-- **Canonical texts** leave the order of members out, and nothing else. -/
theorem canonical_eq_iff {j j' : Json} (h : Tidy IsInteger j) (h' : Tidy IsInteger j') :
    canonical j = canonical j' ↔ Alike j j' := by
  refine ⟨fun heq => ?_, fun halike => canonical_of_alike halike h⟩
  have hended : Ended [] := by simp [Ended]
  exact (alike_of_canonical_append h h' hended hended (by rw [heq])).1

/-! ### ASCII -/

theorem isAscii_ofInt (i : Int) : Text.IsAscii (Text.ofInt i) := by
  intro c hc
  have hnumber := List.all_eq_true.1 (all_isNumberChar_ofInt i) c hc
  rw [isNumberChar, Bool.or_eq_true, beq_iff_eq, Text.isAsciiDigit_iff] at hnumber
  obtain rfl | hdigit := hnumber
  · decide
  · omega

/-- **A canonical text** is in ASCII. -/
theorem isAscii_canonical {j : Json} (h : Tidy IsInteger j) : Text.IsAscii (canonical j) := by
  have hparts {first last : Char} {ts : List Text} (hfirst : first.toNat < 128)
      (hlast : last.toNat < 128) (hts : ∀ t ∈ ts, Text.IsAscii t) :
      Text.IsAscii (first :: (Text.join [','] ts ++ [last])) := by
    have hcomma : Text.IsAscii [','] := List.forall_mem_singleton.2 (by decide)
    rw [Text.isAscii_cons, Text.isAscii_append]
    exact ⟨hfirst, Text.isAscii_join hcomma hts, List.forall_mem_singleton.2 hlast⟩
  induction h with
  | null => decide
  | bool b => cases b <;> decide
  | number hn =>
      obtain ⟨i, rfl⟩ := hn
      exact isAscii_ofInt i
  | string t => exact isAscii_writeString t
  | array each ih =>
      rw [canonical_array]
      exact hparts (by decide) (by decide) (List.forall_mem_map.2 ih)
  | object names each ih =>
      rw [canonical_object]
      refine hparts (by decide) (by decide) (List.forall_mem_map.2 fun m hm => ?_)
      rw [memberText, Text.isAscii_append, Text.isAscii_append]
      exact ⟨⟨isAscii_writeString m.1, List.forall_mem_singleton.2 (by decide)⟩,
        ih m ((ordered_perm _).mem_iff.1 hm)⟩

end Json

end UtilityCss

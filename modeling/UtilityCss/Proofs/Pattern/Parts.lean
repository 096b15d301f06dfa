import UtilityCss.Proofs.Pattern.Beside

/-!
# Patterns — the parts of a pattern side by side

Escapes, character sets, quantifiers, flags, comments and references are read the same alone and in
a group: `Agree`, with one lemma for each reader.  Where the first text
ends inside of such a part, its reader fails or has taken all that it asks for.

Flags are the exception, since those for the whole pattern are only taken at its start.
`joint_flagScope` says of them only that both readers find them.
-/

namespace UtilityCss.Pattern

/-- A letter that stands for a flag. -/
def isFlagLetter (c : Char) : Bool :=
  (Flag.ofLetter? c).isSome

/-- A letter that stands for a flag is one of the flag letters. -/
theorem isFlagLetter_of_ofLetter? {ch : Char} {flag : Flag} (h : Flag.ofLetter? ch = some flag) :
    isFlagLetter ch = true := by
  rw [isFlagLetter, h]
  rfl

namespace Reading

variable {F F' : Flags} {w : Option Bool} {n : Nat}

/-! ### Escapes -/

theorem refuses_failEscape {α : Type} (problem : Text → Problem) (escape : Text) :
    Refuses (failEscape problem escape : Reading α) :=
  refuses_failBack _ _

/-- Two bad escapes are both those of a malformed pattern, whatever text they report. -/
theorem related_failEscape {α β : Type} {P : Cursor → Cursor → Prop} {M : Run α → Run β → Prop}
    [Lenient M] (problem problem' : Text → Problem) (escape escape' : Text) :
    Related P M (failEscape problem escape) (failEscape problem' escape') :=
  related_of_refuses (refuses_failEscape _ _) (refuses_failEscape _ _)

/-- Escapes by code read the same digits in both patterns: what stands behind the first one is not a
digit. -/
theorem agree_hexEscape (start : Text) (count : Nat) :
    Agree F F' w n Eq (hexEscape start count) (hexEscape start count) := by
  refine (agree_takeUpTo (by decide) (by decide) (.inl rfl)).bind_eq fun digits => ?_
  dsimp only
  split
  · exact related_failEscape _ _ _ _
  · split
    · exact related_throw Iff.rfl
    · split
      · exact related_failEscape _ _ _ _
      · exact accord_pure rfl

theorem agree_octalCode (digits : Text) :
    Agree F F' w n Eq (octalCode digits) (octalCode digits) := by
  rw [octalCode]
  split
  · exact related_failEscape _ _ _ _
  · exact accord_pure rfl

theorem agree_plainEscape (c : Char) : Agree F F' w n Eq (plainEscape c) (plainEscape c) := by
  rw [plainEscape]
  split
  · exact related_failEscape _ _ _ _
  · exact accord_pure rfl

/-- Both patterns have opened the same groups when one is referred to. -/
theorem agree_groupReference (digits : Text) :
    Agree F F' w n Eq (groupReference digits) (groupReference digits) := by
  rw [groupReference]
  refine agree_groups.bind_eq fun groups => ?_
  split
  · refine (agree_width? _).bind_eq fun width => ?_
    split
    · exact related_failBack _ _ _ _
    · exact (agree_checkLookBehind _).bind_eq fun _ => accord_pure rfl
  · exact related_failBack _ _ _ _

theorem agree_digitEscape (c : Char) : Agree F F' w n Eq (digitEscape c) (digitEscape c) := by
  refine (agree_takeUpTo (by decide) (by decide) (.inl rfl)).bind_eq fun digits => ?_
  split
  · split
    · refine (agree_takeUpTo (by decide) (by decide) (.inl rfl)).bind_eq fun digits => ?_
      split
      · exact (agree_octalCode _).bind_eq fun _ => accord_pure rfl
      · exact agree_groupReference _
    · exact agree_groupReference _
  · exact agree_groupReference _

/-! ### Ranges -/

/-- A range of a set depends on its ends alone. -/
theorem agree_setRange (first last : Lexeme) (low high : SetItem) :
    Agree F F' w n Eq (setRange first last low high) (setRange first last low high) := by
  rw [setRange.eq_def]
  dsimp only
  split
  · split
    · exact related_failBack _ _ _ _
    · exact accord_pure rfl
  · exact related_failBack _ _ _ _

/-- A bad range is refused, and a good one reads nothing. -/
theorem lost_setRange (first last : Lexeme) (low high : SetItem) (c : Cursor) :
    Lost (fun _ d => d = c) ((setRange first last low high).run c) := by
  rw [setRange.eq_def]
  dsimp only
  split
  · split
    · exact (refuses_failBack _ _).lost
    · exact lost_pure rfl
  · exact (refuses_failBack _ _).lost

/-! ### Escapes that may be character names -/

section

variable [Names]

theorem agree_namedEscape : Agree F F' w n Eq namedEscape namedEscape := by
  refine Accord.accept_bind (by decide) (by decide) (fun m _ => ?_) (related_failBack _ _ _ _)
  refine (agree_name (by decide) (by decide) (by decide) _).bind_eq fun name => ?_
  split
  · exact accord_pure rfl
  · exact related_failBack _ _ _ _

theorem agree_codeEscape? (c : Char) : Agree F F' w n Eq (codeEscape? c) (codeEscape? c) := by
  rw [codeEscape?]
  split
  · exact (agree_hexEscape _ _).bind_eq fun _ => accord_pure rfl
  · split
    · exact (agree_hexEscape _ _).bind_eq fun _ => accord_pure rfl
    · split
      · exact (agree_hexEscape _ _).bind_eq fun _ => accord_pure rfl
      · split
        · exact agree_namedEscape.bind_eq fun _ => accord_pure rfl
        · exact accord_pure rfl

theorem agree_setEscape (c : Char) : Agree F F' w n Eq (setEscape c) (setEscape c) := by
  rw [setEscape]
  split
  · exact accord_pure rfl
  · exact accord_pure rfl
  · refine (agree_codeEscape? c).bind_eq fun code => ?_
    split
    · exact accord_pure rfl
    · split
      · refine (agree_takeUpTo (by decide) (by decide) (.inl rfl)).bind_eq fun digits => ?_
        exact (agree_octalCode _).bind_eq fun _ => accord_pure rfl
      · split
        · exact related_failEscape _ _ _ _
        · exact (agree_plainEscape c).bind_eq fun _ => accord_pure rfl

theorem agree_itemEscape (c : Char) : Agree F F' w n Eq (itemEscape c) (itemEscape c) := by
  rw [itemEscape]
  split
  · exact accord_pure rfl
  · exact accord_pure rfl
  · exact accord_pure rfl
  · refine (agree_codeEscape? c).bind_eq fun code => ?_
    split
    · exact accord_pure rfl
    · split
      · refine (agree_takeUpTo (by decide) (by decide) (.inl rfl)).bind_eq fun digits => ?_
        exact accord_pure rfl
      · split
        · exact agree_digitEscape c
        · exact (agree_plainEscape c).bind_eq fun _ => accord_pure rfl

/-! ### Character sets -/

theorem agree_setMember (l : Lexeme) : Agree F F' w n Eq (setMember l) (setMember l) := by
  cases l with
  | escaped c => exact agree_setEscape c
  | plain c => exact accord_pure rfl

/-- Behind the end of the first text, no bracket ends a set. -/
theorem refused_setMembers (opening : Nat) {t : Text} (ht : t <:+ closing true) {c : Cursor}
    (hrest : c.rest = t) {k : Nat} (hk : t.length < k) (members : List SetItem) :
    Refused ((setMembers opening k members).run c) := by
  obtain ⟨k, rfl⟩ := Nat.exists_eq_add_one.2 (Nat.zero_lt_of_lt hk)
  induction t generalizing k members c with
  | nil =>
      rw [setMembers, run_next_nil hrest]
      exact refuses_failAt _ _ _
  | cons ch t ih =>
      obtain ⟨hch, hwhole, ht', -, -⟩ := of_suffix_closing ht
      obtain ⟨k, rfl⟩ := Nat.exists_eq_add_one.2 (Nat.zero_lt_of_lt (Nat.lt_of_succ_lt_succ hk))
      have hbracket : ch ≠ ']' := ne_of_suffix_closing (by decide) ht
      have hhyphen : lexeme? t ≠ some (.plain '-') := lexeme?_ne_of_suffix (by decide) ht'
      rw [setMembers, run_next_plain hch hrest hwhole]
      dsimp only
      rw [if_neg (by simp [hbracket]), setMember, pure_bind, run_accept_false hhyphen]
      exact ih ht' rfl _ _ (Nat.lt_of_succ_lt_succ hk)

/-- What the reader of a set does behind a hyphen. -/
def rangeEnd (opening fuel : Nat) (first : Lexeme) (low : SetItem) (members : List SetItem) :
    Reading (List SetItem) := do
  match ← next with
  | none => failAt .unterminatedSet opening
  | some last =>
    if last == .plain ']' then return .code 45 :: low :: members
    let high ← setMember last
    setMembers opening fuel ((← setRange first last low high) :: members)

/-- Behind the end of the first text, a range may end with what closes the group, but the set goes
on. -/
theorem refused_rangeEnd (opening : Nat) (first : Lexeme) (low : SetItem) {c : Cursor}
    (hc : Beyond c) {k : Nat} (hk : c.rest.length ≤ k) (members : List SetItem) :
    Refused ((rangeEnd opening k first low members).run c) := by
  rw [rangeEnd]
  cases hrest : c.rest with
  | nil =>
      rw [run_next_nil hrest]
      exact refuses_failAt _ _ _
  | cons ch t =>
      have hsuffix := hc.of_cons hrest
      obtain ⟨hch, hwhole, ht, -, -⟩ := of_suffix_closing hsuffix
      have hbracket : ch ≠ ']' := ne_of_suffix_closing (by decide) hsuffix
      rw [run_next_plain hch hrest hwhole]
      dsimp only
      rw [if_neg (by simp [hbracket]), setMember, pure_bind]
      refine (lost_setRange _ _ _ _ _).bind fun range d hd => ?_
      subst hd
      rw [hrest] at hk
      exact refused_setMembers opening ht rfl hk _

/-- What stands behind the first pattern closes no set, so the members are read alike. -/
theorem agree_setMembers (opening opening' : Nat) {k k' : Nat} (hk : n < k)
    (hk' : n + (behind w).length < k') (members : List SetItem) :
    Agree F F' w n Eq (setMembers opening k members) (setMembers opening' k' members) := by
  induction k generalizing k' n members with
  | zero => omega
  | succ k ih =>
      refine Related.by_end (fun c c' hc => ?_) fun l => ?_
      · refine fates_of_lost ?_ (refused_setMembers opening' (hc.1.beyond hc.2) rfl ?_ _)
        · rw [setMembers, run_next_nil hc.2]
          exact refuses_failAt _ _ _
        · rw [hc.1.rest, hc.2, List.nil_append]
          omega
      obtain ⟨k', rfl⟩ := Nat.exists_eq_add_one.2 (Nat.zero_lt_of_lt hk')
      rw [setMembers, setMembers]
      refine Related.take_bind l fun m hm => Accord.lower ?_ (by omega : m ≤ n)
      dsimp only
      refine related_ite (accord_pure rfl) ?_
      refine (agree_setMember l).bind_eq fun low => ?_
      refine Accord.accept_bind (by decide) (by decide) (fun m' hm' => ?_) ?_
      · refine Related.next_bind (fun c c' hc => ?_) fun l' m'' hm'' => ?_
        · refine fates_of_lost (refuses_failAt _ _ c)
            (refused_rangeEnd opening' l low (hc.1.beyond hc.2) ?_ members)
          rw [hc.1.rest, hc.2, List.nil_append]
          omega
        · refine Accord.lower ?_ (by omega : m'' ≤ m')
          dsimp only
          refine related_ite (accord_pure rfl) ?_
          refine (agree_setMember l').bind_eq fun high => ?_
          refine (agree_setRange l l' low high).bind_eq fun range => ?_
          exact ih (by omega) (by omega) _
      · exact ih (by omega) (by omega) _

theorem agree_characterSet : Agree F F' w n Eq characterSet characterSet := by
  rw [characterSet]
  refine Related.here_bind fun _ _ => ?_
  refine (agree_accept (by decide) (by decide)).bind_eq fun negated => ?_
  refine Accord.get_bind fun s s' hs => ?_
  refine (agree_setMembers _ _ (Nat.lt_succ_self _) hs.lt_fuel []).bind_eq
    fun members => ?_
  split <;> exact accord_pure rfl

end

/-! ### Quantifiers -/

theorem agree_count (digits : Text) : Agree F F' w n Eq (count digits) (count digits) := by
  rw [count]
  dsimp only
  split
  · exact related_throw_bind Iff.rfl _ _
  · split
    · exact related_throw_bind Iff.rfl _ _
    · exact accord_pure rfl

/-- Braces that hold no bounds stand for themselves, in both patterns. -/
theorem agree_braces : Agree F F' w n Eq braces braces := by
  rw [braces]
  refine Accord.get_bind fun s s' hs => ?_
  dsimp only
  refine Related.peek_bind (by decide) (by decide) (accord_pure rfl) ?_
  refine Related.here_bind fun position position' => ?_
  refine (agree_takeAll (by decide) (by decide)).bind_eq fun low => ?_
  refine (agree_accept (by decide) (by decide)).bind_eq fun comma => ?_
  refine accord_ite_bind (agree_takeAll (by decide) (by decide)) (accord_pure rfl) fun high => ?_
  refine (agree_accept (by decide) (by decide)).bind_eq fun closed => ?_
  split
  · refine accord_ite_bind (accord_pure rfl) (agree_count low) fun min => ?_
    refine accord_ite_bind (accord_pure rfl) ((agree_count high).map_eq some) fun max => ?_
    cases max with
    | none => exact accord_pure rfl
    | some m =>
        dsimp only
        split
        · exact related_failAt _ _ _ _
        · exact accord_pure rfl
  · exact (agree_moveTo hs (Nat.le_refl _)).bind_eq fun _ => accord_pure rfl

theorem agree_bounds (c : Char) : Agree F F' w n Eq (bounds c) (bounds c) := by
  rw [bounds]
  split
  · exact accord_pure rfl
  · split
    · exact accord_pure rfl
    · split
      · exact accord_pure rfl
      · exact agree_braces

theorem agree_greed : Agree F F' w n Eq greed greed := by
  refine Accord.accept_bind (by decide) (by decide) (fun _ _ => accord_pure rfl) ?_
  exact Accord.accept_bind (by decide) (by decide) (fun _ _ => accord_pure rfl) (accord_pure rfl)

/-- There is something that is repeated. -/
theorem agree_repeatLast (min : Nat) (max : Option Nat) (position position' : Nat)
    (items : List Item) :
    Agree F F' w n (fun a b => a = b ∧ a ≠ []) (repeatLast min max position items)
      (repeatLast min max position' items) := by
  rw [repeatLast.eq_def, repeatLast.eq_def]
  split
  · exact related_failAt _ _ _ _
  · exact related_failAt _ _ _ _
  · exact related_failAt _ _ _ _
  · exact agree_greed.bind_eq fun _ => accord_pure ⟨rfl, List.cons_ne_nil _ _⟩

/-! ### Flags -/

/-- Whatever stands where a flag is missing, the pattern is malformed. -/
theorem refuses_refuseFlag {α : Type} (problem : Problem) (l : Option Lexeme) :
    Refuses (refuseFlag problem l : Reading α) := by
  rw [refuseFlag.eq_def]
  split
  · exact refuses_failBack _ _
  · split <;> exact refuses_failBack _ _

theorem related_refuseFlag {α β : Type} {P : Cursor → Cursor → Prop} {M : Run α → Run β → Prop}
    [Lenient M] (problem problem' : Problem) (l l' : Option Lexeme) :
    Related P M (refuseFlag problem l) (refuseFlag problem' l') :=
  related_of_refuses (refuses_refuseFlag _ _) (refuses_refuseFlag _ _)

/-- Flags that are not ended are those for the whole pattern to the second reader, which takes the
parenthesis that closes the group. -/
theorem accord_addedFlags {k k' : Nat} (hk : n < k) (hk' : n < k') (flag : Flag) (flags : Flags) :
    Accord F F' w n Eq (fun x d => x.2 = ')' ∧ Spent d) (addedFlags k flag flags)
      (addedFlags k' flag flags) := by
  induction k generalizing k' n flag flags with
  | zero => omega
  | succ k ih =>
      obtain ⟨k', rfl⟩ := Nat.exists_eq_add_one.2 (Nat.zero_lt_of_lt hk')
      rw [addedFlags, addedFlags]
      dsimp only
      refine accord_unless (refuses_failBack _ _) (refuses_failBack _ _) ?_
      refine accord_unless (refuses_failBack _ _) (refuses_failBack _ _) ?_
      refine Related.next_bind (fun c c' hc => ?_) fun l m hm => ?_
      · exact fates_of_lost (refuses_refuseFlag _ _ _) (hc.1.of_next_nil hc.2
          (refuses_refuseFlag _ _).lost (lost_pure ⟨rfl, spent_of_eq rfl⟩)
          (refuses_refuseFlag _ (some (.plain '\n'))).lost)
      · refine Accord.lower ?_ (by omega : m ≤ n)
        cases l with
        | escaped c => exact related_refuseFlag _ _ _ _
        | plain c =>
            dsimp only
            refine related_ite (accord_pure rfl) ?_
            split
            · exact ih (by omega) (by omega) _ _
            · exact related_refuseFlag _ _ _ _

/-- Flags that are switched off are the same ones in both patterns. -/
theorem agree_removedFlags {k k' : Nat} (hk : n < k) (hk' : n < k') (flag : Flag)
    (flags : Flags) :
    Agree F F' w n Eq (removedFlags k flag flags) (removedFlags k' flag flags) := by
  induction k generalizing k' n flag flags with
  | zero => omega
  | succ k ih =>
      obtain ⟨k', rfl⟩ := Nat.exists_eq_add_one.2 (Nat.zero_lt_of_lt hk')
      rw [removedFlags, removedFlags]
      dsimp only
      refine accord_unless (refuses_failBack _ _) (refuses_failBack _ _) ?_
      have hrefuses := fun l => refuses_refuseFlag (α := Flags) .missingColon l
      refine Accord.next_bind (hrefuses none) (hrefuses none) (hrefuses (some (.plain ')')))
        (hrefuses (some (.plain '\n'))) fun l m hm => ?_
      refine related_ite (accord_pure rfl) ?_
      split
      · exact ih (by omega) (by omega) _ _
      · exact related_refuseFlag _ _ _ _

/-! ### Comments and references -/

/-- A group that a condition asks for is written down. -/
theorem Beside.mention {c c' : Cursor} (h : Beside F F' w n c c') (group position position' : Nat) :
    Beside F F' w n
      (if (c.conditions.lookup group).isSome then c
        else { c with conditions := (group, position) :: c.conditions })
      (if (c'.conditions.lookup group).isSome then c'
        else { c' with conditions := (group, position') :: c'.conditions }) := by
  have hasked : (c'.conditions.lookup group).isSome = (c.conditions.lookup group).isSome := by
    have hmem : ∀ conditions : List (Nat × Nat),
        (conditions.lookup group).isSome ↔ group ∈ conditions.map Prod.fst := by simp
    rw [Bool.eq_iff_iff, hmem, hmem, h.conditions]
  rw [hasked]
  split
  · exact h
  · exact h.learn ⟨h.flags, h.flags', h.widths, h.names, h.lookBehind,
      congrArg (group :: ·) h.conditions⟩ rfl rfl

/-- Behind the end of the first text, the parenthesis that closes the group ends a comment. -/
theorem lost_skipComment (opening : Nat) {t : Text} (ht : t <:+ closing true) {c : Cursor}
    (hrest : c.rest = t) {k : Nat} (hk : t.length < k) :
    Lost (fun _ d => Spent d) ((skipComment opening k).run c) := by
  obtain ⟨k, rfl⟩ := Nat.exists_eq_add_one.2 (Nat.zero_lt_of_lt hk)
  induction t generalizing k c with
  | nil =>
      rw [skipComment, run_next_nil hrest]
      exact (refuses_failAt _ _).lost
  | cons ch t ih =>
      obtain ⟨hch, hwhole, ht', hclose, -⟩ := of_suffix_closing ht
      rw [skipComment, run_next_plain hch hrest hwhole]
      dsimp only
      split
      next hparen => exact lost_pure (spent_of_eq (hclose (by simpa using hparen)))
      next =>
          obtain ⟨k, rfl⟩ := Nat.exists_eq_add_one.2 (Nat.zero_lt_of_lt (Nat.lt_of_succ_lt_succ hk))
          exact ih ht' rfl _ (Nat.lt_of_succ_lt_succ hk)

/-- A comment that the first pattern leaves open may be closed behind it; then that pattern is used
up. -/
theorem accord_skipComment (opening opening' : Nat) {k k' : Nat} (hk : n < k)
    (hk' : n + (behind w).length < k') :
    Accord F F' w n Eq (fun _ d => Spent d) (skipComment opening k) (skipComment opening' k') := by
  induction k generalizing k' n with
  | zero => omega
  | succ k ih =>
      refine Related.by_end (fun c c' hc => ?_) fun l => ?_
      · refine fates_of_lost ?_ (lost_skipComment opening' (hc.1.beyond hc.2) rfl ?_)
        · rw [skipComment, run_next_nil hc.2]
          exact refuses_failAt _ _ _
        · rw [hc.1.rest, hc.2, List.nil_append]
          omega
      · obtain ⟨k', rfl⟩ := Nat.exists_eq_add_one.2 (Nat.zero_lt_of_lt hk')
        rw [skipComment, skipComment]
        refine Related.take_bind l fun m hm => Accord.lower ?_ (by omega : m ≤ n)
        dsimp only
        exact related_ite (accord_pure rfl) (ih (by omega) (by omega))

/-- So may the name of a group be, if its terminator stands behind the pattern. -/
theorem accord_groupName {terminator : Char} (hfeed : terminator ≠ '\n')
    (hfinish : terminator ≠ '$') :
    Accord F F' w n Eq (fun _ d => terminator = ')' ∧ Spent d) (groupName terminator)
      (groupName terminator) := by
  refine (accord_name hfeed hfinish _).bind_eq (fun name => ?_) fun name d hd => ?_
  · exact related_ite (accord_pure rfl) (related_failBack _ _ _ _)
  · split
    · exact lost_pure hd
    · exact (refuses_failBack _ _).lost

theorem accord_namedReference :
    Accord F F' w n Eq (fun _ d => Spent d) namedReference namedReference := by
  refine (accord_groupName (by decide) (by decide)).bind_eq (fun name => ?_) fun name d hd => ?_
  · refine Accord.get_bind fun s s' hs => ?_
    rw [hs.names]
    split
    · exact related_failBack _ _ _ _
    · refine (agree_width? _).bind_eq fun width => ?_
      split
      · exact related_failBack _ _ _ _
      · exact (agree_checkLookBehind _).bind_eq fun _ => accord_pure rfl
  · refine Still.spent (.get_bind fun s => ?_) hd.2
    split
    · exact (refuses_failBack _ _).still
    · refine .get_bind fun _ => ?_
      split
      · exact (refuses_failBack _ _).still
      · exact (still_checkLookBehind _).bind fun _ => still_pure _

theorem accord_condition : Accord F F' w n Eq (fun _ d => Spent d) condition condition := by
  rw [condition]
  refine (accord_name (by decide) (by decide) _).bind_eq (fun name => ?_) fun name d hd => ?_
  · dsimp only
    have hcheck : ∀ {n : Nat} (group : Nat), Accord F F' w n Eq (fun _ d => Spent d)
        (checkLookBehind group >>= fun _ => pure group)
        (checkLookBehind group >>= fun _ => pure group) := fun group =>
      (agree_checkLookBehind group).bind_eq fun _ => accord_pure rfl
    have hrefuse : ∀ {n : Nat} (problem : Problem) (back : Nat) (f : Nat → Reading Nat),
        Accord F F' w n Eq (fun _ d => Spent d) (failBack problem back >>= f)
          (failBack problem back >>= f) := fun problem back f =>
      related_of_refuses ((refuses_failBack _ _).bind_left _) ((refuses_failBack _ _).bind_left _)
    split
    · refine Accord.get_bind fun s s' hs => ?_
      rw [hs.names]
      split
      · exact hcheck _
      · exact hrefuse _ _ _
    · split
      · exact hrefuse _ _ _
      · refine related_ite (hrefuse _ _ _) (related_ite (hrefuse _ _ _)
          (related_ite (hrefuse _ _ _) ?_))
        refine Related.here_bind fun _ _ => ?_
        refine (agree_modify fun c c' hc => ?_).bind_eq fun _ => hcheck _
        exact hc.mention _ _ _
  · have hcheck : ∀ group : Nat, Still (checkLookBehind group >>= fun _ => pure group) :=
      fun group => (still_checkLookBehind group).bind fun _ => still_pure _
    have hrefuse : ∀ (problem : Problem) (back : Nat) (f : Nat → Reading Nat),
        Still (failBack problem back >>= f) := fun problem back f =>
      ((refuses_failBack _ _).bind_left _).still
    refine Still.spent ?_ hd.2
    dsimp only
    split
    · refine .get_bind fun s => ?_
      split
      · exact hcheck _
      · exact hrefuse _ _ _
    · split
      · exact hrefuse _ _ _
      · refine still_ite (hrefuse _ _ _) (still_ite (hrefuse _ _ _) (still_ite (hrefuse _ _ _) ?_))
        refine .get_bind fun _ => (still_modify fun s => ?_).bind fun _ => hcheck _
        split <;> rfl

/-- The flags that a group adds, of which the first letter has been taken, and the character after
them. -/
def plusFlags (c : Char) (fuel : Nat) : Reading (Flags × Char) :=
  match Flag.ofLetter? c with
  | some flag => addedFlags fuel flag {}
  | none => return ({}, c)

/-- The flags that a group removes, if a hyphen stands after those that it adds. -/
def minusFlags (stop : Char) (fuel : Nat) : Reading Flags :=
  if stop == '-' then do
    let l ← next
    match flag? l with
    | some flag => removedFlags fuel flag {}
    | none => refuseFlag .missingFlag l
  else return {}

/-- The flags of a group by those that it adds and the character after them. -/
def scopeOf (added : Flags) (stop : Char) (fuel : Nat) : Reading FlagScope := do
  if stop == ')' then
    modify fun s => { s with flags := s.flags.union added }
    return .whole
  if added.template then failBack .globalFlagOn 1
  let removed ← minusFlags stop fuel
  if removed.template then failBack .globalFlagOff 1
  if !added.disjoint removed then failBack .flagOnAndOff 1
  return .group added removed

/-- The flags of a group are read up to the first sign that is no flag, and this sign decides what
follows. -/
theorem flagScope_eq (c : Char) :
    flagScope c = get >>= fun s => plusFlags c (s.rest.length + 1) >>= fun x =>
      scopeOf x.1 x.2 (s.rest.length + 1) := by
  have hminus : ∀ (stop : Char) (fuel : Nat) (f : Flags → Reading FlagScope),
      minusFlags stop fuel >>= f =
        if stop == '-' then
          next >>= fun l =>
            match flag? l with
            | some flag => removedFlags fuel flag {} >>= f
            | none => refuseFlag .missingFlag l >>= f
        else pure {} >>= f := by
    intro stop fuel f
    rw [minusFlags]
    split
    · rw [bind_assoc]
      refine bind_congr fun l => ?_
      cases flag? l <;> rfl
    · rfl
  rw [flagScope]
  refine bind_congr fun s => ?_
  rw [plusFlags]
  cases Flag.ofLetter? c with
  | none =>
      refine Eq.trans ?_ (pure_bind _ _).symm
      dsimp only [scopeOf]
      rewrite [hminus]
      rfl
  | some flag =>
      refine bind_congr fun x => ?_
      dsimp only [scopeOf]
      rewrite [hminus]
      rfl

/-- Flags that are switched on may be followed by a parenthesis that stands behind the first
pattern. -/
theorem accord_plusFlags (c : Char) {k k' : Nat} (hk : n < k) (hk' : n < k') :
    Accord F F' w n Eq (fun x d => x.2 = ')' ∧ Spent d) (plusFlags c k) (plusFlags c k') := by
  rw [plusFlags, plusFlags]
  cases Flag.ofLetter? c with
  | none => exact accord_pure rfl
  | some flag => exact accord_addedFlags hk hk' flag {}

/-- Behind a minus sign there is no way out of the first pattern: a parenthesis is no end of such
flags. -/
theorem agree_minusFlags (stop : Char) {k k' : Nat} (hk : n < k) (hk' : n < k') :
    Agree F F' w n Eq (minusFlags stop k) (minusFlags stop k') := by
  rw [minusFlags, minusFlags]
  refine related_ite ?_ (accord_pure rfl)
  have hrefuses := fun l => refuses_refuseFlag (α := Flags) .missingFlag l
  refine Accord.next_bind (hrefuses none) (hrefuses none) (hrefuses (some (.plain ')')))
    (hrefuses (some (.plain '\n'))) fun l m hm => ?_
  cases flag? (some l) with
  | none => exact related_refuseFlag _ _ _ _
  | some flag => exact agree_removedFlags (by omega) (by omega) flag {}

theorem agree_scopeOf (added : Flags) {stop : Char} (hstop : stop ≠ ')') {k k' : Nat} (hk : n < k)
    (hk' : n < k') : Agree F F' w n Eq (scopeOf added stop k) (scopeOf added stop k') := by
  have hgroup : ¬ (stop == ')') = true := fun heq => hstop (eq_of_beq heq)
  have hrefuses := fun problem => refuses_failBack (α := Unit) problem 1
  rw [scopeOf, scopeOf]
  dsimp only
  rw [if_neg hgroup, if_neg hgroup]
  refine accord_unless (hrefuses _) (hrefuses _) ?_
  refine (agree_minusFlags stop hk hk').bind_eq fun removed => ?_
  refine accord_unless (hrefuses _) (hrefuses _) ?_
  exact accord_unless (hrefuses _) (hrefuses _) (accord_pure rfl)

/-- Behind a parenthesis the flags are those for the whole pattern. -/
theorem run_scopeOf_whole (added : Flags) (k : Nat) (c : Cursor) :
    (scopeOf added ')' k).run c = .ok (.whole, { c with flags := c.flags.union added }) :=
  rfl

/-- Flags for a group are the same to both readers.  Flags for the whole pattern are not looked at:
they may only stand where the second reader is not. -/
theorem joint_flagScope (c : Char) :
    Joint False (Beside F F' w n)
      (fun a d b d' => a = .whole ∧ b = .whole ∨ a = b ∧ Beside F F' w n d d')
      (fun b d' => b = .whole ∧ Spent d') (flagScope c) (flagScope c) := by
  rw [flagScope_eq]
  refine Related.get_bind fun s s' hs hle => ?_
  have hk := Nat.lt_succ_self s.rest.length
  have hk' := Nat.lt_succ_of_le hs.length_le
  refine Joint.bind (accord_plusFlags c hk hk') (fun x x' => ?_) fun f hf x d hd => ?_
  · rintro e e' ⟨rfl, he⟩
    by_cases hstop : x.2 = ')'
    · rw [hstop, run_scopeOf_whole, run_scopeOf_whole]
      exact .results (.inl ⟨rfl, rfl⟩)
    · refine Joint.imp (agree_scopeOf x.1 hstop hk hk') (fun _ _ => id)
        (fun _ _ _ _ hd => .inr ⟨hd.1, hd.2.mono hle⟩) (fun _ _ => False.elim) he
  · rw [hd.1, run_scopeOf_whole]
    exact .overrun hf ⟨rfl, hd.2⟩

end Reading

end UtilityCss.Pattern

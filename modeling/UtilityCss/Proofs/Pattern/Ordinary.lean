import UtilityCss.Proofs.Number.Digits
import UtilityCss.Proofs.Pattern.Parts
import UtilityCss.Proofs.Pattern.Rounds

/-!
# Patterns — what is taken behind a lexeme

Escapes, quantifiers and names go on behind their first lexeme.  What they take there is ordinary:
no character of it opens, closes or parts anything, and none is a backslash.

* `TakesFrom`: where a reader starts behind an ordinary text, it stops behind an ordinary text.
  There is one lemma for each reader, in the order of the readers.
* `of_run_name`: a name stands before its terminator.  Names of characters are ordinary
  (`ordinary_of_code?`), and so are those of groups, by their parts
  (`isNamePart_of_isIdentifier`, `isNamePart_of_readInt?`).
-/

namespace UtilityCss

namespace Pattern

/-- The characters that set the parts of a pattern apart. -/
def marks : Text :=
  ['\\', '|', '(', ')', '[', ']', '#']

/-- A text without marks. -/
def Ordinary (t : Text) : Prop :=
  ∀ ch ∈ t, ch ∉ marks

instance : DecidablePred Ordinary :=
  fun t => decidable_of_iff ((t.all fun ch => !marks.contains ch) = true) (by simp [Ordinary])

/-- A character of a kind that no mark is of is none. -/
theorem not_mem_marks (kind : Char → Bool) (hkind : marks.any kind = false) {ch : Char}
    (hch : kind ch = true) : ch ∉ marks := by
  intro hmark
  exact List.any_eq_false.1 hkind ch hmark hch

/-- A text of one kind of characters is ordinary if none of the marks is of this kind. -/
theorem ordinary_of_kind (kind : Char → Bool) (hkind : marks.any kind = false) {t : Text}
    (ht : ∀ ch ∈ t, kind ch = true) : Ordinary t :=
  fun ch hch => not_mem_marks kind hkind (ht ch hch)

theorem ordinary_append {t u : Text} (ht : Ordinary t) (hu : Ordinary u) : Ordinary (t ++ u) :=
  fun ch hch => (List.mem_append.1 hch).elim (ht ch) (hu ch)

/-! ### Names -/

/-- A character of the names and numbers of groups. -/
def isNamePart (c : Char) : Bool :=
  Text.isIdentifierStart c || Text.isIdentifierPart c || Number.isPadding c || Text.isDecimal c ||
    ['-', '+', '_'].contains c

/-- The characters of an identifier are parts of names. -/
theorem isNamePart_of_isIdentifier {n : Text} (h : Text.isIdentifier n) :
    ∀ ch ∈ n, isNamePart ch = true := by
  cases n with
  | nil => nofun
  | cons first rest =>
      rw [Text.isIdentifier, Bool.and_eq_true, List.all_eq_true] at h
      intro ch hch
      rw [isNamePart]
      rcases List.mem_cons.1 hch with rfl | hch
      · simp [h.1]
      · simp [h.2 ch hch]

/-- So is what is read as the number of a group. -/
theorem isNamePart_of_readInt? {n : Text} {i : Int} (h : Number.readInt? n = some i) :
    ∀ ch ∈ n, isNamePart ch = true := by
  intro ch hch
  rw [isNamePart]
  rcases Number.of_mem_readInt? h hch with hpadding | hdecimal | hsign
  · simp [hpadding]
  · simp [hdecimal]
  · simp only [Bool.or_eq_true, List.contains_iff_mem]
    exact .inr hsign

/-- No mark is part of a name, and no question mark. -/
theorem isNamePart_mark : isNamePart '?' = false ∧ marks.any isNamePart = false := by
  decide

theorem ordinary_of_isNamePart {n : Text} (h : ∀ ch ∈ n, isNamePart ch = true) : Ordinary n :=
  ordinary_of_kind isNamePart isNamePart_mark.2 h

/-- The names of characters are ordinary. -/
theorem ordinary_of_code? [Names] {n : Text} {code : Nat} (h : Names.code? n = some code) :
    Ordinary n :=
  ordinary_of_kind isNameChar (by decide) (List.all_eq_true.1 (Names.isNameChar_of_code? h))

namespace Reading

variable {α β : Type} {c d e : Cursor}

/-- Between two cursors stands an ordinary text. -/
def Takes (c d : Cursor) : Prop :=
  ∃ taken, c.rest = taken ++ d.rest ∧ Ordinary taken

theorem takes_of_eq (h : d.rest = c.rest) : Takes c d :=
  ⟨[], h.symm, nofun⟩

/-- Two ordinary texts that are taken one after the other make one. -/
theorem Takes.trans (h : Takes c d) (h' : Takes d e) : Takes c e := by
  obtain ⟨taken, hrest, htaken⟩ := h
  obtain ⟨more, hrest', hmore⟩ := h'
  exact ⟨taken ++ more, by rw [hrest, hrest', List.append_assoc], ordinary_append htaken hmore⟩

/-- Where the reader starts behind an ordinary text, it stops behind an ordinary text. -/
def TakesFrom (c : Cursor) (r : Reading α) : Prop :=
  ∀ ⦃e a d⦄, Takes c e → r.run e = .ok (a, d) → Takes c d

section Parts

variable {r s : Reading α} {f : α → Reading β}

/-- From one cursor it is enough to know it of every run. -/
theorem takesFrom_of_run (h : ∀ ⦃e a d⦄, r.run e = .ok (a, d) → Takes e d) : TakesFrom c r :=
  fun _ _ _ he hrun => he.trans (h hrun)

theorem takesFrom_of_fails (h : Fails r) : TakesFrom c r :=
  fun e a d _ hrun => absurd hrun (h e (a, d))

/-- What stands behind the cursor is the same after a reader that reads nothing. -/
theorem Still.rest_eq (h : Still r) {a : α} (hrun : r.run c = .ok (a, d)) : d.rest = c.rest := by
  have hlost := h c
  rw [hrun] at hlost
  cases hlost with
  | result hrest => exact hrest

theorem Still.takesFrom (h : Still r) : TakesFrom c r :=
  takesFrom_of_run fun _ _ _ hrun => takes_of_eq (h.rest_eq hrun)

theorem takesFrom_pure (a : α) : TakesFrom c (pure a : Reading α) :=
  (still_pure a).takesFrom

/-- Readers that take ordinary text do so one after the other. -/
theorem TakesFrom.bind (h : TakesFrom c r) (hf : ∀ a, TakesFrom c (f a)) :
    TakesFrom c (r >>= f) := by
  intro e b d he hrun
  obtain ⟨a, e', hfirst, hnext⟩ := run_bind_eq_ok.1 hrun
  exact hf a (h he hfirst) hnext

theorem takesFrom_ite {p : Prop} [Decidable p] (hthen : TakesFrom c r) (helse : TakesFrom c s) :
    TakesFrom c (if p then r else s) := by
  split
  · exact hthen
  · exact helse

theorem takesFrom_ite_bind {p : Prop} [Decidable p] (hr : TakesFrom c r) (hs : TakesFrom c s)
    (hf : ∀ a, TakesFrom c (f a)) : TakesFrom c (if p then r >>= f else s >>= f) :=
  takesFrom_ite (hr.bind hf) (hs.bind hf)

theorem TakesFrom.get_bind {f : Cursor → Reading α} (h : ∀ s, TakesFrom c (f s)) :
    TakesFrom c (get >>= f) :=
  fun e _ _ he hrun => h e he hrun

end Parts

/-! ### Characters -/

/-- A character that is no mark is ordinary text when it is accepted. -/
theorem takesFrom_accept {ch : Char} (hch : ch ∉ marks) : TakesFrom c (accept ch) := by
  refine takesFrom_of_run fun c a d hrun => ?_
  rw [← bind_pure (accept ch)] at hrun
  by_cases hl : lexeme? c.rest = some (.plain ch)
  · rw [run_accept_true hl] at hrun
    obtain ⟨-, rfl⟩ := run_pure_eq_ok.1 (of_run_next_some hl hrun).2
    exact ⟨[ch], lexeme?_text hl, by simpa [Ordinary] using hch⟩
  · rw [run_accept_false hl] at hrun
    obtain ⟨-, rfl⟩ := run_pure_eq_ok.1 hrun
    exact takes_of_eq rfl

theorem takesFrom_takeUpTo {kind : Char → Bool} (hkind : marks.any kind = false)
    (n : Nat) : TakesFrom c (takeUpTo kind n) := by
  induction n with
  | zero => exact takesFrom_pure []
  | succ n ih =>
      intro e a d he hrun
      rw [takeUpTo, run_peek_bind] at hrun
      split at hrun
      next ch hl =>
          split at hrun
          next hch =>
              refine TakesFrom.bind ih (fun _ => takesFrom_pure _) (he.trans ?_)
                (of_run_next_some hl hrun).2
              exact ⟨[ch], lexeme?_text hl, ordinary_of_kind _ hkind (by simpa using hch)⟩
          next => exact takesFrom_pure [] he hrun
      next => exact takesFrom_pure [] he hrun

/-- The longest run of one kind of characters is ordinary text if no mark is of this kind. -/
theorem takesFrom_takeAll {kind : Char → Bool} (hkind : marks.any kind = false) :
    TakesFrom c (takeAll kind) :=
  .get_bind fun _ => takesFrom_takeUpTo hkind _

/-- A name stands before its terminator. -/
theorem of_run_takeUntil {terminator : Char} {what : String} {k : Nat} {taken n : Text}
    (hk : c.rest.length < k)
    (h : (takeUntil terminator what k taken).run c = .ok (n, d)) :
    ∃ more, n = taken ++ more ∧ c.rest = more ++ terminator :: d.rest := by
  induction k generalizing c taken with
  | zero => omega
  | succ k ih =>
      rw [takeUntil] at h
      cases hl : lexeme? c.rest with
      | none =>
          rw [run_next_nil (lexeme?_eq_none.1 hl)] at h
          dsimp only at h
          split at h <;> exact absurd h (fails_failBack _ _ _ _)
      | some l =>
          replace h := (of_run_next_some hl h).2
          have htext := lexeme?_text hl
          dsimp only at h
          split at h
          next hterminator =>
              obtain rfl := eq_of_beq hterminator
              split at h
              · exact absurd h (fails_failBack _ _ _ _)
              · obtain ⟨rfl, rfl⟩ := run_pure_eq_ok.1 h
                exact ⟨[], (List.append_nil _).symm, htext⟩
          next =>
              have hlength := congrArg List.length htext
              have hpos : 0 < l.text.length := by cases l <;> exact Nat.succ_pos _
              rw [List.length_append] at hlength
              obtain ⟨more, rfl, hmore⟩ := ih (by dsimp only; omega) h
              refine ⟨l.text ++ more, List.append_assoc _ _ _, ?_⟩
              rw [htext, List.append_assoc]
              exact congrArg (l.text ++ ·) hmore

/-- A name reaches up to its terminator, which is taken with it. -/
theorem of_run_name {terminator : Char} {what : String} {n : Text}
    (h : (name terminator what).run c = .ok (n, d)) : c.rest = n ++ terminator :: d.rest := by
  obtain ⟨more, rfl, hrest⟩ := of_run_takeUntil (Nat.lt_succ_self _) h
  exact hrest

/-- The name of a group reaches up to its terminator and is made of parts of names. -/
theorem of_run_groupName {terminator : Char} {n : Text}
    (h : (groupName terminator).run c = .ok (n, d)) :
    c.rest = n ++ terminator :: d.rest ∧ ∀ ch ∈ n, isNamePart ch = true := by
  obtain ⟨n', e, hname, h⟩ := run_bind_eq_ok.1 h
  split at h
  next hidentifier =>
      obtain ⟨rfl, rfl⟩ := run_pure_eq_ok.1 h
      exact ⟨of_run_name hname, isNamePart_of_isIdentifier hidentifier⟩
  next => exact absurd h (fails_failBack _ _ _ _)

/-- The condition of a conditional group is a name up to the parenthesis that closes it. -/
theorem of_run_condition {number : Nat} (h : condition.run c = .ok (number, d)) :
    ∃ n, c.rest = n ++ ')' :: d.rest ∧ ∀ ch ∈ n, isNamePart ch = true := by
  obtain ⟨n, e, hname, h⟩ := run_bind_eq_ok.1 h
  have hcheck : ∀ group : Nat, Still (checkLookBehind group >>= fun _ => pure group) :=
    fun group => (still_checkLookBehind group).bind fun _ => still_pure _
  have hrefuse : ∀ (problem : Problem) (back : Nat) (f : Nat → Reading Nat),
      Still (failBack problem back >>= f) := fun problem back f =>
    ((refuses_failBack _ _).bind_left _).still
  refine ⟨n, ?_, ?_⟩
  · rw [of_run_name hname]
    refine congrArg (n ++ ')' :: ·) (Still.rest_eq ?_ h).symm
    dsimp only
    split
    · refine .get_bind fun s => ?_
      split
      · exact hcheck _
      · exact hrefuse _ _ _
    · split
      · exact hrefuse _ _ _
      · refine still_ite (hrefuse _ _ _) (still_ite (hrefuse _ _ _) (still_ite (hrefuse _ _ _) ?_))
        refine .get_bind fun _ => (still_modify fun s => ?_).bind fun _ => hcheck _
        split <;> rfl
  · dsimp only at h
    split at h
    next hidentifier => exact isNamePart_of_isIdentifier hidentifier
    next =>
        split at h
        next => exact absurd h (Fails.bind_left (fails_failBack _ _) _ _ _)
        next hread => exact isNamePart_of_readInt? hread

/-! ### Escapes -/

theorem fails_failEscape (problem : Text → Problem) (escape : Text) :
    Fails (failEscape problem escape : Reading α) :=
  fails_failBack _ _

/-- The digits behind `\x`, `\u` and `\U` are ordinary text. -/
theorem takesFrom_hexEscape (start : Text) (count : Nat) :
    TakesFrom c (hexEscape start count) := by
  refine (takesFrom_takeUpTo (by decide) count).bind fun digits => ?_
  refine takesFrom_ite (takesFrom_of_fails (fails_failEscape _ _)) ?_
  refine takesFrom_ite (takesFrom_of_fails (fails_throw _)) ?_
  exact takesFrom_ite (takesFrom_of_fails (fails_failEscape _ _)) (takesFrom_pure _)

theorem takesFrom_octalCode (digits : Text) : TakesFrom c (octalCode digits) :=
  takesFrom_ite (takesFrom_of_fails (fails_failEscape _ _)) (takesFrom_pure _)

theorem takesFrom_plainEscape (ch : Char) : TakesFrom c (plainEscape ch) :=
  takesFrom_ite (takesFrom_of_fails (fails_failEscape _ _)) (takesFrom_pure _)

theorem takesFrom_groupReference (digits : Text) : TakesFrom c (groupReference digits) := by
  rw [groupReference]
  refine .get_bind fun s => ?_
  refine takesFrom_ite ?_ (takesFrom_of_fails (fails_failBack _ _))
  refine .get_bind fun s => ?_
  split
  · exact takesFrom_of_fails (fails_failBack _ _)
  · exact (still_checkLookBehind _).takesFrom.bind fun _ => takesFrom_pure _

/-- An escape that starts with a digit takes nothing but digits, octal or decimal. -/
theorem takesFrom_digitEscape (ch : Char) : TakesFrom c (digitEscape ch) := by
  refine (takesFrom_takeUpTo (by decide) 1).bind fun digits => ?_
  split
  · refine takesFrom_ite ?_ (takesFrom_groupReference _)
    refine (takesFrom_takeUpTo (by decide) 1).bind fun more => ?_
    split
    · exact (takesFrom_octalCode _).bind fun _ => takesFrom_pure _
    · exact takesFrom_groupReference _
  · exact takesFrom_groupReference _

theorem takesFrom_setRange (first last : Lexeme) (low high : SetItem) :
    TakesFrom c (setRange first last low high) := by
  rw [setRange.eq_def]
  dsimp only
  split
  · exact takesFrom_ite (takesFrom_of_fails (fails_failBack _ _)) (takesFrom_pure _)
  · exact takesFrom_of_fails (fails_failBack _ _)

section

variable [Names]

/-- The name of a character stands between braces, and neither they nor the name hold a mark. -/
theorem takesFrom_namedEscape : TakesFrom c namedEscape := by
  refine (takesFrom_accept (by decide)).bind fun opened => ?_
  refine takesFrom_ite ?_ (takesFrom_of_fails (fails_failBack _ _))
  refine takesFrom_of_run fun c code d hrun => ?_
  obtain ⟨n, e, hname, hrun⟩ := run_bind_eq_ok.1 hrun
  split at hrun
  next hcode =>
      obtain ⟨-, rfl⟩ := run_pure_eq_ok.1 hrun
      refine ⟨n ++ [Char.ofNat 125], ?_, ?_⟩
      · rw [of_run_name hname, List.append_assoc, List.singleton_append]
      · exact ordinary_append (ordinary_of_code? hcode) (by decide)
  next => exact absurd hrun (fails_failBack _ _ _ _)

theorem takesFrom_codeEscape? (ch : Char) : TakesFrom c (codeEscape? ch) := by
  have hhex := fun start count =>
    (takesFrom_hexEscape (c := c) start count).bind fun code => takesFrom_pure (some code)
  refine takesFrom_ite (hhex _ _) (takesFrom_ite (hhex _ _) (takesFrom_ite (hhex _ _) ?_))
  refine takesFrom_ite ?_ (takesFrom_pure none)
  exact takesFrom_namedEscape.bind fun code => takesFrom_pure (some code)

theorem takesFrom_setEscape (ch : Char) : TakesFrom c (setEscape ch) := by
  rw [setEscape]
  split
  · exact takesFrom_pure _
  · exact takesFrom_pure _
  · refine (takesFrom_codeEscape? ch).bind fun code => ?_
    split
    · exact takesFrom_pure _
    · refine takesFrom_ite ?_
        (takesFrom_ite (takesFrom_of_fails (fails_failEscape _ _)) ?_)
      · refine (takesFrom_takeUpTo (by decide) 2).bind fun digits => ?_
        exact (takesFrom_octalCode _).bind fun _ => takesFrom_pure _
      · exact (takesFrom_plainEscape ch).bind fun _ => takesFrom_pure _

theorem takesFrom_itemEscape (ch : Char) : TakesFrom c (itemEscape ch) := by
  rw [itemEscape]
  split
  · exact takesFrom_pure _
  · exact takesFrom_pure _
  · exact takesFrom_pure _
  · refine (takesFrom_codeEscape? ch).bind fun code => ?_
    split
    · exact takesFrom_pure _
    · refine takesFrom_ite ?_ (takesFrom_ite (takesFrom_digitEscape ch) ?_)
      · exact (takesFrom_takeUpTo (by decide) 2).bind fun _ => takesFrom_pure _
      · exact (takesFrom_plainEscape ch).bind fun _ => takesFrom_pure _

end

/-! ### Quantifiers -/

/-- A repeat count is compared with its bound, and nothing is read. -/
theorem takesFrom_count (digits : Text) : TakesFrom c (count digits) := by
  rw [count]
  refine takesFrom_ite (takesFrom_of_fails (.bind_left (fails_throw _) _)) ?_
  exact takesFrom_ite (takesFrom_of_fails (.bind_left (fails_throw _) _))
    (takesFrom_pure _)

/-- Braces that hold no bounds are left as they are. -/
theorem takesFrom_braces : TakesFrom c braces := by
  refine takesFrom_of_run fun c a d hrun => ?_
  rw [braces, run_get_bind, run_peek_bind] at hrun
  split at hrun
  · exact takesFrom_pure _ (takes_of_eq rfl) hrun
  rw [run_here_bind] at hrun
  refine TakesFrom.bind (takesFrom_takeAll (by decide)) (fun low => ?_) (takes_of_eq rfl) hrun
  refine (takesFrom_accept (by decide)).bind fun comma => ?_
  refine takesFrom_ite_bind (takesFrom_takeAll (by decide)) (takesFrom_pure low) fun high => ?_
  refine (takesFrom_accept (by decide)).bind fun closed => takesFrom_ite ?_ ?_
  · refine takesFrom_ite_bind (takesFrom_pure 0) (takesFrom_count low) fun min => ?_
    refine takesFrom_ite_bind (takesFrom_pure none)
      ((takesFrom_count high).bind fun _ => takesFrom_pure _) fun max => ?_
    dsimp only
    split
    · exact takesFrom_ite (takesFrom_of_fails (fails_failAt _ _)) (takesFrom_pure _)
    · exact takesFrom_pure _
  · rintro e a d - hrun
    obtain ⟨u, e', hmove, hrun⟩ := run_bind_eq_ok.1 hrun
    obtain ⟨-, rfl⟩ := run_pure_eq_ok.1 hrun
    obtain ⟨-, rfl⟩ := of_run_moveTo hmove
    exact takes_of_eq rfl

/-- Whatever the bounds of a repetition are, they are written in ordinary text. -/
theorem takesFrom_bounds (ch : Char) : TakesFrom c (bounds ch) :=
  takesFrom_ite (takesFrom_pure _) (takesFrom_ite (takesFrom_pure _)
    (takesFrom_ite (takesFrom_pure _) takesFrom_braces))

theorem takesFrom_greed : TakesFrom c greed := by
  refine (takesFrom_accept (by decide)).bind fun _ => ?_
  refine takesFrom_ite (takesFrom_pure _) ?_
  refine (takesFrom_accept (by decide)).bind fun _ => ?_
  exact takesFrom_ite (takesFrom_pure _) (takesFrom_pure _)

/-- A repetition of the last item is made without reading on. -/
theorem takesFrom_repeatLast (min : Nat) (max : Option Nat) (position : Nat)
    (items : List Item) : TakesFrom c (repeatLast min max position items) := by
  rw [repeatLast.eq_def]
  split
  · exact takesFrom_of_fails (fails_failAt _ _)
  · exact takesFrom_of_fails (fails_failAt _ _)
  · exact takesFrom_of_fails (fails_failAt _ _)
  · exact takesFrom_greed.bind fun _ => takesFrom_pure _

end Reading

end Pattern

end UtilityCss

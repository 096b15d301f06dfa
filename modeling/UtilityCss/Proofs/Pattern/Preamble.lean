import UtilityCss.Proofs.Pattern.Late
import UtilityCss.Proofs.Pattern.Outside

/-!
# Patterns — what stands before the first item

Before its first item a pattern may have comments and, where they are allowed, blanks and comments
to the end of a line.  Flags for the whole pattern stand there as well, and nowhere else.  Whether
they do can be seen from the text (`setsFlags`).

* `run_sequence_first`: a sequence that sets no flags there (`Unflagged`) is read the same at the
  start of a pattern and inside of a group.
* `refused_sequence`: a sequence that does is refused inside of a group, whatever stands behind it.

So the start of a pattern only matters to those that set flags behind the ones that are taken off it
(`hasLateFlags`).
-/

namespace UtilityCss.Pattern

/-! ### Comments and flags, on the text -/

/-- The text opens with flags in parentheses. -/
def opensFlags : Text → Bool
  | '(' :: '?' :: inner =>
    inner.head?.any isFlagLetter && (inner.dropWhile isFlagLetter).head? == some ')'
  | _ => false

/-- What stands behind a comment that a character ends, if the text starts inside of it.  A
backslash takes the next character. -/
def pastComment (stop : Char) : Text → Text
  | [] => []
  | '\\' :: _ :: rest => pastComment stop rest
  | c :: rest => if c == stop then rest else pastComment stop rest

/-- Flags stand in a text before any item: only comments come before them, and in verbose mode
blanks.  With a character, the text starts inside of a comment that the character ends. -/
def setsFlags (verbose : Bool) (inside : Option Char) (t : Text) : Bool :=
  match inside, t with
  | _, [] => false
  | none, '(' :: '?' :: '#' :: rest => setsFlags verbose (some ')') rest
  | none, c :: rest =>
    if verbose && Reading.isSkipped c then setsFlags verbose none rest
    else if verbose && c == '#' then setsFlags verbose (some '\n') rest
    else opensFlags (c :: rest)
  | some stop, '\\' :: _ :: rest => setsFlags verbose (some stop) rest
  | some stop, c :: rest => setsFlags verbose (if c == stop then none else some stop) rest

/-- A pattern sets flags behind those at its start. -/
def hasLateFlags (source : Text) : Bool :=
  setsFlags ((splitHead source).1.contains 'x') none (splitHead source).2

section

variable {v : Bool} {stop : Char} {t more : Text}

theorem length_pastComment_le (stop : Char) (t : Text) :
    (pastComment stop t).length ≤ t.length := by
  fun_induction pastComment stop t with
  | case1 => exact Nat.le_refl _
  | case2 c rest ih => simp only [List.length_cons]; omega
  | case3 => simp
  | case4 c rest _ _ ih => simp only [List.length_cons]; omega

theorem pastComment_cons {c : Char} (hc : c ≠ '\\' ∨ t = []) (stop : Char) :
    pastComment stop (c :: t) = if c == stop then t else pastComment stop t := by
  rw [pastComment]
  rintro d rest rfl rfl
  rcases hc with hc | hc
  · exact hc rfl
  · cases hc

/-- A comment goes on behind a lexeme that does not end it. -/
theorem pastComment_lexeme {l : Lexeme} (hl : lexeme? t = some l) (stop : Char) :
    pastComment stop t = if l == .plain stop then t.drop l.text.length
      else pastComment stop (t.drop l.text.length) := by
  rw [lexeme?.eq_def] at hl
  split at hl
  · cases hl
  · cases hl
    rfl
  next c rest hother =>
      cases hl
      have hstop : (Lexeme.plain c == .plain stop) = (c == stop) := by
        rw [Bool.eq_iff_iff]
        simp
      rw [pastComment, hstop]
      · rfl
      · exact hother

/-- A comment that ends in a text ends there, whatever stands behind the text. -/
theorem pastComment_append (h : pastComment stop t ≠ []) (more : Text) :
    pastComment stop (t ++ more) = pastComment stop t ++ more := by
  fun_induction pastComment stop t with
  | case1 => exact absurd rfl h
  | case2 c rest ih => exact ih h
  | case3 c rest hother hstop =>
      have hc : c ≠ '\\' := by
        rintro rfl
        obtain ⟨d, rest, rfl⟩ := List.exists_cons_of_ne_nil h
        exact hother d rest rfl rfl
      rw [List.cons_append, pastComment_cons (.inl hc), if_pos hstop]
  | case4 c rest hother hstop ih =>
      have hc : c ≠ '\\' := by
        rintro rfl
        cases rest with
        | nil => exact h rfl
        | cons d rest => exact hother d rest rfl rfl
      rw [List.cons_append, pastComment_cons (.inl hc), if_neg hstop, ih h]

theorem setsFlags_some (v : Bool) (stop : Char) (t : Text) :
    setsFlags v (some stop) t = setsFlags v none (pastComment stop t) := by
  fun_induction pastComment stop t with
  | case1 => rfl
  | case2 c rest ih => exact ih
  | case3 c rest hother hstop =>
      rw [setsFlags, if_pos hstop]
      exact hother
  | case4 c rest hother hstop ih =>
      rw [setsFlags, if_neg hstop, ih]
      exact hother

/-- A comment in parentheses stands before what is behind it. -/
theorem setsFlags_comment (v : Bool) (t : Text) :
    setsFlags v none ('(' :: '?' :: '#' :: t) = setsFlags v none (pastComment ')' t) :=
  setsFlags_some v ')' t

theorem setsFlags_blank {c : Char} (hv : v = true) (hc : Reading.isSkipped c = true) (t : Text) :
    setsFlags v none (c :: t) = setsFlags v none t := by
  have hopen : c ≠ '(' := by
    rintro rfl
    cases hc
  rw [setsFlags, if_pos (by rw [hv, hc]; rfl)]
  rintro rest rfl
  exact absurd rfl hopen

/-- A comment to the end of the line stands before what is behind it. -/
theorem setsFlags_line (hv : v = true) (t : Text) :
    setsFlags v none ('#' :: t) = setsFlags v none (pastComment '\n' t) := by
  subst hv
  exact setsFlags_some true '\n' t

theorem opensFlags_iff :
    opensFlags t = true ↔ ∃ x xs tail, t = '(' :: '?' :: x :: xs ++ ')' :: tail ∧
      ∀ y ∈ x :: xs, isFlagLetter y = true := by
  constructor
  · intro h
    rw [opensFlags.eq_def] at h
    split at h
    next inner =>
        rw [Bool.and_eq_true, beq_iff_eq, List.head?_eq_some_iff] at h
        obtain ⟨hfirst, tail, htail⟩ := h
        have hinner := List.takeWhile_append_dropWhile (p := isFlagLetter) (l := inner)
        rw [htail] at hinner
        cases hletters : inner.takeWhile isFlagLetter with
        | nil =>
            rw [hletters, List.nil_append] at hinner
            rw [← hinner] at hfirst
            cases hfirst
        | cons x xs =>
            rw [hletters] at hinner
            refine ⟨x, xs, tail, by rw [← hinner]; rfl, ?_⟩
            rw [← hletters]
            exact List.all_eq_true.1 List.all_takeWhile
    next => cases h
  · rintro ⟨x, xs, tail, rfl, hletters⟩
    obtain ⟨-, hdrop⟩ :=
      Reading.span_flagLetters hletters (by decide : isFlagLetter ')' = false) tail
    rw [List.cons_append, List.cons_append, opensFlags, hdrop]
    simp [hletters x List.mem_cons_self]

theorem setsFlags_of_opensFlags (h : opensFlags t = true) (v : Bool) :
    setsFlags v none t = true := by
  obtain ⟨x, xs, tail, rfl, hletters⟩ := opensFlags_iff.1 h
  have hx := hletters x List.mem_cons_self
  rw [List.cons_append, List.cons_append, List.cons_append, setsFlags,
    if_neg (by cases v <;> decide), if_neg (by cases v <;> decide)]
  · exact h
  · rintro rest - heq
    obtain rfl : x = '#' := (List.cons.inj (List.cons.inj heq).2).1
    exact absurd hx (by decide)

/-- What a text opens with that sets flags before its first item. -/
theorem setsFlags_cases (h : setsFlags v none t = true) :
    opensFlags t = true ∨
      (v = true ∧ ∃ c tail, t = c :: tail ∧ Reading.isSkipped c = true ∧
        setsFlags v none tail = true) ∨
      (v = true ∧ ∃ tail, t = '#' :: tail ∧ setsFlags v none (pastComment '\n' tail) = true) ∨
        ∃ tail, t = '(' :: '?' :: '#' :: tail ∧ setsFlags v none (pastComment ')' tail) = true := by
  rw [setsFlags.eq_def] at h
  split at h
  · cases h
  next tail _ => exact .inr (.inr (.inr ⟨tail, rfl, setsFlags_some v ')' tail ▸ h⟩))
  next c tail _ _ =>
      split at h
      next hblank =>
          rw [Bool.and_eq_true] at hblank
          exact .inr (.inl ⟨hblank.1, c, tail, rfl, hblank.2, h⟩)
      next =>
          split at h
          next hline =>
              rw [Bool.and_eq_true, beq_iff_eq] at hline
              obtain ⟨hv, rfl⟩ := hline
              exact .inr (.inr (.inl ⟨hv, tail, rfl, setsFlags_some v '\n' tail ▸ h⟩))
          next => exact .inl h
  all_goals contradiction

end

namespace Reading

variable {α : Type} {E : α → Cursor → Prop} {k : Nat} {v : Bool} {c d : Cursor} {items : List Item}
  {t more : Text}

/-! ### Comments, as they are read -/

/-- A lexeme is taken, or nothing is left, or a backslash stands on its own. -/
theorem lost_next_bind {f : Option Lexeme → Reading α}
    (hnil : c.rest = [] → Lost E ((f none).run c))
    (hsome : ∀ l, lexeme? c.rest = some l → Lost E ((f (some l)).run (c.skip l.text.length))) :
    Lost E ((next >>= f).run c) := by
  cases hl : lexeme? c.rest with
  | none =>
      rw [run_next_nil (lexeme?_eq_none.1 hl)]
      exact hnil (lexeme?_eq_none.1 hl)
  | some l =>
      by_cases hwhole : c.rest.drop l.text.length = ['\\']
      · rw [run_next_dangling hl hwhole]
        exact .refused (Fault.malformed_malformed _ _)
      · rw [run_next_some hl hwhole]
        exact hsome l hl

/-- To move behind a part of a pattern, unless that leaves a backslash on its own. -/
theorem lost_moveTo_bind {f : Unit → Reading α} (h : Lost E ((f ()).run { c with rest := t })) :
    Lost E ((moveTo t >>= f).run c) := by
  by_cases hwhole : t = ['\\']
  · subst hwhole
    exact .refused (Fault.malformed_malformed _ _)
  · rwa [run_bind_ok (run_moveTo hwhole)]

/-- A comment to the end of the line is skipped. -/
theorem lost_skipLine (hk : c.rest.length < k) :
    Lost (fun _ d => d.rest = pastComment '\n' c.rest) ((skipLine k).run c) := by
  induction k generalizing c with
  | zero => omega
  | succ k ih =>
      rw [skipLine]
      refine lost_next_bind (fun hnil => ?_) fun l hl => ?_
      · exact lost_pure (by rw [hnil]; rfl)
      · have hlength := length_skip_lt hl
        rw [pastComment_lexeme hl]
        dsimp only
        split
        · exact lost_pure rfl
        · exact ih (c := c.skip l.text.length) (by omega)

/-- A comment in parentheses is skipped, if it is closed. -/
theorem lost_skipComment_past (opening : Nat) (hk : c.rest.length < k) :
    Lost (fun _ d => d.rest = pastComment ')' c.rest) ((skipComment opening k).run c) := by
  induction k generalizing c with
  | zero => omega
  | succ k ih =>
      rw [skipComment]
      refine lost_next_bind (fun _ => (refuses_failAt _ _).lost) fun l hl => ?_
      have hlength := length_skip_lt hl
      rw [pastComment_lexeme hl]
      dsimp only
      split
      · exact lost_pure rfl
      · exact ih (c := c.skip l.text.length) (by omega)

/-! ### Texts without flags before the first item -/

/-- If no item has been read, no flags stand before the first one, and the fuel `k` is enough for
what stands there. -/
def Unflagged (k : Nat) (v : Bool) (items : List Item) (t : Text) : Prop :=
  items = [] → setsFlags v none t = false ∧ t.length + 2 ≤ k

/-- A blank of verbose mode is taken off. -/
theorem Unflagged.blank {ch : Char} (h : Unflagged (k + 1) v items (ch :: t)) (hv : v = true)
    (hch : isSkipped ch = true) : Unflagged k v items t := by
  intro hnil
  obtain ⟨hflags, hk⟩ := h hnil
  rw [setsFlags_blank hv hch] at hflags
  rw [List.length_cons] at hk
  exact ⟨hflags, by omega⟩

/-- A comment to the end of the line is taken off. -/
theorem Unflagged.line (h : Unflagged (k + 1) v items ('#' :: t)) (hv : v = true) :
    Unflagged k v items (pastComment '\n' t) := by
  intro hnil
  obtain ⟨hflags, hk⟩ := h hnil
  have hshort := length_pastComment_le '\n' t
  rw [setsFlags_line hv] at hflags
  rw [List.length_cons] at hk
  exact ⟨hflags, by omega⟩

/-! ### Groups without an item, as they are read -/

variable [Names]

theorem yields_namedGroup (v : Bool) (opening : Nat) :
    Yields (∃ item, · = .item item) (namedGroup (k + 1) v opening) := by
  refine .bind fun _ => yields_ite (.bind fun _ => yields_capture _ _ _)
    (.bind fun _ => yields_ite (.bind fun _ => yields_pure ⟨_, rfl⟩) (.bind fun l => ?_))
  cases l <;> exact yields_of_fails (fails_failBack _ _)

theorem yields_lookBehindGroup (k : Nat) (v : Bool) (opening : Nat) (negated : Bool) :
    Yields (∃ item, · = .item item) (lookBehindGroup k v opening negated) :=
  .bind fun _ => .bind fun _ => .bind fun _ => .bind fun _ => .bind fun _ => .bind fun _ =>
    yields_pure ⟨_, rfl⟩

theorem yields_branches (k : Nat) (v : Bool) (opening number : Nat) :
    Yields (∃ item, · = .item item) (branches k v opening number) :=
  .bind fun _ => .bind fun _ => yields_ite
    (.bind fun _ => .bind fun _ => yields_ite
      (yields_of_fails (.bind_left (fails_failBack _ _) _))
      (.bind fun _ => yields_pure ⟨_, rfl⟩))
    (.bind fun _ => yields_pure ⟨_, rfl⟩)

/-- What a group turns out to be: an item, a comment, or flags for the whole pattern. -/
theorem of_run_group {opening : Nat} {outcome : Outcome}
    (h : (group (k + 2) v opening).run c = .ok (outcome, d)) :
    (∃ item, outcome = .item item) ∨
      (outcome = .nothing ∧ ∃ tail, c.rest = '?' :: '#' :: tail ∧ d.rest = pastComment ')' tail) ∨
        outcome = .flags ∧ opensFlags ('(' :: c.rest) = true := by
  cases of_run_group_succ h with
  | capture _ hrun => exact .inl (yields_capture v opening none hrun)
  | named _ hrun => exact .inl (yields_namedGroup v opening hrun)
  | body => exact .inl ⟨_, rfl⟩
  | @comment _ e hrest hrun =>
      have hskip := lost_skipComment_past opening (Nat.lt_succ_self e.rest.length)
      rw [hrun] at hskip
      exact .inr (.inl ⟨rfl, _, hrest, hskip.of_ok⟩)
  | lookBehind _ _ _ hrun => exact .inl (yields_lookBehindGroup _ v opening _ hrun)
  | conditional _ _ hrun => exact .inl (yields_branches _ v opening _ hrun)
  | @whole ch _ e hch hrest hscope =>
      rw [flagScope_eq, run_get_bind] at hscope
      obtain ⟨⟨added, stop⟩, e', hplus, hscope⟩ := run_bind_eq_ok.1 hscope
      obtain ⟨-, letters, hletters, hall, -⟩ := of_run_plusFlags hch (Nat.lt_succ_self _) hplus
      obtain rfl : stop = ')' := by
        by_contra hne
        exact yields_scopeOf hne _ hscope rfl
      cases letters with
      | nil =>
          obtain rfl := (List.cons.inj hletters).1
          rcases hch with hch | hch <;> cases hch
      | cons x xs =>
          refine .inr (.inr ⟨rfl, opensFlags_iff.2 ⟨x, xs, e'.rest, ?_, hall⟩⟩)
          rw [hrest, hletters]
          rfl
  | inside => exact .inl ⟨_, rfl⟩

/-- A group that turns out to be nothing is a comment. -/
theorem of_run_group_nothing {opening : Nat}
    (h : (group (k + 2) v opening).run c = .ok (.nothing, d)) :
    ∃ tail, c.rest = '?' :: '#' :: tail ∧ d.rest = pastComment ')' tail := by
  rcases of_run_group h with ⟨item, hitem⟩ | ⟨-, hcomment⟩ | ⟨hflags, -⟩
  · cases hitem
  · exact hcomment
  · cases hflags

/-- A comment in parentheses turns out to be nothing, if it is closed. -/
theorem lost_group_comment (hrest : c.rest = '?' :: '#' :: t) (k : Nat) (v : Bool)
    (opening : Nat) :
    Lost (fun a d => a = .nothing ∧ d.rest = pastComment ')' t)
      ((group (k + 1) v opening).run c) := by
  rw [group, run_accept_plain (by decide) hrest (by simp), if_neg (by decide)]
  refine lost_next_bind (fun hnil => absurd hnil (List.cons_ne_nil _ _)) fun l hl => ?_
  obtain rfl : .plain '#' = l := Option.some.inj hl
  dsimp only
  rw [if_neg (by decide), if_neg (by decide), if_pos (by decide), run_get_bind]
  refine (lost_skipComment_past opening (Nat.lt_succ_self _)).bind fun _ d hd => ?_
  exact lost_pure ⟨rfl, hd⟩

/-! ### Sequences -/

/-- A group that turns out to be nothing is taken off, since it is a comment. -/
theorem Unflagged.of_run_group_nothing {opening : Nat}
    (h : Unflagged (k + 1) v items ('(' :: c.rest))
    (hgroup : (group k v opening).run c = .ok (.nothing, d)) : Unflagged k v items d.rest := by
  intro hnil
  obtain ⟨hflags, hk⟩ := h hnil
  obtain ⟨k, rfl⟩ : ∃ m, k = m + 2 := ⟨k - 2, by simp at hk; omega⟩
  obtain ⟨tail, htail, hd⟩ := Reading.of_run_group_nothing hgroup
  have hshort := length_pastComment_le ')' tail
  rw [htail, setsFlags_comment, ← hd] at hflags
  rw [htail, List.length_cons, List.length_cons, List.length_cons] at hk
  exact ⟨hflags, by rw [hd]; omega⟩

/-- A group that turns out to set flags is behind an item. -/
theorem Unflagged.of_run_group_flags {opening : Nat}
    (h : Unflagged (k + 1) v items ('(' :: c.rest))
    (hgroup : (group k v opening).run c = .ok (.flags, d)) : items ≠ [] := by
  intro hnil
  obtain ⟨hflags, hk⟩ := h hnil
  obtain ⟨k, rfl⟩ : ∃ m, k = m + 2 := ⟨k - 2, by simp at hk; omega⟩
  rcases of_run_group hgroup with ⟨item, heq⟩ | ⟨heq, -⟩ | ⟨-, hopens⟩
  · cases heq
  · cases heq
  · rw [setsFlags_of_opensFlags hopens] at hflags
    cases hflags

/-- **Without flags before the first item** a sequence is read the same at the start of a pattern
and elsewhere. -/
theorem run_sequence_first (h : Unflagged k v items c.rest) :
    (sequence k v true items).run c = (sequence k v false items).run c := by
  induction k generalizing c items with
  | zero => rfl
  | succ k ih =>
      have hmore : ∀ (e : Cursor) (item : Item), (sequence k v true (item :: items)).run e =
          (sequence k v false (item :: items)).run e := fun _ _ => ih nofun
      rw [sequence, sequence, run_peek_bind, run_peek_bind]
      cases hl : lexeme? c.rest with
      | none => rfl
      | some l =>
          cases l with
          | escaped ch =>
              exact run_bind_congr_ok fun _ _ _ => run_bind_congr_ok fun item e _ => hmore e item
          | plain ch =>
              dsimp only
              refine run_ite_congr (fun _ => rfl) fun _ => ?_
              rw [run_here_bind, run_here_bind]
              by_cases hwhole : c.rest.drop 1 = ['\\']
              · rw [run_next_dangling hl hwhole, run_next_dangling hl hwhole]
              have hrest : c.rest = ch :: (c.skip 1).rest := lexeme?_text hl
              rw [hrest] at h
              rw [run_next_some hl hwhole, run_next_some hl hwhole]
              change StateT.run _ (c.skip 1) = StateT.run _ (c.skip 1)
              refine run_ite_congr (fun hblank => ?_) fun _ => run_ite_congr (fun hline => ?_)
                fun _ => run_ite_congr (fun _ => hmore _ _) fun _ =>
                run_ite_congr (fun _ => hmore _ _) fun _ => run_ite_congr (fun _ => hmore _ _)
                fun _ => run_ite_congr (fun _ => run_bind_congr_ok fun item e _ => hmore e item)
                fun _ => run_ite_congr (fun _ => run_bind_congr_ok fun counts e _ => ?_)
                fun _ => run_ite_congr (fun hopen => run_bind_congr_ok fun outcome e hgroup => ?_)
                fun _ => hmore _ _
              · -- a blank
                rw [Bool.and_eq_true] at hblank
                exact ih (h.blank hblank.1 hblank.2)
              · -- a comment to the end of the line
                rw [run_get_bind, run_get_bind]
                rw [Bool.and_eq_true, beq_iff_eq] at hline
                obtain ⟨hv, rfl⟩ := hline
                refine run_bind_congr_ok fun u e hskip => ih ?_
                have hpast := lost_skipLine (Nat.lt_succ_self (c.skip 1).rest.length)
                rw [hskip] at hpast
                rw [hpast.of_ok]
                exact h.line hv
              · -- a quantifier, which repeats an item
                cases counts with
                | none => exact hmore _ _
                | some counts =>
                    refine run_bind_congr_ok fun items' e' hrepeat => ih fun hnil => ?_
                    obtain ⟨greed, item, rest, -, -, rfl⟩ := of_run_repeatLast hrepeat
                    cases hnil
              · -- a group, which sets no flags before the first item
                obtain rfl : ch = '(' := eq_of_beq hopen
                cases outcome with
                | item item => exact hmore _ _
                | nothing => exact ih (h.of_run_group_nothing hgroup)
                | flags =>
                    have hitems : items.isEmpty = false := by
                      simpa using h.of_run_group_flags hgroup
                    dsimp only
                    rw [hitems]
                    rfl

/-- A blank is skipped in verbose mode. -/
theorem run_sequence_blank {ch : Char} (hch : isSkipped ch = true) {tail : Text}
    (hrest : c.rest = ch :: tail) (k : Nat) (first : Bool) (items : List Item) :
    (sequence (k + 1) true first items).run c =
      (moveTo tail >>= fun _ => sequence k true first items).run c := by
  have hne : ∀ {x : Char}, isSkipped x = false → ch ≠ x := by
    rintro x hx rfl
    rw [hx] at hch
    cases hch
  have hstop : ¬ (ch == '|' || ch == ')') = true := by
    rw [Bool.or_eq_true, beq_iff_eq, beq_iff_eq]
    exact fun h => h.elim (hne rfl) (hne rfl)
  rw [sequence, run_peek_plain (hne rfl) hrest]
  dsimp only
  rw [if_neg hstop, run_here_bind, run_next_moveTo (hne rfl) hrest, if_pos (by rw [hch]; rfl)]

/-- A comment to the end of the line is skipped in verbose mode. -/
theorem run_sequence_line {tail : Text} (hrest : c.rest = '#' :: tail) (k : Nat) (first : Bool)
    (items : List Item) :
    (sequence (k + 1) true first items).run c =
      (moveTo tail >>= fun _ => get >>= fun s => skipLine (s.rest.length + 1) >>= fun _ =>
        sequence k true first items).run c := by
  rw [sequence, run_peek_plain (by decide) hrest]
  dsimp only
  rw [if_neg (by decide), run_here_bind, run_next_moveTo (by decide) hrest, if_neg (by decide),
    if_pos (by decide)]

/-- Flags for the whole pattern come too late. -/
theorem refused_sequence_flags (hopens : opensFlags t = true) (hrest : c.rest = t ++ more)
    (hk : 2 ≤ k) : Refused ((sequence k v false items).run c) := by
  obtain ⟨x, xs, tail, rfl, hletters⟩ := opensFlags_iff.1 hopens
  obtain ⟨hx, hxs⟩ := List.forall_mem_cons.1 hletters
  obtain ⟨k, rfl⟩ : ∃ m, k = m + 2 := ⟨k - 2, by omega⟩
  have hrest' : c.rest = '(' :: ('?' :: x :: xs ++ ')' :: (tail ++ more)) := by
    rw [hrest, List.append_assoc]
    rfl
  obtain ⟨position, hopen⟩ := run_sequence_open hrest' (k + 1) v false items
  obtain ⟨f, hf, hgroup⟩ := run_group_letters (c := { c with rest := _ }) hx rfl k v position
  rw [hopen, run_bind_ok (run_moveTo (by nofun)), run_bind_congr hgroup]
  rcases flagScope_letters hx hxs with hrefused | ⟨-, hscope⟩
  · exact (hrefused _ (tail ++ more) rfl).bind.bind
  rw [run_bind_congr (run_bind_congr (hscope _ (tail ++ more) rfl) f)]
  rw [takeHead, bind_assoc, bind_assoc, bind_assoc]
  refine lost_moveTo_bind ?_
  simp only [pure_bind, hf]
  exact .refused (Fault.malformed_malformed _ _)

/-- **Flags before the first item** come too late for a sequence that is not at the start of a
pattern. -/
theorem refused_sequence (h : setsFlags v none t = true) (hrest : c.rest = t ++ more)
    (hk : t.length + 2 ≤ k) : Refused ((sequence k v false items).run c) := by
  induction k generalizing t c with
  | zero => omega
  | succ k ih =>
      -- where a comment ends in the text, the text goes on behind it
      have hbehind : ∀ {stop : Char} {tail : Text} {e : Cursor},
          setsFlags v none (pastComment stop tail) = true → tail.length + 2 ≤ k →
          e.rest = pastComment stop (tail ++ more) →
          Refused ((sequence k v false items).run e) := by
        intro stop tail e hflags hlength he
        have hne : pastComment stop tail ≠ [] := by
          intro hnil
          rw [hnil] at hflags
          cases hflags
        have hshort := length_pastComment_le stop tail
        exact ih hflags (he.trans (pastComment_append hne more)) (by omega)
      rcases setsFlags_cases h with hopens | ⟨hv, ch, tail, rfl, hch, htail⟩ |
        ⟨hv, tail, rfl, htail⟩ | ⟨tail, rfl, htail⟩
      · exact refused_sequence_flags hopens hrest (by omega)
      · subst hv
        rw [List.cons_append] at hrest
        rw [run_sequence_blank hch hrest]
        exact lost_moveTo_bind (ih htail rfl (by simpa using hk))
      · subst hv
        rw [List.cons_append] at hrest
        rw [run_sequence_line hrest]
        refine lost_moveTo_bind ?_
        rw [run_get_bind]
        refine (lost_skipLine (Nat.lt_succ_self _)).bind fun _ e he => ?_
        exact hbehind htail (by simpa using hk) he
      · rw [List.cons_append, List.cons_append, List.cons_append] at hrest
        obtain ⟨position, hopen⟩ := run_sequence_open hrest k v false items
        obtain ⟨k, rfl⟩ := Nat.exists_eq_add_one.2 (show 0 < k by simp at hk; omega)
        rw [hopen, run_bind_ok (run_moveTo (by simp))]
        refine (lost_group_comment rfl k v position).bind fun outcome e he => ?_
        obtain ⟨rfl, he⟩ := he
        exact hbehind htail (by simp at hk; omega) he

end Reading

end UtilityCss.Pattern

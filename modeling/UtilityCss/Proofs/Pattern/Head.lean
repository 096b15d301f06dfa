import UtilityCss.Pattern.Anchor
import UtilityCss.Proofs.Pattern.Groups

/-!
# Patterns — the flags at the start

A pattern may start with flags in parentheses, and `splitHead` takes them off, since they stay in
front of the anchors.  `Head` relates what it takes off to the flags that are set.

**The flags at the start** (`sequence_head`, `choice_head`).  They are refused before any
pattern, or to read a pattern is to read what stands behind them, with these flags added to those in
force.
-/

namespace UtilityCss.Pattern

theorem ne_of_isFlagLetter {c d : Char} (hc : isFlagLetter c) (hd : isFlagLetter d = false) :
    c ≠ d := by
  rintro rfl
  rw [hc] at hd
  cases hd

theorem isHeadLetter_iff {c : Char} : isHeadLetter c ↔ c ∈ ['a', 'i', 'L', 'm', 's', 'u', 'x'] := by
  simp [isHeadLetter, or_assoc]

theorem isFlagLetter_of_isHeadLetter {c : Char} (hc : isHeadLetter c) : isFlagLetter c :=
  have hall : ['a', 'i', 'L', 'm', 's', 'u', 'x'].all isFlagLetter := rfl
  List.all_eq_true.1 hall c (isHeadLetter_iff.1 hc)

/-- The set of flags with that of a letter. -/
def Flags.addLetter (f : Flags) (c : Char) : Flags :=
  match Flag.ofLetter? c with
  | some flag => f.add flag
  | none => f

theorem Flags.addLetter_eq {f : Flags} {c : Char} {flag : Flag} (h : Flag.ofLetter? c = some flag) :
    f.addLetter c = f.add flag := by
  rw [addLetter, h]

theorem Flags.verbose_addLetter {f : Flags} {c : Char} (hc : isHeadLetter c) :
    (f.addLetter c).verbose = (f.verbose || c == 'x') := by
  have hall : ∀ c ∈ ['a', 'i', 'L', 'm', 's', 'u', 'x'], ∀ f : Flags,
      (f.addLetter c).verbose = (f.verbose || c == 'x') := by
    simp [addLetter, Flag.ofLetter?, add]
  exact hall c (isHeadLetter_iff.1 hc) f

theorem Flags.verbose_foldl {cs : Text} (hcs : ∀ c ∈ cs, isHeadLetter c) (f : Flags) :
    (cs.foldl addLetter f).verbose = (f.verbose || cs.contains 'x') := by
  induction cs generalizing f with
  | nil => simp
  | cons c cs ih =>
      rw [List.foldl_cons, ih fun d hd => hcs d (List.mem_cons_of_mem c hd),
        verbose_addLetter (hcs c List.mem_cons_self), List.contains_cons, Bool.or_assoc,
        Bool.beq_comm]

theorem Flags.union_empty (f : Flags) : f.union {} = f := by
  cases f
  simp [union]

/-- Two flags that exclude each other are set. -/
def Flags.mixed (f : Flags) : Bool :=
  f.ascii && f.unicode

/-- A flag does not exclude another one, unless it chooses an alphabet. -/
theorem Flags.mixed_add {f : Flags} (hf : f.mixed = false) {flag : Flag}
    (h : (flag.isMode && (f.add flag).ascii && (f.add flag).unicode) = false) :
    (f.add flag).mixed = false := by
  cases flag <;> first | exact hf | exact h

/-- What stands at the start of a pattern, and the flags that it sets: none, or some letters in
parentheses. -/
inductive Head : Text → Flags → Prop
  | none : Head [] {}
  | letters {c : Char} {cs : Text} (hc : isHeadLetter c) (hcs : ∀ d ∈ cs, isHeadLetter d) :
      Head ('(' :: '?' :: c :: cs ++ [')']) ((c :: cs).foldl Flags.addLetter {})

/-- What is taken off the start of a pattern. -/
theorem splitHead_spec (source : Text) :
    ∃ added, Head (splitHead source).1 added ∧
      source = (splitHead source).1 ++ (splitHead source).2 := by
  rw [splitHead.eq_def]
  split
  next inner =>
      dsimp only
      split
      next body hbody =>
          cases hletters : inner.takeWhile isHeadLetter with
          | nil => exact ⟨{}, .none, rfl⟩
          | cons c cs =>
              have hall : ∀ d ∈ c :: cs, isHeadLetter d := by
                rw [← hletters]
                exact List.all_eq_true.1 List.all_takeWhile
              refine ⟨_, .letters (hall c List.mem_cons_self)
                fun d hd => hall d (List.mem_cons_of_mem c hd), ?_⟩
              have hinner := List.takeWhile_append_dropWhile (p := isHeadLetter) (l := inner)
              rw [hletters, hbody] at hinner
              simp [← hinner]
      next => exact ⟨{}, .none, rfl⟩
  next => exact ⟨{}, .none, rfl⟩

theorem Head.verbose {head : Text} {added : Flags} (h : Head head added) :
    added.verbose = head.contains 'x' := by
  cases h with
  | none => rfl
  | @letters c cs hc hcs =>
      rw [Flags.verbose_foldl (List.forall_mem_cons.2 ⟨hc, hcs⟩), Bool.false_or]
      simp

namespace Reading

variable {k : Nat} {v : Bool} {c d : Cursor} {tail : Text}

/-! ### Letters -/

/-- One more letter is refused wherever it stands, or the flags go on with the next one. -/
theorem addedFlags_step (flag : Flag) (flags : Flags) :
    (∀ k c, Refused ((addedFlags (k + 1) flag flags).run c)) ∨
      (flags.mixed = false → (flags.add flag).mixed = false) ∧
        (∀ k c tail, c.rest = ')' :: tail → (addedFlags (k + 1) flag flags).run c =
          (moveTo tail >>= fun _ => pure (flags.add flag, ')')).run c) ∧
        ∀ k c y other tail, isFlagLetter y → Flag.ofLetter? y = some other →
          c.rest = y :: tail → tail ≠ ['\\'] → (addedFlags (k + 1) flag flags).run c =
            (addedFlags k other (flags.add flag)).run { c with rest := tail } := by
  by_cases hlocale : (flag == .locale) = true
  · refine .inl fun k c => ?_
    rw [addedFlags, if_pos hlocale]
    exact (refuses_failBack _ _).bind_left _ c
  cases hmixed : flag.isMode && (flags.add flag).ascii && (flags.add flag).unicode with
  | true =>
      refine .inl fun k c => ?_
      rw [addedFlags]
      dsimp only
      rw [if_neg hlocale, if_pos hmixed]
      exact (refuses_failBack _ _).bind_left _ c
  | false =>
      refine .inr ⟨fun hf => Flags.mixed_add hf hmixed, fun k c tail hrest => ?_,
        fun k c y other tail hy hother hrest hwhole => ?_⟩
      all_goals
        rw [addedFlags]
        dsimp only
        rw [if_neg hlocale, if_neg (by rw [hmixed]; exact Bool.false_ne_true)]
      · rw [run_next_moveTo (by decide) hrest]
        rfl
      · have hne : ∀ z, isFlagLetter z = false → (y == z) = false := fun z hz =>
          beq_false_of_ne (ne_of_isFlagLetter hy hz)
        rw [run_next_plain (ne_of_isFlagLetter hy (by decide)) hrest hwhole]
        dsimp only
        rw [hne ')' rfl, hne '-' rfl, hne ':' rfl, if_neg (by decide)]
        simp only [flag?, hother]

/-- Letters up to the closing parenthesis are refused before any text, or set their flags. -/
theorem addedFlags_letters {x : Char} {xs : Text} {flag : Flag} (hx : Flag.ofLetter? x = some flag)
    (hxs : ∀ y ∈ xs, isFlagLetter y) (flags : Flags) :
    (∀ k c tail, c.rest = xs ++ ')' :: tail → xs.length < k →
        Refused ((addedFlags k flag flags).run c)) ∨
      (flags.mixed = false → ((x :: xs).foldl Flags.addLetter flags).mixed = false) ∧
        ∀ k c tail, c.rest = xs ++ ')' :: tail → xs.length < k → (addedFlags k flag flags).run c =
          (moveTo tail >>= fun _ => pure ((x :: xs).foldl Flags.addLetter flags, ')')).run c := by
  induction xs generalizing x flag flags with
  | nil =>
      rcases addedFlags_step flag flags with hrefused | ⟨hunmixed, hstop, -⟩
      · refine .inl fun k c tail _ hk => ?_
        obtain ⟨k, rfl⟩ := Nat.exists_eq_add_one.2 hk
        exact hrefused k c
      · rw [List.foldl_cons, Flags.addLetter_eq hx, List.foldl_nil]
        refine .inr ⟨hunmixed, fun k c tail hrest hk => ?_⟩
        obtain ⟨k, rfl⟩ := Nat.exists_eq_add_one.2 hk
        exact hstop k c tail hrest
  | cons y ys ih =>
      have hy := hxs y List.mem_cons_self
      obtain ⟨other, hother⟩ := Option.isSome_iff_exists.1 hy
      rcases addedFlags_step flag flags with hrefused | ⟨hunmixed, -, hnext⟩
      · refine .inl fun k c tail _ hk => ?_
        obtain ⟨k, rfl⟩ := Nat.exists_eq_add_one.2 (Nat.zero_lt_of_lt hk)
        exact hrefused k c
      · have hwhole : ∀ tail, ys ++ ')' :: tail ≠ ['\\'] := fun tail =>
          ne_backslash_of_mem ')' (by simp) (by decide)
        rw [List.foldl_cons, Flags.addLetter_eq hx]
        rcases ih hother (fun z hz => hxs z (List.mem_cons_of_mem y hz)) (flags.add flag) with
          hrefused | ⟨hunmixed', hrun⟩
        · refine .inl fun k c tail hrest hk => ?_
          obtain ⟨k, rfl⟩ := Nat.exists_eq_add_one.2 (Nat.zero_lt_of_lt hk)
          rw [hnext k c y other _ hy hother hrest (hwhole tail)]
          exact hrefused k _ tail rfl (Nat.lt_of_succ_lt_succ hk)
        · refine .inr ⟨fun hf => hunmixed' (hunmixed hf), fun k c tail hrest hk => ?_⟩
          obtain ⟨k, rfl⟩ := Nat.exists_eq_add_one.2 (Nat.zero_lt_of_lt hk)
          rw [hnext k c y other _ hy hother hrest (hwhole tail),
            hrun k _ tail rfl (Nat.lt_of_succ_lt_succ hk)]
          exact run_bind_congr (run_moveTo_rest _ _) _

/-- What stands at the start of a pattern is taken: the flags are added to those in force. -/
def takeHead (added : Flags) (tail : Text) : Reading Unit := do
  moveTo tail
  modify fun s => { s with flags := s.flags.union added }

theorem run_takeHead (htail : tail ≠ ['\\']) (added : Flags) :
    (takeHead added tail).run c =
      .ok ((), { c with rest := tail, flags := c.flags.union added }) := by
  rw [takeHead, run_bind_ok (run_moveTo htail)]
  rfl

section Letters

variable {x : Char} {xs : Text} (hx : isFlagLetter x) (hxs : ∀ y ∈ xs, isFlagLetter y)

include hx hxs

/-- Letters in parentheses are flags for the whole pattern. -/
theorem flagScope_letters :
    (∀ c tail, c.rest = xs ++ ')' :: tail → Refused ((flagScope x).run c)) ∨
      ((x :: xs).foldl Flags.addLetter {}).mixed = false ∧
        ∀ c tail, c.rest = xs ++ ')' :: tail → (flagScope x).run c =
          (takeHead ((x :: xs).foldl Flags.addLetter {}) tail >>= fun _ => pure .whole).run c := by
  obtain ⟨flag, hflag⟩ := Option.isSome_iff_exists.1 hx
  have hscope : ∀ c : Cursor, (flagScope x).run c =
      (addedFlags (c.rest.length + 1) flag {} >>= fun y =>
        scopeOf y.1 y.2 (c.rest.length + 1)).run c := by
    intro c
    rw [flagScope_eq, run_get_bind, plusFlags, hflag]
  have hfuel : ∀ {c : Cursor} {tail : Text}, c.rest = xs ++ ')' :: tail →
      xs.length < c.rest.length + 1 := by
    intro c tail hrest
    rw [hrest, List.length_append]
    omega
  rcases addedFlags_letters hflag hxs {} with hrefused | ⟨hunmixed, hrun⟩
  · refine .inl fun c tail hrest => ?_
    rw [hscope]
    exact (hrefused _ c tail hrest (hfuel hrest)).bind
  · refine .inr ⟨hunmixed rfl, fun c tail hrest => ?_⟩
    rw [hscope, run_bind_congr (hrun _ c tail hrest (hfuel hrest)), bind_assoc, takeHead,
      bind_assoc]
    rfl

end Letters

variable [Names]

/-- A group of letters holds their flags. -/
theorem run_group_letters {x : Char} (hx : isFlagLetter x) {xs : Text}
    (hrest : c.rest = '?' :: x :: xs ++ ')' :: tail) (k : Nat) (v : Bool) (opening : Nat) :
    ∃ f : FlagScope → Reading Outcome, f .whole = pure .flags ∧
      (group (k + 1) v opening).run c =
        (flagScope x >>= f).run { c with rest := xs ++ ')' :: tail } := by
  have hwhole : ∀ t : Text, t ++ ')' :: tail ≠ ['\\'] := fun t =>
    ne_backslash_of_mem ')' (by simp) (by decide)
  have hne : ∀ y, isFlagLetter y = false → ¬ (x == y) = true := fun y hy heq =>
    ne_of_isFlagLetter hx hy (eq_of_beq heq)
  have hlook : ¬ (x == '=' || x == '!') = true := by
    rw [Bool.or_eq_true]
    exact fun h => h.elim (hne _ rfl) (hne _ rfl)
  rw [group, run_accept_plain (by decide) hrest (hwhole (x :: xs)), if_neg (by decide),
    run_next_plain (ne_of_isFlagLetter hx (by decide)) rfl (hwhole xs)]
  dsimp only
  rw [if_neg (hne _ rfl), if_neg (hne _ rfl), if_neg (hne _ rfl), if_neg hlook, if_neg (hne _ rfl),
    if_neg (hne _ rfl), if_neg (hne _ rfl), if_pos (Bool.or_eq_true _ _ ▸ .inr hx)]
  exact ⟨_, rfl, rfl⟩

/-! ### Sequences that open with a parenthesis -/

/-- A group in a sequence. -/
theorem run_sequence_open (hrest : c.rest = '(' :: tail) (k : Nat) (v first : Bool)
    (items : List Item) :
    ∃ position, (sequence (k + 1) v first items).run c =
      (moveTo tail >>= fun _ =>
        group k v position >>= behindGroup k v first position items).run c := by
  refine ⟨c.total - c.rest.length, ?_⟩
  rw [sequence, run_peek_plain (by decide) hrest]
  dsimp only
  rw [if_neg (by decide), run_here_bind, run_next_moveTo (by decide) hrest]
  refine congrArg (fun r => StateT.run r c) (bind_congr fun _ => ?_)
  rw [if_neg (by cases v <;> decide), if_neg (by cases v <;> decide), if_neg (by decide),
    if_neg (by decide), if_neg (by decide), if_neg (by decide), if_neg (by decide),
    if_pos (by decide)]
  refine bind_congr fun outcome => ?_
  cases outcome <;> rfl

/-- A group in a sequence, by what it turns out to be. -/
theorem of_run_sequence_open (hrest : c.rest = '(' :: tail) {first : Bool} {items a : List Item}
    (h : (sequence (k + 1) v first items).run c = .ok (a, d)) :
    ∃ position outcome e, (group k v position).run { c with rest := tail } = .ok (outcome, e) ∧
      match outcome with
      | .item item => (sequence k v first (item :: items)).run e = .ok (a, d)
      | .nothing => (sequence k v first items).run e = .ok (a, d)
      | .flags => first = true ∧ (sequence k e.flags.verbose first items).run e = .ok (a, d) := by
  obtain ⟨position, hopen⟩ := run_sequence_open hrest k v first items
  rw [hopen] at h
  obtain ⟨u, e, hmove, h⟩ := run_bind_eq_ok.1 h
  obtain ⟨-, rfl⟩ := of_run_moveTo hmove
  obtain ⟨outcome, e', hgroup, h⟩ := run_bind_eq_ok.1 h
  refine ⟨position, outcome, e', hgroup, ?_⟩
  cases outcome with
  | item item => exact h
  | nothing => exact h
  | flags =>
      rw [behindGroup] at h
      dsimp only at h
      split at h
      · exact absurd h (Fails.bind_left (fails_failAt _ _) _ _ _)
      next hfirst =>
          cases first with
          | false => exact absurd rfl hfirst
          | true => exact ⟨rfl, h⟩

/-- **The flags at the start** are refused before any pattern, or they are set before the rest is
read. -/
theorem sequence_head {head : Text} {added : Flags} (hhead : Head head added) :
    (∀ (k : Nat) (c : Cursor) (tail : Text), c.rest = head ++ tail →
        Refused ((sequence (k + 2) c.flags.verbose true []).run c)) ∨
      added.mixed = false ∧ ∀ (k : Nat) (c : Cursor) (tail : Text), c.rest = head ++ tail →
        c.rest ≠ ['\\'] → ∃ k', k + 2 ≤ k' + head.length ∧
          (sequence (k + 2) c.flags.verbose true []).run c =
            (takeHead added tail >>= fun _ =>
              sequence k' (c.flags.union added).verbose true []).run c := by
  cases hhead with
  | none =>
      refine .inr ⟨rfl, fun k c tail hrest hwhole => ⟨k + 2, Nat.le_refl _, ?_⟩⟩
      obtain rfl : c.rest = tail := hrest
      rw [run_bind_ok (run_takeHead hwhole _), Flags.union_empty]
  | @letters x xs hx hxs =>
      -- both parentheses are taken, so that the flags are seen
      have hgroup : ∀ (k : Nat) (c : Cursor) (tail : Text),
          c.rest = '(' :: '?' :: x :: xs ++ [')'] ++ tail →
          ∃ (position : Nat) (f : FlagScope → Reading Outcome), f .whole = pure .flags ∧
            (sequence (k + 2) c.flags.verbose true []).run c =
              ((flagScope x >>= f) >>= behindGroup (k + 1) c.flags.verbose true position []).run
                { c with rest := xs ++ ')' :: tail } := by
        intro k c tail hrest
        have hopen : c.rest = '(' :: ('?' :: x :: xs ++ ')' :: tail) := by
          rw [hrest, List.append_assoc]
          rfl
        obtain ⟨position, hrun⟩ := run_sequence_open hopen (k + 1) c.flags.verbose true []
        rw [run_bind_ok (run_moveTo (by nofun))] at hrun
        obtain ⟨f, hf, hrun'⟩ := run_group_letters (c := { c with rest := _ })
          (isFlagLetter_of_isHeadLetter hx) rfl k c.flags.verbose position
        exact ⟨position, f, hf, hrun.trans (run_bind_congr hrun' _)⟩
      rcases flagScope_letters (isFlagLetter_of_isHeadLetter hx)
          (fun y hy => isFlagLetter_of_isHeadLetter (hxs y hy)) with hrefused | ⟨hunmixed, hwhole⟩
      · refine .inl fun k c tail hrest => ?_
        obtain ⟨position, f, -, hrun⟩ := hgroup k c tail hrest
        rw [hrun]
        exact (hrefused _ tail rfl).bind.bind
      · refine .inr ⟨hunmixed, fun k c tail hrest _ => ⟨k + 1, ?_, ?_⟩⟩
        · exact Nat.add_le_add_left (Nat.succ_pos _) (k + 1)
        · obtain ⟨position, f, hf, hrun⟩ := hgroup k c tail hrest
          rw [hrun, run_bind_congr (run_bind_congr (hwhole _ tail rfl) f)]
          by_cases htail : tail = ['\\']
          · subst htail
            rfl
          · rw [bind_assoc, bind_assoc, run_bind_ok (run_takeHead htail _), pure_bind, hf,
              pure_bind, run_bind_ok (run_takeHead htail _)]
            rfl

/-- The cursor in front of a text, in a pattern of some length. -/
def opening (total : Nat) (rest : Text) (flags : Flags) : Cursor :=
  ⟨total, rest, flags, #[], [], none, []⟩

/-- A pattern with flags at its start is refused, or it is read behind them. -/
theorem choice_head {head : Text} {added : Flags} (hhead : Head head added) :
    (∀ (k total : Nat) (tail : Text) (f : Flags),
        Refused ((choice true (k + 3) f.verbose []).run (opening total (head ++ tail) f))) ∨
      added.mixed = false ∧ ∀ (k total : Nat) (tail : Text) (f : Flags), head ++ tail ≠ ['\\'] →
        ∃ k', k + 2 ≤ k' + head.length ∧
          (choice true (k + 3) f.verbose []).run (opening total (head ++ tail) f) =
            (moveTo tail >>= fun _ => sequence k' (f.union added).verbose true [] >>=
              choiceAfter true (k + 2) (f.union added).verbose []).run
                (opening total tail (f.union added)) := by
  rcases sequence_head hhead with hrefused | ⟨hunmixed, hrun⟩
  · refine .inl fun k total tail f => ?_
    rw [choice_succ]
    exact (hrefused k (opening total (head ++ tail) f) tail rfl).bind
  · refine .inr ⟨hunmixed, fun k total tail f hwhole => ?_⟩
    obtain ⟨k', hk', hsequence⟩ := hrun k (opening total (head ++ tail) f) tail rfl hwhole
    refine ⟨k', hk', ?_⟩
    rw [choice_succ]
    refine (run_bind_congr hsequence _).trans ?_
    rw [bind_assoc]
    by_cases htail : tail = ['\\']
    · subst htail
      rfl
    · rw [run_bind_ok (run_takeHead htail _), run_bind_ok (run_moveTo htail)]
      rfl

end Reading

end UtilityCss.Pattern

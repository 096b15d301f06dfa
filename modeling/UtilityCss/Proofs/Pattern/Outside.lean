import UtilityCss.Proofs.Pattern.Bars
import UtilityCss.Proofs.Pattern.Groups

/-!
# Patterns — where a sequence ends

A sequence ends at the end of the text, at a parenthesis that closes its group, or at a bar.  If the
scan finds no bar outside of groups and sets, it does not end at one
(`lexeme?_ne_bar_of_run_sequence`).

Sequences, choices and groups are read by one another, each with less fuel, so what is shown of them
is shown together, by induction on the fuel (`readers_pass`).  The scan behind a sequence is the one
before it; a choice is passed inside of a group, where its bars are passed too; and a group is
passed with the parenthesis that closes it.  For a sequence this is shown of one round
(`Round.passes`).
-/

namespace UtilityCss.Pattern.Reading

variable {k n : Nat} {v v' u first : Bool} {around : List Bool} {c d e : Cursor}
  {items items' a : List Item} {outcome : Outcome}

/-! ### Marks -/

theorem of_run_close {opening : Nat} {x : Unit} (h : (close opening).run c = .ok (x, d)) :
    c.rest = ')' :: d.rest := by
  rw [close] at h
  by_cases hl : lexeme? c.rest = some (.plain ')')
  · rw [run_accept_true hl] at h
    obtain ⟨-, rfl⟩ := run_pure_eq_ok.1 (of_run_next_some hl h).2
    exact lexeme?_text hl
  · rw [run_accept_false hl] at h
    exact absurd h (fails_failAt _ _ _ _)

/-- A parenthesis closes the innermost group. -/
theorem passes_leave (h : c.rest = ')' :: d.rest) :
    Passes ⟨u :: around, v, .items⟩ c ⟨around, u, .items⟩ d := by
  refine ⟨?_, ?_⟩
  · rw [h, Scan.hasBar_lexeme (lexeme?_cons (by decide) _)]
    rfl
  · rw [h]
    exact Nat.le_succ _

theorem passes_close {opening : Nat} {x : Unit} (h : (close opening).run c = .ok (x, d)) :
    Passes ⟨u :: around, v, .items⟩ c ⟨around, u, .items⟩ d :=
  passes_leave (of_run_close h)

theorem passes_enter (h : c.rest = '(' :: d.rest) :
    Passes ⟨around, v, .items⟩ c (Scan.enter ⟨around, v, .items⟩ d.rest) d := by
  refine ⟨?_, ?_⟩
  · have hbar : (Lexeme.plain '(' == .plain '|') = false := rfl
    rw [h, Scan.hasBar_lexeme (lexeme?_cons (by decide) _), hbar, Bool.and_false, Bool.false_or]
    rfl
  · rw [h]
    exact Nat.le_succ _

theorem passes_comment (h : c.rest = '?' :: '#' :: d.rest) :
    Passes (Scan.enter ⟨around, v, .items⟩ c.rest) c ⟨around, v, .comment⟩ d := by
  refine ⟨?_, ?_⟩
  · rw [h]
    simp [Scan.enter, opensComment, Scan.within, Scan.hasBar, Scan.isOutside, Scan.step]
  · rw [h]
    simp only [List.length_cons]
    omega

/-- Inside of a group, a bar is passed. -/
theorem passes_bar (hl : lexeme? c.rest = some (.plain '|')) :
    Passes ⟨u :: around, v, .items⟩ c ⟨u :: around, v, .items⟩ (c.skip 1) :=
  passes_lexeme hl rfl

/-! ### Parts of groups -/

theorem of_run_repeatLast {min : Nat} {max : Option Nat} {position : Nat}
    (h : (repeatLast min max position items).run c = .ok (items', d)) :
    ∃ greed item rest, items = item :: rest ∧
      (∀ greed min max body, item ≠ .repeated greed min max body) ∧
      items' = .repeated greed min max (repeatLast.unwrapOne item) :: rest := by
  rw [repeatLast.eq_def] at h
  split at h
  · exact absurd h (fails_failAt _ _ _ _)
  · exact absurd h (fails_failAt _ _ _ _)
  · exact absurd h (fails_failAt _ _ _ _)
  next item rest hplace hrepeated =>
      obtain ⟨greed, e, -, h⟩ := run_bind_eq_ok.1 h
      obtain ⟨rfl, -⟩ := run_pure_eq_ok.1 h
      exact ⟨greed, item, rest, rfl, hrepeated, rfl⟩

theorem rest_openGroup {name : Option Text} {number : Nat}
    (h : (openGroup name).run c = .ok (number, d)) : d.rest = c.rest := by
  rw [openGroup, run_get_bind] at h
  split at h
  · obtain ⟨x, e, hset, h⟩ := run_bind_eq_ok.1 h
    obtain ⟨-, rfl⟩ := run_pure_eq_ok.1 h
    rw [run_set_eq_ok.1 hset]
  · split at h
    · exact absurd h (fails_failBack _ _ _ _)
    · obtain ⟨x, e, hset, h⟩ := run_bind_eq_ok.1 h
      obtain ⟨-, rfl⟩ := run_pure_eq_ok.1 h
      rw [run_set_eq_ok.1 hset]

theorem enter_capture {rest : Text} (h : lexeme? rest ≠ some (.plain '?')) :
    (⟨around, v, .items⟩ : Scan).enter rest = ⟨v :: around, v, .items⟩ := by
  have hhead : ∀ t, rest ≠ '?' :: t := by
    rintro t rfl
    exact h (lexeme?_cons (by decide) t)
  have hcomment : opensComment rest = false := by
    rw [opensComment.eq_def]
    split
    next t => exact absurd rfl (hhead ('#' :: t))
    next => rfl
  have hmode : modeInside v rest = v := by
    rw [modeInside.eq_def]
    split
    next t => exact absurd rfl (hhead t)
    next => rfl
  rw [Scan.enter, hcomment, if_neg Bool.false_ne_true, hmode]

theorem enter_extension {ch : Char} (hcomment : ch ≠ '#') (t : Text) :
    (⟨around, v, .items⟩ : Scan).enter ('?' :: ch :: t) =
      ⟨v :: around, modeInside v ('?' :: ch :: t), .items⟩ := by
  rw [Scan.enter, if_neg]
  rw [opensComment.eq_def]
  simp [hcomment]

theorem modeInside_extension {ch : Char} (hminus : ch ≠ '-') (hflag : isFlagLetter ch = false)
    (t : Text) : modeInside v ('?' :: ch :: t) = v := by
  rw [modeInside, List.takeWhile_cons_of_neg (by simp [hflag]),
    List.dropWhile_cons_of_neg (by simp [hflag])]
  simp [hminus]

theorem takes_extension {ch : Char} (hrest : c.rest = '?' :: ch :: e.rest) (hmark : ch ∉ marks) :
    Takes c e :=
  ⟨['?', ch], hrest, List.forall_mem_cons.2 ⟨by decide, List.forall_mem_singleton.2 hmark⟩⟩

/-- Behind a question mark and a character that stands for no flag and is no mark, a group is passed
in the mode around it. -/
theorem passes_extension {ch : Char} (hmark : ch ∉ marks) (hminus : ch ≠ '-')
    (hflag : isFlagLetter ch = false) (hrest : c.rest = '?' :: ch :: e.rest)
    (h : Passes ⟨v :: around, v, .items⟩ e ⟨around, v, .items⟩ d) :
    Passes (Scan.enter ⟨around, v, .items⟩ c.rest) c ⟨around, v, .items⟩ d := by
  have hcomment : ch ≠ '#' := by
    rintro rfl
    exact hmark (by decide)
  rw [hrest, enter_extension hcomment, modeInside_extension hminus hflag]
  exact ((takes_extension hrest hmark).passes (.inl rfl)).trans h

/-- A name, and the parenthesis behind it. -/
theorem passes_name {t : Text} (h : c.rest = t ++ ')' :: d.rest) (ht : Ordinary t) :
    Passes ⟨u :: around, v, .items⟩ c ⟨around, u, .items⟩ d := by
  have htakes : Takes c { c with rest := ')' :: d.rest } := ⟨t, h, ht⟩
  exact (htakes.passes (.inl rfl)).trans (passes_leave rfl)

/-- The group that a condition asks for stands in parentheses of its own. -/
theorem passes_condition {t : Text} (h : c.rest = t ++ ')' :: d.rest)
    (ht : ∀ ch ∈ t, isNamePart ch = true) :
    Passes (Scan.enter ⟨around, v, .items⟩ c.rest) c ⟨around, v, .items⟩ d := by
  have hfirst : lexeme? c.rest ≠ some (.plain '?') := by
    intro hl
    have hmem : '?' ∈ t := by
      have hhead := (lexeme?_text hl).symm.trans h
      cases t with
      | nil => cases hhead
      | cons x t => exact List.mem_cons.2 (.inl (List.cons.inj hhead).1)
    have hpart := ht '?' hmem
    rw [isNamePart_mark.1] at hpart
    cases hpart
  rw [enter_capture hfirst]
  exact passes_name h (ordinary_of_isNamePart ht)

theorem of_run_namedReference {item : Item} (h : namedReference.run c = .ok (item, d)) :
    ∃ t, c.rest = t ++ ')' :: d.rest ∧ Ordinary t := by
  obtain ⟨t, e, hname, h⟩ := run_bind_eq_ok.1 h
  obtain ⟨hrest, hparts⟩ := of_run_groupName hname
  refine ⟨t, ?_, ordinary_of_isNamePart hparts⟩
  rw [hrest]
  refine congrArg (t ++ ')' :: ·) (Still.rest_eq (.get_bind fun s => ?_) h).symm
  split
  · exact (refuses_failBack _ _).still
  · refine .get_bind fun _ => ?_
    split
    · exact (refuses_failBack _ _).still
    · exact (still_checkLookBehind _).bind fun _ => still_pure _

/-! ### What is passed -/

variable [Names]

/-- Sequences are passed where they take no flags for the whole pattern. -/
def SequencesPass (k : Nat) : Prop :=
  ∀ ⦃n v first items c a d⦄, (first = true → items ≠ []) → c.rest.length ≤ n → 4 * n + 1 ≤ k →
    (sequence k v first items).run c = .ok (a, d) →
      ∀ around, Passes ⟨around, v, .items⟩ c ⟨around, v, .items⟩ d

/-- Choices in a group are passed. -/
def ChoicesPass (k : Nat) : Prop :=
  ∀ ⦃n v done c a d⦄, c.rest.length ≤ n → 4 * n + 2 ≤ k →
    (choice false k v done).run c = .ok (a, d) →
      ∀ u around, Passes ⟨u :: around, v, .items⟩ c ⟨u :: around, v, .items⟩ d

/-- Groups that capture are passed, and closed. -/
def CapturesPass (k : Nat) : Prop :=
  ∀ ⦃n v opening name c outcome d⦄, c.rest.length ≤ n → 4 * n + 3 ≤ k →
    (capture k v opening name).run c = .ok (outcome, d) →
      ∀ u around, Passes ⟨u :: around, v, .items⟩ c ⟨around, u, .items⟩ d

/-- Groups are passed, and closed, unless they are flags for the whole pattern. -/
def GroupsPass (k : Nat) : Prop :=
  ∀ ⦃n v opening c outcome d⦄, c.rest.length ≤ n → 4 * n + 4 ≤ k →
    (group k v opening).run c = .ok (outcome, d) → outcome ≠ .flags →
      ∀ around, Passes (Scan.enter ⟨around, v, .items⟩ c.rest) c ⟨around, v, .items⟩ d

/-! ### Sequences -/

/-- A round keeps the mode, where it takes no flags for the whole pattern, and behind its lexeme
the scan comes to where the round ends. -/
theorem Round.passes (hgroup : GroupsPass k) (hn : c.rest.length ≤ n) (hk : 4 * n ≤ k)
    (hitems : first = true → items ≠ []) (h : Round k v first items c items' v' e) :
    v' = v ∧ (first = true → items' ≠ []) ∧ ∃ l, lexeme? c.rest = some l ∧ l ≠ .plain '|' ∧
      ∀ around, Passes (Scan.step ⟨around, v, .items⟩ l (c.rest.drop l.text.length))
        (c.skip l.text.length) ⟨around, v, .items⟩ e := by
  have henclosed : ∀ {l position outcome}, lexeme? c.rest = some l →
      (Reading.group k v position).run (c.skip l.text.length) = .ok (outcome, e) →
      outcome ≠ .flags →
      ∀ around, Passes (Scan.enter ⟨around, v, .items⟩ (c.skip l.text.length).rest)
        (c.skip l.text.length) ⟨around, v, .items⟩ e := by
    intro l position outcome hl hrun hflags
    have hlength := length_skip_lt hl
    exact hgroup (n := n - 1) (by omega) (by omega) hrun hflags
  have hbar : ∀ {ch}, ch ∉ marks → Lexeme.plain ch ≠ .plain '|' := by
    rintro ch hmark heq
    cases heq
    exact hmark (by decide)
  cases h with
  | escape hl hrun =>
      refine ⟨rfl, fun _ => List.cons_ne_nil _ _, _, hl, nofun, fun around => ?_⟩
      exact (takesFrom_itemEscape _).passes hrun (.inl rfl)
  | blank hv hl hch =>
      have hmark := not_mem_marks isSkipped (by decide) hch
      refine ⟨rfl, hitems, _, hl, hbar hmark, fun around => ?_⟩
      rw [Scan.step_ordinary hmark (.inl rfl)]
      exact passes_of_eq rfl
  | line hv hl hfuel hrun =>
      refine ⟨rfl, hitems, _, hl, nofun, fun around => ?_⟩
      subst hv
      exact passes_skipLine (Nat.lt_of_lt_of_le (length_skip_lt hl) hfuel) hrun
  | plain hl hch hline hquantifier hwhole =>
      simp only [List.mem_cons, List.not_mem_nil, or_false, not_or] at hch
      obtain ⟨hbar, hopen, hclose, hset⟩ := hch
      refine ⟨rfl, fun _ => List.cons_ne_nil _ _, _, hl, by simpa using hbar, fun around => ?_⟩
      rw [Scan.step_items (by simpa using hopen) (by simpa using hclose) (by simpa using hset)
        (by simpa using hline)]
      exact passes_of_eq rfl
  | set hl hrun =>
      refine ⟨rfl, fun _ => List.cons_ne_nil _ _, _, hl, nofun, fun around => ?_⟩
      exact passes_characterSet hrun
  | brace hl hquantifier hrun =>
      have hmark := not_mem_marks isQuantifier (by decide) hquantifier
      refine ⟨rfl, fun _ => List.cons_ne_nil _ _, _, hl, hbar hmark, fun around => ?_⟩
      rw [Scan.step_ordinary hmark (.inl rfl)]
      exact (takesFrom_bounds _).passes hrun (.inl rfl)
  | again hl hquantifier hbounds hrun =>
      have hmark := not_mem_marks isQuantifier (by decide) hquantifier
      obtain ⟨greed, item, rest, -, -, rfl⟩ := of_run_repeatLast hrun
      refine ⟨rfl, fun _ => List.cons_ne_nil _ _, _, hl, hbar hmark, fun around => ?_⟩
      rw [Scan.step_ordinary hmark (.inl rfl)]
      exact ((takesFrom_bounds _).passes hbounds (.inl rfl)).trans
        ((takesFrom_repeatLast _ _ _ _).passes hrun (.inl rfl))
  | group hl hrun =>
      refine ⟨rfl, fun _ => List.cons_ne_nil _ _, _, hl, nofun, fun around => ?_⟩
      exact henclosed hl hrun nofun around
  | comment hl hrun =>
      refine ⟨rfl, hitems, _, hl, nofun, fun around => ?_⟩
      exact henclosed hl hrun nofun around
  | flags hfirst hnil hl hrun => exact absurd hnil (hitems hfirst)

theorem SequencesPass.succ (hsequence : SequencesPass k) (hgroup : GroupsPass k) :
    SequencesPass (k + 1) := by
  intro n v first items c a d hitems hn hk h around
  obtain ⟨rfl, -⟩ | ⟨items', v', e, hround, hrun⟩ := of_run_sequence_succ h
  · exact passes_of_eq rfl
  obtain ⟨rfl, hitems', l, hl, hbar, hpass⟩ := hround.passes hgroup hn (by omega) hitems
  have hlexeme := passes_lexeme (s := ⟨around, v', .items⟩) hl (by simp [hbar])
  have hlength := length_skip_lt hl
  have hshorter := (hpass around).length
  exact (hlexeme.trans (hpass around)).trans
    (hsequence (n := n - 1) hitems' (by omega) (by omega) hrun around)

theorem ChoicesPass.succ (hsequence : SequencesPass k) (hchoice : ChoicesPass k) :
    ChoicesPass (k + 1) := by
  intro n v done c a d hn hk h u around
  rw [choice_succ, Bool.false_and] at h
  obtain ⟨items, e, hitems, hrun⟩ := run_bind_eq_ok.1 h
  have hfirst := hsequence (fun h => absurd h Bool.false_ne_true) hn (by omega) hitems (u :: around)
  have hlength := hfirst.length
  by_cases hl : lexeme? e.rest = some (.plain '|')
  · rw [choiceAfter, run_accept_true hl] at hrun
    have hshorter : (e.skip 1).rest.length < e.rest.length := length_skip_lt hl
    exact (hfirst.trans (passes_bar hl)).trans (hchoice (n := n - 1) (c := e.skip 1) (by omega)
      (by omega) (of_run_next_some hl hrun).2 u around)
  · rw [run_choiceAfter_stop hl] at hrun
    cases hrun
    exact hfirst

theorem CapturesPass.succ (hchoice : ChoicesPass k) : CapturesPass (k + 1) := by
  intro n v opening name c outcome d hn hk h u around
  rw [capture] at h
  obtain ⟨number, e₁, hopen, h⟩ := run_bind_eq_ok.1 h
  obtain ⟨body, e₂, hbody, h⟩ := run_bind_eq_ok.1 h
  obtain ⟨x, e₃, hclose, h⟩ := run_bind_eq_ok.1 h
  have hrest := rest_openGroup hopen
  have hend := ((still_closeGroup number body).bind fun _ => still_pure _).rest_eq h
  exact ((passes_of_eq hrest).trans (hchoice (n := n) (hrest ▸ hn) (by omega) hbody u around)).trans
    ((passes_close hclose).trans (passes_of_eq hend))

/-! ### Groups -/

/-- A choice in a group, and what closes it. -/
theorem ChoicesPass.closed (hchoice : ChoicesPass k) (hn : c.rest.length ≤ n) (hk : 4 * n + 2 ≤ k)
    {opening : Nat} {x : Unit} (hbody : (choice false k v []).run c = .ok (items, e))
    (hclose : (close opening).run e = .ok (x, d)) (u : Bool) (around : List Bool) :
    Passes ⟨u :: around, v, .items⟩ c ⟨around, u, .items⟩ d :=
  (hchoice hn hk hbody u around).trans (passes_close hclose)

theorem ChoicesPass.lookBehind (hchoice : ChoicesPass k) (hn : c.rest.length ≤ n)
    (hk : 4 * n + 2 ≤ k) {opening : Nat} {negated : Bool}
    (h : (lookBehindGroup k v opening negated).run c = .ok (outcome, d)) (u : Bool)
    (around : List Bool) : Passes ⟨u :: around, v, .items⟩ c ⟨around, u, .items⟩ d := by
  rw [lookBehindGroup, run_get_bind, groups, bind_assoc, run_get_bind, pure_bind] at h
  obtain ⟨x, e₁, hinside, h⟩ := run_bind_eq_ok.1 h
  obtain ⟨body, e₂, hbody, h⟩ := run_bind_eq_ok.1 h
  obtain ⟨y, e₃, houtside, h⟩ := run_bind_eq_ok.1 h
  obtain ⟨z, e₄, hclose, h⟩ := run_bind_eq_ok.1 h
  obtain ⟨-, rfl⟩ := run_pure_eq_ok.1 h
  have hinside' : e₁.rest = c.rest := by rw [run_modify_eq_ok.1 hinside]
  have houtside' : e₃.rest = e₂.rest := by rw [run_modify_eq_ok.1 houtside]
  exact ((passes_of_eq hinside').trans (hchoice (n := n) (hinside' ▸ hn) hk hbody u around)).trans
    ((passes_of_eq houtside').trans (passes_close hclose))

theorem SequencesPass.branches (hsequence : SequencesPass k) (hn : c.rest.length ≤ n)
    (hk : 4 * n + 1 ≤ k) {opening number : Nat}
    (h : (branches k v opening number).run c = .ok (outcome, d)) (u : Bool)
    (around : List Bool) : Passes ⟨u :: around, v, .items⟩ c ⟨around, u, .items⟩ d := by
  have hnext : ∀ {c a e}, c.rest.length ≤ n → (sequence k v false []).run c = .ok (a, e) →
      Passes ⟨u :: around, v, .items⟩ c ⟨u :: around, v, .items⟩ e := fun hn hrun =>
    hsequence (fun h => absurd h Bool.false_ne_true) hn hk hrun (u :: around)
  have hend : ∀ {c item}, (close opening >>= fun _ => pure (Outcome.item item)).run c =
      .ok (outcome, d) → Passes ⟨u :: around, v, .items⟩ c ⟨around, u, .items⟩ d := by
    intro c item h
    obtain ⟨x, e, hclose, h⟩ := run_bind_eq_ok.1 h
    obtain ⟨-, rfl⟩ := run_pure_eq_ok.1 h
    exact passes_close hclose
  obtain ⟨yes, e, hyes, h⟩ := run_bind_eq_ok.1 h
  have hfirst := hnext hn hyes
  by_cases hl : lexeme? e.rest = some (.plain '|')
  · rw [run_accept_true hl] at h
    have hlength := hfirst.length
    have hshorter : (e.skip 1).rest.length < e.rest.length := length_skip_lt hl
    obtain ⟨no, e', hno, h⟩ := run_bind_eq_ok.1 (of_run_next_some hl h).2
    rw [run_peek_bind] at h
    dsimp only at h
    split at h
    · exact absurd h (Fails.bind_left (fails_failBack _ _) _ _ _)
    · exact ((hfirst.trans (passes_bar hl)).trans
        (hnext (c := e.skip 1) (by omega) hno)).trans (hend h)
  · rw [run_accept_false hl] at h
    exact hfirst.trans (hend h)

/-- A name of a new group or of one before. -/
theorem CapturesPass.named (hcapture : CapturesPass k) (hn : c.rest.length ≤ n)
    (hk : 4 * n + 3 ≤ k) {opening : Nat}
    (h : (namedGroup k v opening).run c = .ok (outcome, d)) (u : Bool) (around : List Bool) :
    Passes ⟨u :: around, v, .items⟩ c ⟨around, u, .items⟩ d := by
  obtain ⟨named, e, hnamed, h⟩ := run_bind_eq_ok.1 h
  have hsign : Takes c e := takesFrom_accept (by decide) (takes_of_eq rfl) hnamed
  split at h
  · obtain ⟨t, e', hname, h⟩ := run_bind_eq_ok.1 h
    obtain ⟨hrest, hparts⟩ := of_run_groupName hname
    have htaken : Takes c e' := hsign.trans ⟨t ++ ['>'], by simp [hrest],
      ordinary_append (ordinary_of_isNamePart hparts) (by decide)⟩
    have hpass : Passes ⟨u :: around, v, .items⟩ c ⟨u :: around, v, .items⟩ e' :=
      htaken.passes (.inl rfl)
    exact hpass.trans (hcapture (Nat.le_trans hpass.length hn) hk h u around)
  · obtain ⟨referring, e', hreferring, h⟩ := run_bind_eq_ok.1 h
    have hsign' := takesFrom_accept (by decide) hsign hreferring
    split at h
    · obtain ⟨item, e₂, hreference, h⟩ := run_bind_eq_ok.1 h
      obtain ⟨-, rfl⟩ := run_pure_eq_ok.1 h
      obtain ⟨t, hrest, ht⟩ := of_run_namedReference hreference
      exact (hsign'.passes (.inl rfl)).trans (passes_name hrest ht)
    · obtain ⟨-, h⟩ | ⟨l, -, -, h⟩ := of_run_next h <;>
        exact absurd h (fails_failBack _ _ _ _)

/-- **A group**, by what it can be. -/
theorem GroupsPass.succ (hsequence : SequencesPass k) (hchoice : ChoicesPass k)
    (hcapture : CapturesPass k) : GroupsPass (k + 1) := by
  intro n v opening c outcome d hn hk h hflags around
  have hlength : ∀ {ch} {e : Cursor}, c.rest = '?' :: ch :: e.rest → e.rest.length ≤ n := by
    intro ch e hrest
    have hlength := congrArg List.length hrest
    simp only [List.length_cons] at hlength
    omega
  cases of_run_group_succ h with
  | capture hl hrun =>
      rw [enter_capture hl]
      exact hcapture hn (by omega) hrun v around
  | named hrest hrun =>
      exact passes_extension (by decide) (by decide) (by decide) hrest
        (hcapture.named (hlength hrest) (by omega) hrun v around)
  | body hch hrest hbody hclose =>
      have hpass := hchoice.closed (hlength hrest) (by omega) hbody hclose v around
      simp only [List.mem_cons, List.not_mem_nil, or_false] at hch
      rcases hch with rfl | rfl | rfl | rfl <;>
        exact passes_extension (by decide) (by decide) (by decide) hrest hpass
  | comment hrest hrun =>
      exact (passes_comment hrest).trans (passes_skipComment (Nat.lt_succ_self _) hrun)
  | lookBehind hsign hrest hrest' hrun =>
      refine passes_extension (by decide) (by decide) (by decide) hrest ?_
      have htaken : Takes _ _ := ⟨[_], hrest', by rcases hsign with rfl | rfl <;> decide⟩
      have hpass := htaken.passes (s := ⟨v :: around, v, .items⟩) (.inl rfl)
      exact hpass.trans (hchoice.lookBehind (Nat.le_trans hpass.length (hlength hrest)) (by omega)
        hrun v around)
  | @conditional number outcome d e e' hrest hcondition hrun =>
      obtain ⟨t, hname, hparts⟩ := of_run_condition hcondition
      -- the scan enters the parenthesis that the condition stands in
      have hmark : Takes c { e with rest := '(' :: e.rest } := ⟨['?'], hrest, by decide⟩
      have hparen : Passes ⟨v :: around, v, .items⟩ { e with rest := '(' :: e.rest }
          (Scan.enter ⟨v :: around, v, .items⟩ e.rest) e := passes_enter rfl
      have hnumber := hparen.trans (passes_condition hname hparts)
      have hpass := (hmark.passes (.inl rfl)).trans hnumber
      rw [hrest, enter_extension (by decide), modeInside_extension (by decide) (by decide)]
      exact hpass.trans
        (hsequence.branches (Nat.le_trans hpass.length hn) (by omega) hrun v around)
  | whole => exact absurd rfl hflags
  | @inside ch added removed items d e e' e'' hch hrest hscope hbody hclose =>
      have hmark : ch ∉ marks := by
        rcases hch with rfl | hch
        · decide
        · exact not_mem_marks isFlagLetter (by decide) hch
      have hcomment : ch ≠ '#' := by
        rintro rfl
        exact hmark (by decide)
      obtain ⟨hmode, htaken⟩ := of_run_flagScope (v := v) hch hscope
      have hpass : Passes ⟨v :: around, (v || added.verbose) && !removed.verbose, .items⟩ c
          ⟨v :: around, (v || added.verbose) && !removed.verbose, .items⟩ e' :=
        ((takes_extension hrest hmark).trans htaken).passes (.inl rfl)
      rw [hrest, enter_extension hcomment, hmode]
      exact hpass.trans
        (hchoice.closed (Nat.le_trans hpass.length hn) (by omega) hbody hclose v around)

/-- Sequences, and all that they are made of, are passed. -/
theorem readers_pass (k : Nat) :
    SequencesPass k ∧ ChoicesPass k ∧ CapturesPass k ∧ GroupsPass k := by
  induction k with
  | zero =>
      exact ⟨fun _ _ _ _ _ _ _ _ _ hk => by omega, fun _ _ _ _ _ _ _ hk => by omega,
        fun _ _ _ _ _ _ _ _ hk => by omega, fun _ _ _ _ _ _ _ hk => by omega⟩
  | succ k ih =>
      obtain ⟨hsequence, hchoice, hcapture, hgroup⟩ := ih
      exact ⟨hsequence.succ hgroup, ChoicesPass.succ hsequence hchoice,
        CapturesPass.succ hchoice, GroupsPass.succ hsequence hchoice hcapture⟩

/-- Where no bar stands outside of groups, sets and comments, a sequence does not end at one. -/
theorem lexeme?_ne_bar_of_run_sequence (hitems : first = true → items ≠ [])
    (hk : 4 * c.rest.length + 1 ≤ k) (h : (sequence k v first items).run c = .ok (a, d))
    (hbar : Scan.hasBar ⟨[], v, .items⟩ c.rest = false) : lexeme? d.rest ≠ some (.plain '|') := by
  intro hl
  rw [((readers_pass k).1 hitems (Nat.le_refl _) hk h []).same, Scan.hasBar_lexeme hl] at hbar
  simp [Scan.isOutside] at hbar

end UtilityCss.Pattern.Reading

import UtilityCss.Proofs.Pattern.Parts

/-!
# Patterns — groups side by side

Sequences, choices and groups are read by readers that call each other, so that they are read the
same is said of all of them at once, by induction on the fuel of the first reader
(`readers_agree`).  Every character takes four steps of fuel at most.

The two readers part at the end of the first text.

* A line feed may stand before what closes the group.  It ends a comment on the last line, it is
  skipped where blanks are skipped, and elsewhere it is an item that the first reader does not have;
  `Follows` is what both come to.
* Inside of a group of its own the first pattern cannot end there, since nothing closes that group
  (`RefusesAtEnd`).  The second reader takes the parenthesis that should close the outer group, and
  then there is none for that (`Closes`).

**A pattern** behind the flags at its start is read the same as in a group (`joint_pattern`).
-/

namespace UtilityCss.Pattern.Reading

variable {F F' : Flags} {w : Option Bool} {v : Bool} {n m k k' : Nat} {c c' d d' : Cursor}
  {α β : Type} {L : Prop}

/-! ### The end of the first text -/

/-- The first text has ended before the second one.  If the mode of the readers, `v`, is that of
what closes the group, the second reader has come to it, and the readers have learnt the same. -/
structure Ended (F F' : Flags) (w : Option Bool) (v : Bool) (c c' : Cursor) : Prop where
  wrapped : w ≠ none
  nil : c.rest = []
  beyond : Beyond c'
  same : w = some v → c'.rest = [')', '$'] ∧ Alike F F' c c'

/-- What readers of sequences come to in a mode: the same, beside each other, where no line feed
comes before what closes the group; or the first text has ended, and in the mode of what closes the
group it is the same there, too. -/
def Follows (F F' : Flags) (w : Option Bool) (v : Bool) (n : Nat) (a : α) (d : Cursor) (b : α)
    (d' : Cursor) : Prop :=
  (a = b ∧ Beside F F' w n d d' ∧ (d.rest = [] → w ≠ some true)) ∨
    Ended F F' w v d d' ∧ (w = some v → a = b)

theorem Follows.mono {a b : α} (h : Follows F F' w v m a d b d') (hle : m ≤ n) :
    Follows F F' w v n a d b d' :=
  h.imp_left fun hsame => ⟨hsame.1, hsame.2.1.mono hle, hsame.2.2⟩

theorem Joint.follows_mono {P : Cursor → Cursor → Prop} {E : α → Cursor → Prop} {r r' : Reading α}
    (h : Joint L P (Follows F F' w v m) E r r') (hle : m ≤ n) :
    Joint L P (Follows F F' w v n) E r r' :=
  h.imp_results fun _ _ _ _ hd => hd.mono hle

/-- Where nothing is left, the reader finds the pattern malformed. -/
def RefusesAtEnd (r : Reading α) : Prop :=
  ∀ c, c.rest = [] → Refused (r.run c)

theorem RefusesAtEnd.bind_left {r : Reading α} (h : RefusesAtEnd r) (f : α → Reading β) :
    RefusesAtEnd (r >>= f) :=
  fun c hc => (h c hc).bind

/-- Nothing is accepted where nothing is left. -/
theorem RefusesAtEnd.accept_bind (ch : Char) {f : Bool → Reading β} (h : RefusesAtEnd (f false)) :
    RefusesAtEnd (accept ch >>= f) := by
  intro c hc
  rw [run_accept_false (by rw [hc]; nofun)]
  exact h c hc

theorem RefusesAtEnd.peek_bind {f : Option Lexeme → Reading β} (h : RefusesAtEnd (f none)) :
    RefusesAtEnd (peek >>= f) := by
  intro c hc
  rw [run_peek_bind, hc]
  exact h c hc

theorem RefusesAtEnd.modify_bind {f : Cursor → Cursor} {g : Unit → Reading β}
    (h : RefusesAtEnd (g ())) (hf : ∀ c, (f c).rest = c.rest) :
    RefusesAtEnd ((modify f : Reading Unit) >>= g) :=
  fun c hc => h (f c) ((hf c).trans hc)

theorem refusesAtEnd_close (opening : Nat) : RefusesAtEnd (close opening) :=
  .accept_bind ')' fun c _ => refuses_failAt _ _ c

/-- Beyond the end of the first text, the reader takes the parenthesis that closes the group, or
finds that there is none. -/
def Closes (r : Reading α) : Prop :=
  ∀ c, Beyond c → Lost (fun _ d => Spent d) (r.run c)

theorem Closes.accept_bind {ch : Char} (hch : ch ∉ closing true) {f : Bool → Reading β}
    (h : Closes (f false)) : Closes (accept ch >>= f) := by
  intro c hc
  rw [run_accept_false (lexeme?_ne_of_suffix hch hc)]
  exact h c hc

theorem Closes.peek_bind {ch : Char} (hch : ch ∉ closing true) {x y : Reading β} (h : Closes y) :
    Closes (peek >>= fun l => if l == some (.plain ch) then x else y) := by
  intro c hc
  rw [run_peek_bind, if_neg (by simpa using lexeme?_ne_of_suffix hch hc)]
  exact h c hc

theorem Closes.modify_bind {f : Cursor → Cursor} {g : Unit → Reading β} (h : Closes (g ()))
    (hf : ∀ c, (f c).rest = c.rest) : Closes ((modify f : Reading Unit) >>= g) :=
  fun c hc => h (f c) (by rwa [Beyond, hf])

theorem closes_close (opening : Nat) : Closes (close opening) := by
  intro c hc
  cases hrest : c.rest with
  | nil => exact (refusesAtEnd_close opening c hrest).of_refused
  | cons ch t =>
      obtain ⟨hch, hwhole, -, hclose, -⟩ := of_suffix_closing (hc.of_cons hrest)
      rw [close]
      by_cases hparen : ch = ')'
      · subst hparen
        rw [run_accept_plain hch hrest hwhole]
        exact lost_pure (spent_of_eq (hclose rfl))
      · rw [run_accept_false (by rw [hrest, lexeme?_cons hch]; simpa using hparen)]
        exact (refuses_failAt _ _).lost

theorem Closes.bind_still {r : Reading α} (h : Closes r) {f : α → Reading β}
    (hf : ∀ a, Still (f a)) : Closes (r >>= f) :=
  fun c hc => (h c hc).bind fun a _ hd => (hf a).spent hd

theorem still_closeGroup (number : Nat) (body : List Item) : Still (closeGroup number body) :=
  still_modify fun _ => rfl

theorem closes_close_item (opening : Nat) (item : Item) :
    Closes (close opening >>= fun _ => pure (Outcome.item item)) :=
  (closes_close _).bind_still fun _ => still_pure _

/-- What closes a group of its own only goes on where the readers are beside each other. -/
theorem Joint.enclosed {r r' : Reading α} {f f' : α → Reading β}
    {Q : β → Cursor → β → Cursor → Prop}
    (h : Joint False (Beside F F' w n) (Follows F F' w v n) (fun _ d => Spent d) r r')
    (hend : ∀ a, RefusesAtEnd (f a)) (hclose : ∀ a, Closes (f' a))
    (hf : ∀ a, Joint False (Beside F F' w n) Q (fun _ d => Spent d) (f a) (f' a)) :
    Joint False (Beside F F' w n) Q (fun _ d => Spent d) (r >>= f) (r' >>= f') := by
  refine Joint.bind h (fun a b c c' hc => ?_) fun fault hfault b d' hd => ?_
  · rcases hc with ⟨rfl, hbeside, -⟩ | ⟨hended, -⟩
    · exact hf a hbeside
    · exact fates_of_lost (hend a c hended.nil) (hclose b c' hended.beyond)
  · exact fates_of_lost (.refused hfault) (hclose b d' hd.beyond)

theorem accord_close (opening opening' : Nat) :
    Accord F F' w n Eq (fun _ d => Spent d) (close opening) (close opening') := by
  refine Related.by_end (fun c c' hc => ?_) fun l => ?_
  · exact fates_of_lost (refusesAtEnd_close opening c hc.2)
      (closes_close opening' c' (hc.1.beyond hc.2))
  · rw [close, close]
    by_cases hl : l = .plain ')'
    · subst hl
      rintro c c' ⟨hc, hl⟩
      rw [run_accept_true hl, run_accept_true (hc.lexeme?_of_some hl)]
      refine Related.take_bind (.plain ')') (fun m hm => ?_) ⟨hc, hl⟩
      exact joint_pure fun _ _ hd => ⟨rfl, hd.mono (by omega)⟩
    · rintro c c' ⟨hc, hc'⟩
      have hne : some l ≠ some (.plain ')') := by simpa using hl
      rw [run_accept_false (hc' ▸ hne), run_accept_false (hc.lexeme?_of_some hc' ▸ hne)]
      exact related_failAt (P := fun _ _ => True) _ _ _ _ trivial

theorem Beside.inLookBehind (h : Beside F F' w n c c') (first : Option Nat) :
    Beside F F' w n { c with lookBehind := first } { c' with lookBehind := first } :=
  h.learn ⟨h.flags, h.flags', h.widths, h.names, rfl, h.conditions⟩ rfl rfl

theorem Accord.item {r r' : Reading Outcome}
    (h : Accord F F' w m Eq (fun _ d => Spent d) r r') (hle : m ≤ n) :
    Joint False (Beside F F' w m)
      (fun a d b d' => a = .flags ∧ b = .flags ∨ a = b ∧ Beside F F' w n d d')
      (fun _ d => Spent d) r r' :=
  (h.lower hle).imp_results fun _ _ _ _ => .inr

/-! ### Comments -/

/-- Behind the end of the first text, a comment goes on to a line feed, or to the end. -/
theorem run_skipLine_beyond (hc : Beyond c) (k : Nat) :
    ∃ d, (skipLine k).run c = .ok ((), d) ∧ d.rest <:+ c.rest := by
  induction k generalizing c with
  | zero => exact ⟨c, rfl, List.suffix_refl _⟩
  | succ k ih =>
      cases hrest : c.rest with
      | nil =>
          refine ⟨c, ?_, hrest ▸ List.suffix_refl _⟩
          rw [skipLine, run_next_nil hrest]
          rfl
      | cons ch t =>
          obtain ⟨hch, hwhole, ht, -, -⟩ := of_suffix_closing (hc.of_cons hrest)
          rw [skipLine, run_next_plain hch hrest hwhole]
          dsimp only
          split
          · exact ⟨_, rfl, List.suffix_cons ch t⟩
          · obtain ⟨d, hrun, hd⟩ := ih (c := { c with rest := t }) ht
            exact ⟨d, hrun, hd.trans (List.suffix_cons ch t)⟩

/-- A comment that is the last line ends with the first text.  The second reader stops there, too,
or behind the line feed, if there is one. -/
theorem joint_skipLine (hk : n < k) (hk' : n < k') :
    Joint False (Beside F F' w n)
      (fun _ d _ d' => Beside F F' w n d d' ∨ Ended F F' w true d d') (fun _ _ => False)
      (skipLine k) (skipLine k') := by
  induction k generalizing k' n with
  | zero => omega
  | succ k ih =>
      obtain ⟨k', rfl⟩ := Nat.exists_eq_add_one.2 (Nat.zero_lt_of_lt hk')
      refine Related.by_end (fun c c' ⟨hc, hnil⟩ => ?_) fun l => ?_
      · have hrest := hc.rest
        rw [hnil, List.nil_append] at hrest
        obtain ⟨d', hrun', hd'⟩ := run_skipLine_beyond (hc.beyond hnil) (k' + 1)
        rw [skipLine, run_next_nil hnil, hrun']
        cases w with
        | none =>
            -- the second text ends, too
            rw [skipLine, run_next_nil hrest] at hrun'
            cases hrun'
            exact .results (.inl hc)
        | some comments =>
            refine .results (.inr ⟨nofun, hnil, hd'.trans (hc.beyond hnil), fun hcomments => ?_⟩)
            obtain rfl := Option.some.inj hcomments
            rw [skipLine, run_next_plain (by decide) hrest (by decide)] at hrun'
            cases hrun'
            exact ⟨rfl, hc.flags, hc.flags', hc.widths, hc.names, hc.lookBehind, hc.conditions⟩
      · rw [skipLine, skipLine]
        refine Related.take_bind l fun m hm => ?_
        dsimp only
        refine related_ite (joint_pure fun _ _ hc => .inl (hc.mono (by omega))) ?_
        exact (ih (by omega) (by omega)).imp_results fun _ _ _ _ => .imp_left (·.mono (by omega))

/-! ### Sequences -/

variable [Names]

/-- A sequence ends where nothing is left or a parenthesis closes. -/
theorem run_sequence_stop (hstop : ∀ l, lexeme? c.rest = some l → l = .plain ')') (k : Nat)
    (v first : Bool) (items : List Item) :
    (sequence k v first items).run c = .ok (unwrap items.reverse, c) := by
  cases k with
  | zero => rfl
  | succ k =>
      rw [sequence, run_peek_bind]
      cases hl : lexeme? c.rest with
      | none => rfl
      | some l =>
          obtain rfl := hstop l hl
          rfl

theorem run_sequence_nil (hnil : c.rest = []) (k : Nat) (v first : Bool) (items : List Item) :
    (sequence k v first items).run c = .ok (unwrap items.reverse, c) :=
  run_sequence_stop (by rw [hnil]; nofun) k v first items

theorem run_sequence_close (hrest : c.rest = [')', '$']) (k : Nat) (v first : Bool)
    (items : List Item) :
    (sequence k v first items).run c = .ok (unwrap items.reverse, c) := by
  refine run_sequence_stop (fun l hl => ?_) k v first items
  rw [hrest] at hl
  exact (Option.some.inj hl).symm

/-- A line feed is skipped where blanks are, and an item elsewhere. -/
theorem run_sequence_feed {tail : Text} (hrest : c.rest = '\n' :: tail) (hwhole : tail ≠ ['\\'])
    (k : Nat) (v first : Bool) (items : List Item) :
    (sequence (k + 1) v first items).run c =
      (sequence k v first (if v then items else .code 10 :: items)).run
        { c with rest := tail } := by
  rw [sequence, run_peek_plain (by decide) hrest]
  dsimp only
  rw [if_neg (by decide), run_here_bind, run_next_plain (by decide) hrest hwhole]
  cases v <;> rfl

/-- A dollar sign holds at the end. -/
theorem run_sequence_finish {tail : Text} (hrest : c.rest = '$' :: tail) (hwhole : tail ≠ ['\\'])
    (k : Nat) (v first : Bool) (items : List Item) :
    (sequence (k + 1) v first items).run c =
      (sequence k v first (.place .finish :: items)).run { c with rest := tail } := by
  rw [sequence, run_peek_plain (by decide) hrest]
  dsimp only
  rw [if_neg (by decide), run_here_bind, run_next_plain (by decide) hrest hwhole]
  cases v <;> rfl

/-- Behind the end of the first text, a sequence goes on to a parenthesis, or to the end. -/
theorem run_sequence_beyond (hc : Beyond c) (k : Nat) (v first : Bool) (items : List Item) :
    ∃ a d, (sequence k v first items).run c = .ok (a, d) ∧ d.rest <:+ c.rest := by
  induction k generalizing c items with
  | zero => exact ⟨_, c, rfl, List.suffix_refl _⟩
  | succ k ih =>
      cases hrest : c.rest with
      | nil => exact ⟨_, c, run_sequence_nil hrest _ _ _ _, hrest ▸ List.suffix_refl _⟩
      | cons ch t =>
          obtain ⟨hch, hwhole, ht, -, hany⟩ := of_suffix_closing (hc.of_cons hrest)
          have hon : ∀ items, ∃ a d, (sequence k v first items).run { c with rest := t } =
              .ok (a, d) ∧ d.rest <:+ ch :: t := by
            intro items
            obtain ⟨a, d, hrun, hd⟩ := ih (c := { c with rest := t }) ht items
            exact ⟨a, d, hrun, hd.trans (List.suffix_cons ch t)⟩
          rcases hany with rfl | rfl | rfl
          · rw [run_sequence_feed hrest hwhole]
            exact hon _
          · refine ⟨_, c, run_sequence_stop (fun l hl => ?_) _ _ _ _, hrest ▸ List.suffix_refl _⟩
            rw [hrest, lexeme?_cons hch] at hl
            exact (Option.some.inj hl).symm
          · rw [run_sequence_finish hrest hwhole]
            exact hon _

theorem lost_sequence (hc : Spent c) (k : Nat) (v first : Bool) (items : List Item) :
    Lost (fun _ d => Spent d) ((sequence k v first items).run c) := by
  obtain ⟨a, d, hrun, hd⟩ := run_sequence_beyond hc.beyond k v first items
  rw [hrun]
  exact .result (hd.trans hc)

/-- Sequences are read the same, with enough fuel, where the second reader takes no flags for the
whole pattern.  Only where the first one may take them, flags come too late. -/
def SequencesAgree (F F' : Flags) (w : Option Bool) (k : Nat) : Prop :=
  ∀ {L : Prop} {k' n : Nat} {v first first' : Bool} {items : List Item}, (first = true → L) →
    (first' = true → items ≠ []) → 4 * n + 1 ≤ k → 4 * n + 3 ≤ k' →
    Joint L (Beside F F' w n) (Follows F F' w v n) (fun _ d => Spent d) (sequence k v first items)
      (sequence k' v first' items)

/-- Choices are read the same, with enough fuel, where no reader takes flags for the whole pattern.
A choice that is the whole pattern is read in the mode of the whole pattern. -/
def ChoicesAgree (F F' : Flags) (w : Option Bool) (k : Nat) : Prop :=
  ∀ {L : Prop} {k' n : Nat} {v top top' : Bool} {done : List (List Item)},
    (top = true → v = F.verbose) → (top' = true → v = F'.verbose) → (top = true → done ≠ []) →
    (top' = true → done ≠ []) → 4 * n + 2 ≤ k → 4 * n + 4 ≤ k' →
    Joint L (Beside F F' w n) (Follows F F' w v n) (fun _ d => Spent d) (choice top k v done)
      (choice top' k' v done)

/-- Groups that capture are read the same, with enough fuel. -/
def CapturesAgree (F F' : Flags) (w : Option Bool) (k : Nat) : Prop :=
  ∀ {k' n : Nat} {v : Bool} {opening opening' : Nat} {name : Option Text}, 4 * n + 3 ≤ k →
    4 * n + 5 ≤ k' →
    Accord F F' w n Eq (fun _ d => Spent d) (capture k v opening name)
      (capture k' v opening' name)

/-- Groups are read the same, with enough fuel, unless both readers have found flags for the whole
pattern. -/
def GroupsAgree (F F' : Flags) (w : Option Bool) (k : Nat) : Prop :=
  ∀ {k' n : Nat} {v : Bool} {opening opening' : Nat}, 4 * n + 4 ≤ k → 4 * n + 6 ≤ k' →
    Joint False (Beside F F' w n)
      (fun a d b d' => a = .flags ∧ b = .flags ∨ a = b ∧ Beside F F' w n d d')
      (fun _ d => Spent d) (group k v opening) (group k' v opening')

theorem CapturesAgree.succ (hchoice : ChoicesAgree F F' w k) : CapturesAgree F F' w (k + 1) := by
  intro k' n v opening opening' name hk hk'
  obtain ⟨k', rfl⟩ := Nat.exists_eq_add_one.2 (Nat.zero_lt_of_lt hk')
  rw [capture, capture]
  refine (agree_openGroup name).bind_eq fun number => ?_
  refine Joint.enclosed (hchoice nofun nofun nofun nofun (by omega) (by omega))
    (fun body => (refusesAtEnd_close _).bind_left _) (fun body => ?_) fun body => ?_
  · exact (closes_close _).bind_still fun _ =>
      (still_closeGroup number body).bind fun _ => still_pure _
  · refine (accord_close opening opening').bind_eq (fun _ => ?_) fun _ d hd => ?_
    · exact (agree_closeGroup number body).bind_eq fun _ => accord_pure rfl
    · exact Still.spent ((still_closeGroup number body).bind fun _ => still_pure _) hd

/-- What a choice does behind its first sequence. -/
def choiceAfter (top : Bool) (fuel : Nat) (verbose : Bool) (done : List (List Item))
    (items : List Item) : Reading (List Item) := do
  if ← accept '|' then
    let overall := (← get).flags.verbose
    choice top fuel (if top then overall else verbose) (items :: done)
  else return alternate (items :: done).reverse

theorem choice_succ (top : Bool) (k : Nat) (v : Bool) (done : List (List Item)) :
    choice top (k + 1) v done =
      sequence k v (top && done.isEmpty) [] >>= choiceAfter top k v done := by
  rw [choice]
  rfl

/-- Where no bar comes next, a choice is at its end. -/
theorem run_choiceAfter_stop (hne : lexeme? c.rest ≠ some (.plain '|')) (top : Bool) (k : Nat)
    (v : Bool) (done : List (List Item)) (items : List Item) :
    (choiceAfter top k v done items).run c = .ok (alternate (items :: done).reverse, c) := by
  rw [choiceAfter, run_accept_false hne]
  rfl

/-- Behind sequences that are read the same, choices go on the same. -/
theorem joint_choiceAfter (hchoice : ChoicesAgree F F' w k) {top top' : Bool}
    (htop : top = true → v = F.verbose) (htop' : top' = true → v = F'.verbose)
    (hk : 4 * n ≤ k + 2) (hk' : 4 * n ≤ k') (done : List (List Item)) (items items' : List Item) :
    Joint L (fun c c' => Follows F F' w v n items c items' c') (Follows F F' w v n)
      (fun _ d => Spent d) (choiceAfter top k v done items)
      (choiceAfter top' k' v done items') := by
  intro c c' hc
  rcases hc with ⟨rfl, hbeside, hfeed⟩ | ⟨hended, hitems⟩
  · refine hbeside.accept_bind (by decide) (by decide) (fun m hm => ?_) ?_
    · refine Related.get_bind fun s s' hs hle => ?_
      have hmode : (if top then s.flags.verbose else v) = v := by
        rw [hs.flags]
        cases top with
        | false => rfl
        | true => exact (htop rfl).symm
      have hmode' : (if top' then s'.flags.verbose else v) = v := by
        rw [hs.flags']
        cases top' with
        | false => rfl
        | true => exact (htop' rfl).symm
      dsimp only
      rw [hmode, hmode']
      exact (hchoice htop htop' (fun _ => List.cons_ne_nil _ _) (fun _ => List.cons_ne_nil _ _)
        (by omega) (by omega)).follows_mono (by omega)
    · exact .results (.inl ⟨rfl, hbeside, hfeed⟩)
  · rw [run_choiceAfter_stop (by rw [hended.nil]; nofun),
      run_choiceAfter_stop (lexeme?_ne_of_suffix (by decide) hended.beyond)]
    exact .results (.inr ⟨hended, fun hv => by rw [hitems hv]⟩)

theorem ChoicesAgree.succ (hsequence : SequencesAgree F F' w k) (hchoice : ChoicesAgree F F' w k) :
    ChoicesAgree F F' w (k + 1) := by
  intro L k' n v top top' done htop htop' hdone hdone' hk hk'
  obtain ⟨k', rfl⟩ := Nat.exists_eq_add_one.2 (Nat.zero_lt_of_lt hk')
  rw [choice_succ, choice_succ]
  have hfirst : ∀ {top : Bool}, (top = true → done ≠ []) → ¬ (top && done.isEmpty) = true := by
    intro top hdone
    cases top with
    | false => exact Bool.false_ne_true
    | true => simpa using hdone rfl
  refine Joint.bind (hsequence (L := L) (fun h => absurd h (hfirst hdone))
    (fun h => absurd h (hfirst hdone')) (by omega) (by omega))
    (joint_choiceAfter hchoice htop htop' (by omega) (by omega) done) fun fault hfault b d hd => ?_
  rw [run_choiceAfter_stop (lexeme?_ne_of_suffix (by decide) hd.beyond)]
  exact .overrun hfault hd

/-- Where the first text has ended, or its last line is a comment, the sequence has ended, too. -/
theorem joint_sequence_nil {first first' : Bool} (items : List Item) :
    Joint L (fun c c' => Beside F F' w n c c' ∧ c.rest = []) (Follows F F' w v n)
      (fun _ d => Spent d) (sequence (k + 1) v first items) (sequence (k' + 1) v first' items) := by
  rintro c c' ⟨hc, hnil⟩
  have hrest := hc.rest
  rw [hnil, List.nil_append] at hrest
  rw [run_sequence_nil hnil]
  rcases w with - | - | -
  · rw [run_sequence_nil hrest]
    exact .results (.inl ⟨rfl, hc, nofun⟩)
  · rw [run_sequence_close hrest]
    exact .results (.inl ⟨rfl, hc, nofun⟩)
  · rw [run_sequence_feed hrest (by decide), run_sequence_close rfl]
    refine .results (.inr ⟨⟨nofun, hnil, List.suffix_cons _ _, fun _ => ⟨rfl, hc.flags, hc.flags',
      hc.widths, hc.names, hc.lookBehind, hc.conditions⟩⟩, fun hv => ?_⟩)
    obtain rfl := Option.some.inj hv
    rfl

theorem joint_sequence_ended {first first' : Bool} (items : List Item) :
    Joint L (Ended F F' w v) (Follows F F' w v n) (fun _ d => Spent d) (sequence k v first items)
      (sequence k' v first' items) := by
  intro c c' hc
  rw [run_sequence_nil hc.nil]
  by_cases hv : w = some v
  · rw [run_sequence_close (hc.same hv).1]
    exact .results (.inr ⟨hc, fun _ => rfl⟩)
  · obtain ⟨a, d, hrun, hd⟩ := run_sequence_beyond hc.beyond k' v first' items
    rw [hrun]
    exact .results (.inr ⟨⟨hc.wrapped, hc.nil, hd.trans hc.beyond, fun h => absurd h hv⟩,
      fun h => absurd h hv⟩)

/-- What a sequence does behind a group, by what that has turned out to be. -/
def behindGroup (k : Nat) (v first : Bool) (position : Nat) (items : List Item) :
    Outcome → Reading (List Item)
  | .item item => sequence k v first (item :: items)
  | .nothing => sequence k v first items
  | .flags => do
    if !first || !items.isEmpty then failAt .lateFlags position
    sequence k (← get).flags.verbose first items

/-- Flags for the pattern come too late where it does not start, or behind other items. -/
theorem run_behindGroup_late {first : Bool} {items : List Item} (hfirst : first = true → items ≠ [])
    (k : Nat) (v : Bool) (position : Nat) (c : Cursor) :
    ∃ place, (behindGroup k v first position items .flags).run c =
      .error (.malformed .lateFlags place) := by
  have hlate : (!first || !items.isEmpty) = true := by
    cases first with
    | false => rfl
    | true => simpa using hfirst rfl
  rw [behindGroup, if_pos hlate]
  exact ⟨_, rfl⟩

/-- The second reader is not at the start of its pattern, or not any more.  If the first one is
not, either, both fail where they find flags. -/
theorem SequencesAgree.behindGroup (hsequence : SequencesAgree F F' w k) {first first' : Bool}
    {items : List Item} (hL : first = true → L) (hfirst : first' = true → items ≠ [])
    (hk : 4 * n + 1 ≤ k) (hk' : 4 * n + 3 ≤ k') (position position' : Nat)
    (found found' : Outcome) :
    Joint L (fun c c' => found = .flags ∧ found' = .flags ∨ found = found' ∧ Beside F F' w n c c')
      (Follows F F' w v n) (fun _ d => Spent d) (behindGroup k v first position items found)
      (behindGroup k' v first' position' items found') := by
  intro c c' hc
  cases found' with
  | item item =>
      rcases hc with ⟨-, h⟩ | ⟨rfl, hbeside⟩
      · cases h
      · exact hsequence hL (fun _ => List.cons_ne_nil _ _) hk hk' hbeside
  | nothing =>
      rcases hc with ⟨-, h⟩ | ⟨rfl, hbeside⟩
      · cases h
      · exact hsequence hL hfirst hk hk' hbeside
  | flags =>
      obtain rfl : found = .flags := hc.elim And.left And.left
      obtain ⟨place', hrun'⟩ := run_behindGroup_late hfirst k' v position' c'
      rw [hrun']
      cases first with
      | true => exact .late (hL rfl)
      | false =>
          have hnever : false = true → items ≠ [] := nofun
          obtain ⟨place, hrun⟩ := run_behindGroup_late hnever k v position c
          rw [hrun]
          exact Lenient.of_refused (.refused (Fault.malformed_malformed _ _))
            (.refused (Fault.malformed_malformed _ _))

theorem lost_behindGroup {first : Bool} {items : List Item} (hfirst : first = true → items ≠ [])
    (hc : Spent c) (k : Nat) (v : Bool) (position : Nat) (found : Outcome) :
    Lost (fun _ d => Spent d) ((behindGroup k v first position items found).run c) := by
  cases found with
  | item item => exact lost_sequence hc _ _ _ _
  | nothing => exact lost_sequence hc _ _ _ _
  | flags =>
      obtain ⟨place, hrun⟩ := run_behindGroup_late hfirst k v position c
      rw [hrun]
      exact .refused (Fault.malformed_malformed _ _)

/-- **A sequence**, by its next character. -/
theorem SequencesAgree.succ (hsequence : SequencesAgree F F' w k) (hgroup : GroupsAgree F F' w k) :
    SequencesAgree F F' w (k + 1) := by
  intro L k' n v first first' items hL hfirst hk hk'
  obtain ⟨k', rfl⟩ := Nat.exists_eq_add_one.2 (Nat.zero_lt_of_lt hk')
  refine Related.by_end (joint_sequence_nil items) fun l => ?_
  have hon : ∀ {m items}, n = m + 1 → (first' = true → items ≠ []) →
      Joint L (Beside F F' w m) (Follows F F' w v n) (fun _ d => Spent d)
        (sequence k v first items) (sequence k' v first' items) := fun hm hitems =>
    (hsequence hL hitems (by omega) (by omega)).follows_mono (by omega)
  have hmore : ∀ {m item}, n = m + 1 → Joint L (Beside F F' w m) (Follows F F' w v n)
      (fun _ d => Spent d) (sequence k v first (item :: items))
      (sequence k' v first' (item :: items)) := fun hm =>
    hon hm fun _ => List.cons_ne_nil _ _
  rw [sequence, sequence]
  refine Related.peek_bind_some ?_
  cases l with
  | escaped c =>
      refine Related.take_bind _ fun m hm => (agree_itemEscape c).andThen fun item _ hitem => ?_
      exact hitem ▸ hmore hm
  | plain c =>
      dsimp only
      by_cases hstop : (c == '|' || c == ')') = true
      · rw [if_pos hstop, if_pos hstop]
        rintro d d' ⟨hd, hl⟩
        refine .results (.inl ⟨rfl, hd, fun hnil => ?_⟩)
        rw [hnil] at hl
        cases hl
      rw [if_neg hstop, if_neg hstop]
      refine Related.here_bind fun position position' => Related.take_bind _ fun m hm => ?_
      refine related_ite (hon hm hfirst) ?_
      by_cases hcomment : (v && c == '#') = true
      · rw [if_pos hcomment, if_pos hcomment]
        obtain rfl : v = true := (Bool.and_eq_true _ _ ▸ hcomment).1
        refine Related.get_bind fun s s' hs hle => ?_
        refine Joint.bind (joint_skipLine (Nat.lt_succ_self _) (Nat.lt_succ_of_le hs.length_le))
          (fun _ _ d d' hd => ?_) fun _ _ _ _ => False.elim
        rcases hd with hbeside | hended
        · exact hon hm hfirst (hbeside.mono hle)
        · exact joint_sequence_ended items hended
      · rw [if_neg hcomment, if_neg hcomment]
        refine related_ite (hmore hm) (related_ite (hmore hm) (related_ite (hmore hm) (related_ite
          ?_ (related_ite ?_ (related_ite ?_ (hmore hm))))))
        · exact agree_characterSet.andThen fun item _ hitem => hitem ▸ hmore hm
        · refine (agree_bounds c).andThen fun counts _ hcounts => ?_
          subst hcounts
          cases counts with
          | none => exact hmore hm
          | some counts =>
              refine (agree_repeatLast counts.1 counts.2 position position' items).andThen ?_
              exact fun _ _ hitems => hitems.1 ▸ hon hm fun _ => hitems.2
        · refine Joint.bind (hgroup (n := m) (by omega) (by omega)) (fun found found' => ?_)
            fun fault hfault found d hd => ?_
          · exact (hsequence.behindGroup hL hfirst (by omega) (by omega) _ _ _ _).follows_mono
              (by omega)
          · exact fates_of_lost (.refused hfault) (lost_behindGroup hfirst hd k' v position' found)

/-- A choice and the parenthesis that closes it. -/
theorem ChoicesAgree.closed (hchoice : ChoicesAgree F F' w k) (hk : 4 * n + 2 ≤ k)
    (hk' : 4 * n + 4 ≤ k') (opening opening' : Nat) (f : List Item → α) :
    Accord F F' w n Eq (fun _ d => Spent d)
      (choice false k v [] >>= fun body => close opening >>= fun _ => pure (f body))
      (choice false k' v [] >>= fun body => close opening' >>= fun _ => pure (f body)) := by
  refine Joint.enclosed (hchoice nofun nofun nofun nofun hk hk')
    (fun _ => (refusesAtEnd_close _).bind_left _)
    (fun _ => (closes_close _).bind_still fun _ => still_pure _) fun body => ?_
  exact (accord_close _ _).bind_eq (fun _ => accord_pure rfl) fun _ _ hd => lost_pure hd

/-- What a look-behind does behind its sign. -/
def lookBehindGroup (fuel : Nat) (verbose : Bool) (opening : Nat) (negated : Bool) :
    Reading Outcome := do
  let outer := (← get).lookBehind
  let first := outer.getD (← groups)
  modify fun s => { s with lookBehind := some first }
  let body ← choice false fuel verbose []
  modify fun s => { s with lookBehind := outer }
  close opening
  return .item (.look false negated body)

theorem ChoicesAgree.lookBehind (hchoice : ChoicesAgree F F' w k) (hk : 4 * n + 2 ≤ k)
    (hk' : 4 * n + 4 ≤ k') (opening opening' : Nat) (negated : Bool) :
    Accord F F' w n Eq (fun _ d => Spent d) (lookBehindGroup k v opening negated)
      (lookBehindGroup k' v opening' negated) := by
  refine Related.get_bind fun s s' hs hle => Accord.lower ?_ hle
  rw [hs.lookBehind]
  refine agree_groups.bind_eq fun groups => ?_
  refine (agree_modify fun c c' hc => hc.inLookBehind _).bind_eq fun _ => ?_
  refine Joint.enclosed (hchoice nofun nofun nofun nofun (by omega) (by omega))
    (fun _ => .modify_bind ((refusesAtEnd_close _).bind_left _) fun _ => rfl)
    (fun _ => .modify_bind ((closes_close _).bind_still fun _ => still_pure _) fun _ => rfl)
    fun body => ?_
  refine Agree.bind_eq (agree_modify fun c c' hc => hc.inLookBehind _) fun _ => ?_
  exact (accord_close _ _).bind_eq (fun _ => accord_pure rfl) fun _ _ hd => lost_pure hd

/-- What a condition does behind the group that it asks for. -/
def branches (fuel : Nat) (verbose : Bool) (opening number : Nat) : Reading Outcome := do
  let yes ← sequence fuel verbose false []
  if ← accept '|' then
    let no ← sequence fuel verbose false []
    if (← peek) == some (.plain '|') then failBack .tooManyBranches 0
    close opening
    return .item (.conditional number yes (some no))
  else
    close opening
    return .item (.conditional number yes none)

theorem SequencesAgree.branches (hsequence : SequencesAgree F F' w k) (hk : 4 * n + 1 ≤ k)
    (hk' : 4 * n + 3 ≤ k') (opening opening' number : Nat) :
    Accord F F' w n Eq (fun _ d => Spent d) (branches k v opening number)
      (branches k' v opening' number) := by
  have hclosed : ∀ {m : Nat} (item : Item), Accord F F' w m Eq (fun _ d => Spent d)
      (close opening >>= fun _ => pure (Outcome.item item))
      (close opening' >>= fun _ => pure (Outcome.item item)) := fun item =>
    (accord_close _ _).bind_eq (fun _ => accord_pure rfl) fun _ _ hd => lost_pure hd
  refine Joint.enclosed (hsequence nofun nofun hk hk')
    (fun yes => .accept_bind '|' ((refusesAtEnd_close _).bind_left _))
    (fun yes => .accept_bind (by decide) (closes_close_item _ _)) fun yes => ?_
  refine Accord.accept_bind (by decide) (by decide) (fun m hm => ?_) (hclosed _)
  refine Joint.enclosed (hsequence nofun nofun (by omega) (by omega))
    (fun no => .peek_bind ((refusesAtEnd_close _).bind_left _))
    (fun no => .peek_bind (by decide) (closes_close_item _ _)) fun no => ?_
  refine Related.peek_bind (by decide) (by decide) ?_ (hclosed _)
  exact related_of_refuses ((refuses_failBack _ _).bind_left _) ((refuses_failBack _ _).bind_left _)

theorem lost_branches (hc : Spent c) (k : Nat) (v : Bool) (opening number : Nat) :
    Lost (fun _ d => Spent d) ((branches k v opening number).run c) :=
  (lost_sequence hc _ _ _ _).bind fun _ d hd =>
    Closes.accept_bind (by decide) (closes_close_item _ _) d hd.beyond

/-- **A group**, by the character behind its question mark. -/
theorem GroupsAgree.succ (hsequence : SequencesAgree F F' w k) (hchoice : ChoicesAgree F F' w k)
    (hcapture : CapturesAgree F F' w k) : GroupsAgree F F' w (k + 1) := by
  intro k' n v opening opening' hk hk'
  obtain ⟨k', rfl⟩ := Nat.exists_eq_add_one.2 (Nat.zero_lt_of_lt hk')
  rw [group, group]
  refine Related.accept_bind (by decide) (by decide) (fun m hm => ?_) ?_
  · have hextension := fun (start : Text) (back : Nat) =>
      refuses_failBack (α := Outcome) (.unknownExtension start) back
    refine Related.next_bind (fun c c' hc => ?_) fun l m' hm' => ?_
    · exact fates_of_lost (refuses_failBack _ _ _) (hc.1.of_next_nil hc.2
        (refuses_failBack .unexpectedEnd 0).lost (hextension ['?', ')'] 2).lost
        (hextension ['?', '\n'] 2).lost)
    cases l with
    | escaped ch => exact related_failBack _ _ _ _
    | plain ch =>
        have hchoose : ∀ {v : Bool} (f : List Item → Outcome),
            Accord F F' w m' Eq (fun _ d => Spent d)
              (choice false k v [] >>= fun body => close opening >>= fun _ => pure (f body))
              (choice false k' v [] >>= fun body => close opening' >>= fun _ => pure (f body)) :=
          fun f => hchoice.closed (by omega) (by omega) opening opening' f
        dsimp only
        refine related_ite ?_ (related_ite ?_ (related_ite ?_ (related_ite ?_ (related_ite ?_
          (related_ite ?_ (related_ite ?_ (related_ite ?_ ?_)))))))
        · -- a name comes next, of a new group or of one before
          refine Accord.item (n := n) (Accord.accept_bind (by decide) (by decide)
            (fun m'' hm'' => ?_) ?_) (by omega)
          · refine Accord.bind_eq (accord_groupName (by decide) (by decide))
              (fun name => hcapture (by omega) (by omega)) ?_
            exact fun _ _ hd => absurd hd.1 (by decide)
          · refine Accord.accept_bind (by decide) (by decide) (fun m'' hm'' => ?_) ?_
            · exact accord_namedReference.bind_eq (fun item => accord_pure rfl)
                fun _ _ hd => lost_pure hd
            · exact Accord.next_bind (refuses_failBack _ _) (refuses_failBack .unexpectedEnd 0)
                (hextension ['?', 'P', ')'] 3) (hextension ['?', 'P', '\n'] 3)
                fun l _ _ => related_failBack _ _ _ _
        · exact (hchoose _).item (by omega)
        · -- a comment
          refine Accord.item (Accord.get_bind fun s s' hs => ?_) (by omega)
          exact (accord_skipComment _ _ (Nat.lt_succ_self _) hs.lt_fuel).bind_eq
            (fun _ => accord_pure rfl) fun _ _ hd => lost_pure hd
        · exact (hchoose _).item (by omega)
        · -- a look-behind
          refine Accord.item (Accord.next_bind (refuses_failBack _ _)
            (refuses_failBack .unexpectedEnd 0) (hextension ['?', '<', ')'] 3)
            (hextension ['?', '<', '\n'] 3) fun l m'' hm'' => ?_) (by omega)
          refine related_ite ?_ (related_failBack _ _ _ _)
          exact hchoice.lookBehind (by omega) (by omega) opening opening' _
        · -- a condition
          refine Accord.item (accord_condition.bind_eq (fun number => ?_) fun number d hd => ?_)
            (by omega)
          · exact hsequence.branches (by omega) (by omega) opening opening' number
          · exact lost_branches hd k' v opening' number
        · exact (hchoose _).item (by omega)
        · -- flags
          refine Joint.bind (joint_flagScope ch) (fun scope scope' c c' hc => ?_)
            fun fault hfault scope d hd => ?_
          · rcases hc with ⟨rfl, rfl⟩ | ⟨rfl, hbeside⟩
            · exact .results (.inl ⟨rfl, rfl⟩)
            · cases scope with
              | whole => exact .results (.inl ⟨rfl, rfl⟩)
              | group added removed => exact (hchoose _).item (by omega) hbeside
          · obtain ⟨rfl, hspent⟩ := hd
            exact .overrun hfault hspent
        · exact related_failBack _ _ _ _
  · exact Accord.item (hcapture (by omega) (by omega)) (Nat.le_refl n)

/-- Choices, and all that they are made of, are read the same. -/
theorem readers_agree (F F' : Flags) (w : Option Bool) (k : Nat) :
    SequencesAgree F F' w k ∧ ChoicesAgree F F' w k ∧ CapturesAgree F F' w k ∧
      GroupsAgree F F' w k := by
  induction k with
  | zero =>
      exact ⟨fun _ _ hk => by omega, fun _ _ _ _ hk => by omega, fun hk => by omega,
        fun hk => by omega⟩
  | succ k ih =>
      obtain ⟨hsequence, hchoice, hcapture, hgroup⟩ := ih
      exact ⟨hsequence.succ hgroup, ChoicesAgree.succ hsequence hchoice,
        CapturesAgree.succ hchoice, GroupsAgree.succ hsequence hchoice hcapture⟩

/-- **A pattern**, behind the flags at its start, is read the same as in a group.  If it sets no
others (`first = false`), no flags come too late. -/
theorem joint_pattern {l : Nat} {first : Bool} (hL : first = true → L) (hk : 4 * n + 1 ≤ k)
    (hl : 4 * n ≤ l + 2) (hk' : 4 * n + 4 ≤ k') :
    Joint L (Beside F F' w n) (Follows F F' w F.verbose n) (fun _ d => Spent d)
      (sequence k F.verbose first [] >>= choiceAfter true l F.verbose [])
      (choice false k' F.verbose []) := by
  obtain ⟨k', rfl⟩ := Nat.exists_eq_add_one.2 (Nat.zero_lt_of_lt hk')
  rw [choice_succ, Bool.false_and]
  refine Joint.bind ((readers_agree F F' w k).1 hL ?_ hk (by omega))
    (joint_choiceAfter (readers_agree F F' w l).2.1 (fun _ => rfl) ?_ hl (by omega) [])
    fun fault hfault b d hd => ?_
  · nofun
  · nofun
  · rw [run_choiceAfter_stop (lexeme?_ne_of_suffix (by decide) hd.beyond)]
    exact .overrun hfault hd

end UtilityCss.Pattern.Reading

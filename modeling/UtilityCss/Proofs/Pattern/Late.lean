import UtilityCss.Proofs.Pattern.Head

/-!
# Patterns — flags behind the start

A pattern that is read alone may set flags for itself behind its start, as long as only blanks,
comments and other flags stand before them.  Between anchors they come too late.  This matters where
the flags of a pattern alone are given to its anchored form: if comments were allowed from late
flags on, they would be allowed there from the start.

**A pattern that is read in a group, too, does not change the mode for comments**
(`Beside.verbose_of_run`).  Three facts lead to it.

* A reader beside itself keeps its flags (`Accord.kept`): all that is shown of two readers holds of
  a reader and itself, where nothing closes a group.
* So flags only change in a `Turn` at the start that adds no item (`Kept.of_run_sequence_first`).
* Such a turn is the same in both modes (`paired_group_silent`): the second reader comes to the
  flags, and fails (`paired_late`).
-/

namespace UtilityCss.Pattern.Reading

variable {F F' : Flags} {w : Option Bool} {v v' : Bool} {n m k k' l : Nat} {c c' d d' e : Cursor}
  {α β : Type} {tail : Text}

/-! ### A reader beside itself -/

/-- The flags are those given, and there are at most `n` characters left. -/
structure Kept (F : Flags) (n : Nat) (c : Cursor) : Prop where
  flags : c.flags = F
  whole : c.rest ≠ ['\\']
  length : c.rest.length ≤ n

theorem Kept.beside (h : Kept F n c) : Beside F F none n c c :=
  ⟨⟨h.flags, h.flags, rfl, rfl, rfl, rfl⟩, (List.append_nil _).symm, h.whole, h.length⟩

theorem Beside.kept (h : Beside F F' w n c c') : Kept F n c :=
  ⟨h.flags, h.whole, h.length⟩

theorem Kept.mono (h : Kept F m c) (hle : m ≤ n) : Kept F n c :=
  ⟨h.flags, h.whole, Nat.le_trans h.length hle⟩

/-- A reader that agrees with itself keeps the flags. -/
theorem Accord.kept {R : α → α → Prop} {E : α → Cursor → Prop} {r : Reading α}
    (h : Accord F F none n R E r r) (hc : Kept F n c) {a : α} (hrun : r.run c = .ok (a, d)) :
    R a a ∧ Kept F n d :=
  (h.paired hc.beside hrun hrun).imp_right Beside.kept

theorem Follows.kept {a b : α} (h : Follows F F' none v n a d b d') : Kept F n d := by
  rcases h with ⟨-, hbeside, -⟩ | ⟨hended, -⟩
  · exact hbeside.kept
  · exact absurd rfl hended.wrapped

theorem Kept.advance (hc : Kept F n c) {l : Lexeme} (hl : lexeme? c.rest = some l)
    (hwhole : c.rest.drop l.text.length ≠ ['\\']) :
    ∃ m, n = m + 1 ∧ Kept F m { c with rest := c.rest.drop l.text.length } := by
  obtain ⟨m, hm, hbeside⟩ := hc.beside.advance hl hwhole
  exact ⟨m, hm, hbeside.kept⟩

theorem Kept.of_run_skipLine (hc : Kept F n c) {u : Unit}
    (h : (skipLine (c.rest.length + 1)).run c = .ok (u, d)) : Kept F n d := by
  have hexact : Kept F c.rest.length c := ⟨hc.flags, hc.whole, Nat.le_refl _⟩
  have hk := Nat.lt_succ_self c.rest.length
  rcases (joint_skipLine hk hk).paired hexact.beside h h with hbeside | hended
  · exact hbeside.kept.mono hc.length
  · exact absurd rfl hended.wrapped

/-! ### Groups without an item -/

/-- What the reader gives has a property. -/
def Yields (p : α → Prop) (r : Reading α) : Prop :=
  ∀ ⦃c a d⦄, r.run c = .ok (a, d) → p a

theorem yields_pure {p : α → Prop} {a : α} (h : p a) : Yields p (pure a) := by
  intro c b d hrun
  obtain ⟨rfl, -⟩ := run_pure_eq_ok.1 hrun
  exact h

theorem yields_of_fails {p : α → Prop} {r : Reading α} (h : Fails r) : Yields p r :=
  fun c a d hrun => absurd hrun (h c (a, d))

theorem Yields.bind {p : α → Prop} {r : Reading β} {f : β → Reading α}
    (h : ∀ b, Yields p (f b)) : Yields p (r >>= f) := by
  intro c a d hrun
  obtain ⟨b, e, -, hnext⟩ := run_bind_eq_ok.1 hrun
  exact h b hnext

theorem yields_ite {p : α → Prop} {q : Prop} [Decidable q] {r s : Reading α} (hthen : Yields p r)
    (helse : Yields p s) : Yields p (if q then r else s) := by
  split
  · exact hthen
  · exact helse

theorem yields_scopeOf {added : Flags} {stop : Char} (hstop : stop ≠ ')') (k : Nat) :
    Yields (· ≠ .whole) (scopeOf added stop k) := by
  rw [scopeOf]
  dsimp only
  rw [if_neg (by simpa using hstop)]
  refine yields_ite (yields_of_fails (.bind_left (fails_failBack _ _) _)) (.bind fun removed => ?_)
  refine yields_ite (yields_of_fails (.bind_left (fails_failBack _ _) _)) ?_
  exact yields_ite (yields_of_fails (.bind_left (fails_failBack _ _) _)) (yields_pure (by simp))

/-- Flags for the whole pattern are added to those in force. -/
theorem Kept.of_run_flagScope (hc : Kept F n c) {x : Char}
    (h : (flagScope x).run c = .ok (.whole, d)) : ∃ added, Kept (F.union added) n d := by
  rw [flagScope_eq, run_get_bind] at h
  obtain ⟨⟨added, stop⟩, e, hplus, hscope⟩ := run_bind_eq_ok.1 h
  have hk := Nat.lt_succ_self c.rest.length
  obtain ⟨-, he⟩ :=
    (accord_plusFlags x hk hk).kept ⟨hc.flags, hc.whole, Nat.le_refl _⟩ hplus
  by_cases hstop : stop = ')'
  · rw [scopeOf, if_pos (by simpa using hstop)] at hscope
    obtain ⟨u, e', hmodify, hpure⟩ := run_bind_eq_ok.1 hscope
    obtain rfl := run_modify_eq_ok.1 hmodify
    obtain ⟨-, rfl⟩ := run_pure_eq_ok.1 hpure
    exact ⟨added, congrArg (·.union added) he.flags, he.whole, Nat.le_trans he.length hc.length⟩
  · exact absurd rfl (yields_scopeOf hstop _ hscope)

/-- What two readers of a group come to in whatever modes, if the first one does not find an item:
the same, and where it is flags for the whole pattern, these are added. -/
inductive Silent (F F' : Flags) (w : Option Bool) (n : Nat) :
    Outcome → Cursor → Outcome → Cursor → Prop
  | item {item : Item} {outcome : Outcome} {d d' : Cursor} :
      Silent F F' w n (.item item) d outcome d'
  | nothing {d d' : Cursor} (h : Beside F F' w n d d') : Silent F F' w n .nothing d .nothing d'
  | flags {added : Flags} {d d' : Cursor} (h : Kept (F.union added) n d) :
      Silent F F' w n .flags d .flags d'

theorem paired_of_yields {P : Cursor → Cursor → Prop} {r r' : Reading Outcome}
    (h : Yields (∃ item, · = .item item) r) : Paired P (Silent F F' w n) r r' := by
  intro c c' _ a d b d' hrun _
  obtain ⟨item, rfl⟩ := h hrun
  exact .item

variable [Names]

theorem yields_capture (v : Bool) (opening : Nat) (name : Option Text) :
    Yields (∃ item, · = .item item) (capture (k + 1) v opening name) := by
  rw [capture]
  exact .bind fun _ => .bind fun _ => .bind fun _ => .bind fun _ => yields_pure ⟨_, rfl⟩

/-- Outside of items, the mode of a group does not matter. -/
theorem paired_group_silent (opening opening' : Nat) :
    Paired (Beside F F' w n) (Silent F F' w n) (group (k + 2) v opening)
      (group (k' + 1) v' opening') := by
  rw [group, group]
  refine Related.accept_bind (by decide) (by decide) (fun m hm => ?_)
    (paired_of_yields (yields_capture _ _ _))
  refine Related.next_bind (fun c c' _ => ?_) fun l m' hm' => ?_
  · exact fun _ _ _ _ hrun => absurd hrun (fails_failBack _ _ _ _)
  cases l with
  | escaped ch => exact paired_of_fails (fails_failBack _ _)
  | plain ch =>
      have hitem : ∀ {v : Bool} (f : List Item → Item), Yields (∃ item, · = .item item)
          (choice false (k + 1) v [] >>= fun body => close opening >>= fun _ =>
            pure (.item (f body)) : Reading Outcome) := fun f =>
        .bind fun _ => .bind fun _ => yields_pure ⟨_, rfl⟩
      dsimp only
      refine related_ite ?_ (related_ite ?_ (related_ite ?_ (related_ite ?_ (related_ite ?_
        (related_ite ?_ (related_ite ?_ (related_ite ?_ ?_)))))))
      · -- a name comes next
        refine paired_of_yields (.bind fun _ => yields_ite (.bind fun _ => yields_capture _ _ _)
          (.bind fun _ => yields_ite (.bind fun _ => yields_pure ⟨_, rfl⟩) (.bind fun l => ?_)))
        cases l <;> exact yields_of_fails (fails_failBack _ _)
      · exact paired_of_yields (hitem fun body => .group none {} {} body)
      · -- a comment
        refine Related.get_bind fun s s' hs hle => ?_
        refine (accord_skipComment _ _ (Nat.lt_succ_self _) hs.lt_fuel).paired.bind fun _ _ => ?_
        exact paired_pure fun d d' hd => .nothing (hd.2.mono (by omega))
      · exact paired_of_yields (hitem fun body => .look true (ch == '!') body)
      · -- a look-behind
        refine paired_of_yields (.bind fun l => ?_)
        cases l with
        | none => exact yields_of_fails (fails_failBack _ _)
        | some l =>
            refine yields_ite (.bind fun _ => .bind fun _ => .bind fun _ => .bind fun _ =>
              .bind fun _ => .bind fun _ => yields_pure ⟨_, rfl⟩)
              (yields_of_fails (fails_failBack _ _))
      · -- a condition
        refine paired_of_yields (.bind fun _ => .bind fun _ => .bind fun _ => yields_ite
          (.bind fun _ => .bind fun _ => yields_ite
            (yields_of_fails (.bind_left (fails_failBack _ _) _))
            (.bind fun _ => yields_pure ⟨_, rfl⟩))
          (.bind fun _ => yields_pure ⟨_, rfl⟩))
      · exact paired_of_yields (hitem fun body => .atomic body)
      · -- flags
        intro c c' hc a d b d' hrun hrun'
        obtain ⟨scope, e, hscope, hnext⟩ := run_bind_eq_ok.1 hrun
        obtain ⟨scope', e', hscope', hnext'⟩ := run_bind_eq_ok.1 hrun'
        cases scope with
        | group added removed =>
            obtain ⟨item, rfl⟩ := hitem (fun body => .group none added removed body) hnext
            exact .item
        | whole =>
            obtain ⟨rfl, rfl⟩ := run_pure_eq_ok.1 hnext
            obtain ⟨added, hkept⟩ := (hc.kept.mono (by omega : m' ≤ n)).of_run_flagScope hscope
            have hwhole : scope' = .whole := by
              rcases (joint_flagScope ch).paired hc hscope hscope' with ⟨-, h⟩ | ⟨h, -⟩
              · exact h
              · exact h.symm
            subst hwhole
            obtain ⟨rfl, rfl⟩ := run_pure_eq_ok.1 hnext'
            exact .flags hkept
      · exact paired_of_fails (fails_failBack _ _)

/-! ### The start of a pattern -/

/-- Behind an item, flags for the whole pattern are not taken. -/
theorem Kept.of_run_sequence (hc : Kept F n c) (hk : 4 * n + 3 ≤ k) {first : Bool}
    {items a : List Item} (hitems : items ≠ [])
    (h : (sequence k v first items).run c = .ok (a, d)) : Kept F n d :=
  (((readers_agree F F none k).1 (fun _ => trivial) (fun _ => hitems) (by omega) hk).paired
    hc.beside h h).kept

theorem Kept.of_run_group (hc : Kept F n c) {opening : Nat} {outcome : Outcome}
    (h : (group k v opening).run c = .ok (outcome, d)) (hk : 4 * n + 6 ≤ k)
    (hflags : outcome ≠ .flags) : Kept F n d := by
  rcases ((readers_agree F F none k).2.2.2 (by omega) hk).paired hc.beside h h with
    ⟨heq, -⟩ | ⟨-, hbeside⟩
  · exact absurd heq hflags
  · exact hbeside.kept

/-- Behind a sequence, flags for the whole pattern are not taken. -/
theorem Kept.of_run_choiceAfter (hc : Kept F n c) (hl : 4 * n ≤ l) {items a : List Item}
    (h : (choiceAfter true l F.verbose [] items).run c = .ok (a, d)) : Kept F n d :=
  ((joint_choiceAfter (L := False) (readers_agree F F none l).2.1 (fun _ => rfl) (fun _ => rfl)
    (by omega) hl [] items items).paired (.inl ⟨rfl, hc.beside, fun _ => nofun⟩) h h).kept

/-- A turn at the start of a pattern that adds no item, and the mode and the cursor behind it: a
blank or a comment is skipped, or a group without an item is read. -/
inductive Turn (F : Flags) (k m : Nat) (v : Bool) (c : Cursor) : Bool → Cursor → Prop
  | skip {e : Cursor} (hv : v = true) (he : Kept F m e) : Turn F k m v c v e
  | nothing {tail : Text} {position : Nat} {e : Cursor} (hrest : c.rest = '(' :: tail)
      (htail : Kept F m { c with rest := tail })
      (hrun : (group k v position).run { c with rest := tail } = .ok (.nothing, e)) :
      Turn F k m v c v e
  | flags {tail : Text} {position : Nat} {e : Cursor} (hrest : c.rest = '(' :: tail)
      (htail : Kept F m { c with rest := tail })
      (hrun : (group k v position).run { c with rest := tail } = .ok (.flags, e)) :
      Turn F k m v c e.flags.verbose e

/-- A pattern starts with a turn that adds no item, or the flags are kept. -/
theorem Kept.of_run_sequence_first (hc : Kept F n c) (hk : 4 * n + 2 ≤ k) {a : List Item}
    (h : (sequence (k + 1) v true []).run c = .ok (a, d)) :
    Kept F n d ∨ ∃ m v₁ e, n = m + 1 ∧ Turn F k m v c v₁ e ∧
      (sequence k v₁ true []).run e = .ok (a, d) := by
  rw [sequence, run_peek_bind] at h
  have hitem : ∀ {m e item}, n = m + 1 → Kept F m e →
      (sequence k v true [item]).run e = .ok (a, d) → Kept F n d := fun hm he hrun =>
    (he.of_run_sequence (by omega) (List.cons_ne_nil _ _) hrun).mono (by omega)
  cases hl : lexeme? c.rest with
  | none =>
      rw [hl] at h
      obtain ⟨-, rfl⟩ := run_pure_eq_ok.1 h
      exact .inl hc
  | some l =>
      rw [hl] at h
      cases l with
      | escaped ch =>
          obtain ⟨hwhole, h⟩ := of_run_next_some hl h
          obtain ⟨m, hm, he⟩ := hc.advance hl hwhole
          obtain ⟨item, e', hescape, h⟩ := run_bind_eq_ok.1 h
          exact .inl (hitem hm ((agree_itemEscape ch).kept he hescape).2 h)
      | plain ch =>
          dsimp only at h
          by_cases hstop : (ch == '|' || ch == ')') = true
          · rw [if_pos hstop] at h
            obtain ⟨-, rfl⟩ := run_pure_eq_ok.1 h
            exact .inl hc
          rw [if_neg hstop, run_here_bind] at h
          obtain ⟨hwhole, h⟩ := of_run_next_some hl h
          obtain ⟨m, hm, he⟩ := hc.advance hl hwhole
          by_cases hblank : (v && isSkipped ch) = true
          · rw [if_pos hblank] at h
            exact .inr ⟨m, v, _, hm, .skip (Bool.and_eq_true _ _ ▸ hblank).1 he, h⟩
          rw [if_neg hblank] at h
          by_cases hcomment : (v && ch == '#') = true
          · rw [if_pos hcomment, run_get_bind] at h
            obtain ⟨u, e', hskip, h⟩ := run_bind_eq_ok.1 h
            exact .inr ⟨m, v, e', hm, .skip (Bool.and_eq_true _ _ ▸ hcomment).1
              (he.of_run_skipLine hskip), h⟩
          rw [if_neg hcomment] at h
          by_cases hany : (ch == '.') = true
          · rw [if_pos hany] at h
            exact .inl (hitem hm he h)
          rw [if_neg hany] at h
          by_cases hstart : (ch == '^') = true
          · rw [if_pos hstart] at h
            exact .inl (hitem hm he h)
          rw [if_neg hstart] at h
          by_cases hfinish : (ch == '$') = true
          · rw [if_pos hfinish] at h
            exact .inl (hitem hm he h)
          rw [if_neg hfinish] at h
          by_cases hset : (ch == '[') = true
          · rw [if_pos hset] at h
            obtain ⟨item, e', hread, h⟩ := run_bind_eq_ok.1 h
            exact .inl (hitem hm (agree_characterSet.kept he hread).2 h)
          rw [if_neg hset] at h
          by_cases hrepeat : (ch == '*' || ch == '+' || ch == '?' || ch.toNat == 123) = true
          · rw [if_pos hrepeat] at h
            obtain ⟨counts, e', hread, h⟩ := run_bind_eq_ok.1 h
            cases counts with
            | none => exact .inl (hitem hm ((agree_bounds ch).kept he hread).2 h)
            | some counts => exact absurd h (Fails.bind_left (fails_failAt _ _) _ _ _)
          rw [if_neg hrepeat] at h
          by_cases hopen : (ch == '(') = true
          · rw [if_pos hopen] at h
            obtain ⟨outcome, e', hgroup, h⟩ := run_bind_eq_ok.1 h
            obtain rfl : ch = '(' := eq_of_beq hopen
            have hrest := (lexeme?_eq_some hl hc.whole).1
            cases outcome with
            | item item =>
                exact .inl (hitem hm (he.of_run_group hgroup (by omega) (by simp)) h)
            | nothing => exact .inr ⟨m, v, e', hm, .nothing hrest he hgroup, h⟩
            | flags => exact .inr ⟨m, _, e', hm, .flags hrest he hgroup, h⟩
          rw [if_neg hopen] at h
          exact .inl (hitem hm he h)

/-- Comments stay allowed, once they are. -/
theorem Kept.verbose_of_run (hc : Kept F n c) (hverbose : F.verbose = true) (hk : 4 * n + 3 ≤ k)
    {a : List Item} (h : (sequence k v true []).run c = .ok (a, d)) :
    ∃ G : Flags, G.verbose = true ∧ Kept G n d := by
  induction k generalizing F n v c with
  | zero => omega
  | succ k ih =>
      rcases hc.of_run_sequence_first (by omega) h with hkept | ⟨m, v₁, e, rfl, hturn, hrun⟩
      · exact ⟨F, hverbose, hkept⟩
      have hmono : ∀ {F : Flags}, F.verbose = true → Kept F m e →
          ∃ G : Flags, G.verbose = true ∧ Kept G (m + 1) d := by
        intro F hverbose he
        obtain ⟨G, hG, hd⟩ := ih he hverbose (by omega) hrun
        exact ⟨G, hG, hd.mono (Nat.le_succ m)⟩
      cases hturn with
      | skip _ he => exact hmono hverbose he
      | nothing _ htail hgroup =>
          exact hmono hverbose (htail.of_run_group hgroup (by omega) (by simp))
      | flags _ htail hgroup =>
          obtain ⟨k, rfl⟩ : ∃ l, k = l + 2 := ⟨k - 2, by omega⟩
          cases paired_group_silent _ _ htail.beside hgroup hgroup with
          | flags he => exact hmono (by rw [Flags.union, hverbose]; rfl) he

/-- **Late flags**: where the first reader, in a mode without comments, takes flags for the whole
pattern, the second one, which does not take them, fails in whatever mode. -/
theorem paired_late (hk : 4 * n + 3 ≤ k) (hk' : 4 * n + 3 ≤ k') :
    Paired (Beside F F' w n) (fun _ d _ _ => Kept F n d) (sequence k false true [])
      (sequence k' v' false []) := by
  induction k generalizing n k' with
  | zero => omega
  | succ k ih =>
      intro c c' hc a d b d' hrun hrun'
      rcases hc.kept.of_run_sequence_first (by omega) hrun with hkept | ⟨m, v₁, e, rfl, hturn, hrun⟩
      · exact hkept
      obtain ⟨k, rfl⟩ : ∃ l, k = l + 2 := ⟨k - 2, by omega⟩
      obtain ⟨k', rfl⟩ : ∃ l, k' = l + 2 := ⟨k' - 2, by omega⟩
      -- the second reader takes what opens the group, too
      have hopen : ∀ {tail : Text} {position : Nat} {outcome : Outcome}, c.rest = '(' :: tail →
          Kept F m { c with rest := tail } →
          (group (k + 2) false position).run { c with rest := tail } = .ok (outcome, e) →
          ∃ outcome' e', Silent F F' w m outcome e outcome' e' ∧ outcome' ≠ .flags ∧
            (outcome' = .nothing → (sequence (k' + 1) v' false []).run e' = .ok (b, d')) := by
        intro tail position outcome hrest htail hgroup
        have hrest' : c'.rest = '(' :: (tail ++ behind w) := by
          rw [hc.rest, hrest]
          rfl
        have hbeside : Beside F F' w m { c with rest := tail }
            { c' with rest := tail ++ behind w } :=
          ⟨⟨hc.flags, hc.flags', hc.widths, hc.names, hc.lookBehind, hc.conditions⟩, rfl,
            htail.whole, htail.length⟩
        obtain ⟨position', outcome', e', hgroup', hrun'⟩ := of_run_sequence_open hrest' hrun'
        refine ⟨outcome', e', paired_group_silent _ _ hbeside hgroup hgroup', ?_, ?_⟩
        · rintro rfl
          exact absurd hrun'.1 Bool.false_ne_true
        · rintro rfl
          exact hrun'
      cases hturn with
      | skip hv _ => cases hv
      | nothing hrest htail hgroup =>
          obtain ⟨outcome', e', hsilent, -, hnext⟩ := hopen hrest htail hgroup
          cases hsilent with
          | nothing hbeside =>
              exact (ih (by omega) (by omega) hbeside hrun (hnext rfl)).mono (Nat.le_succ m)
      | flags hrest htail hgroup =>
          obtain ⟨outcome', e', hsilent, hflags, -⟩ := hopen hrest htail hgroup
          cases hsilent with
          | flags => exact absurd rfl hflags

/-- A pattern that is read in a group, too, does not change whether comments are allowed behind the
flags at its start. -/
theorem Beside.verbose_of_run (hc : Beside F F' w n c c') (hk : 4 * n + 3 ≤ k) (hl : 4 * n ≤ l)
    (hk' : 4 * n + 4 ≤ k') {a b : List Item}
    (hrun : (sequence k F.verbose true [] >>= choiceAfter true l F.verbose []).run c = .ok (a, d))
    (hrun' : (choice false k' v' []).run c' = .ok (b, d')) : d.flags.verbose = F.verbose := by
  obtain ⟨items, e, hsequence, hafter⟩ := run_bind_eq_ok.1 hrun
  cases hverbose : F.verbose with
  | false =>
      obtain ⟨k', rfl⟩ := Nat.exists_eq_add_one.2 (Nat.zero_lt_of_lt hk')
      rw [choice_succ] at hrun'
      obtain ⟨items', e', hsequence', -⟩ := run_bind_eq_ok.1 hrun'
      rw [hverbose] at hsequence
      have he := paired_late hk (by omega) hc hsequence hsequence'
      rw [(he.of_run_choiceAfter hl hafter).flags, hverbose]
  | true =>
      obtain ⟨G, hG, he⟩ := hc.kept.verbose_of_run hverbose hk hsequence
      have hsame : (choiceAfter true l G.verbose [] items).run e = .ok (a, d) := by
        rw [hverbose] at hafter
        rwa [hG]
      rw [(he.of_run_choiceAfter hl hsame).flags, hG]

end UtilityCss.Pattern.Reading

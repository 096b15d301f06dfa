import UtilityCss.Platform.Plain
import UtilityCss.Proofs.Pattern.Anchoring
import UtilityCss.Proofs.Pattern.Preamble

/-!
# Patterns — refusal

The pattern of a rule is refused where it is malformed between its anchors.  What is said of it
alone is something else: a pattern that has no place in a group may be one alone, and the other way
around.

**What is refused** (`ofRule_refused_iff`).  Let a pattern have no closing parenthesis too many and
no backslash at its end.  It is refused if it is malformed alone, or if it sets flags for itself
behind those at its start (`hasLateFlags`), and otherwise it is not.  With a closing parenthesis too
many, such as `a)|(b` has, a pattern may close the group that it is put in and open another one
(`not_always_refused`).

* `anchored_whole`: the two readers of a pattern go the same way to its end, unless flags come too
  late for the second one (`refused_anchored`).
* `problem?_anchored`: what is checked of the items is the same for both.
-/

namespace UtilityCss.Pattern

/-- What is wrong with a pattern that is malformed. -/
def problem? : Except Fault Pattern → Option Problem
  | .error (.malformed problem _) => some problem
  | _ => none

/-! ### What is checked of the items -/

theorem problemIn?_append (f : Flags) (items more : List Item) :
    problemIn? f (items ++ more) = (problemIn? f items).or (problemIn? f more) := by
  induction items with
  | nil => rw [List.nil_append, problemIn?, Option.none_or]
  | cons item items ih => rw [List.cons_append, problemIn?, problemIn?, ih, Option.or_assoc]

/-- The places have no problem. -/
theorem problemIn?_anchored (f : Flags) (items : List Item) :
    problemIn? f (.place .start :: items ++ [.place .finish]) = problemIn? f items := by
  rw [List.cons_append, problemIn?, problemIn?_append]
  simp [Item.problem?, problemIn?]

theorem problem?_error_isSome {fault : Fault} :
    (problem? (.error fault)).isSome ↔ fault.Malformed := by
  cases fault with
  | malformed problem place => exact ⟨fun _ => Fault.malformed_malformed _ _, fun _ => rfl⟩
  | _ =>
      constructor
      · intro h
        cases h
      · rintro ⟨_, _, h⟩
        cases h

namespace Reading

variable {L : Prop} {F : Flags} {k l n : Nat} {v first : Bool} {c c' d : Cursor}
  {a b items : List Item} {position : Nat} {tail : Text}

/-! ### The end of a pattern -/

theorem run_finalFlags {f : Flags} (hf : f.mixed = false) :
    (finalFlags f).run c = .ok (f.resolved, c) := by
  rw [finalFlags, Flags.resolved]
  rw [Flags.mixed, Bool.and_eq_false_iff] at hf
  rcases hf with hascii | hunicode
  · rw [hascii]
    rfl
  · rw [hunicode]
    cases f.ascii <;> rfl

/-- At the end of the text, the conditions are checked. -/
theorem run_conclude_nil (hnil : c.rest = []) (hflags : c.flags.mixed = false) (items : List Item) :
    (conclude items).run c =
      (checkConditions (c.widths.size + 1) c.conditions.reverse >>= fun _ =>
        pure (c.flags.resolved, c.widths.size, items)).run c := by
  rw [conclude, run_get_bind, run_bind_ok (run_finalFlags hflags), run_peek_bind, hnil]
  rfl

/-- Before the end of the text, there is a closing parenthesis too many. -/
theorem run_conclude_cons (hrest : c.rest ≠ []) (hflags : c.flags.mixed = false)
    (items : List Item) :
    ∃ place, (conclude items).run c = .error (.malformed .unbalanced place) := by
  obtain ⟨lexeme, hlexeme⟩ := Option.ne_none_iff_exists'.1 (mt lexeme?_eq_none.1 hrest)
  rw [conclude, run_get_bind, run_bind_ok (run_finalFlags hflags), run_peek_bind, hlexeme]
  exact ⟨_, rfl⟩

/-- Conditions that ask for the same groups are checked alike. -/
theorem joint_checkConditions (total : Nat) {conditions conditions' : List (Nat × Nat)}
    (h : conditions'.map Prod.fst = conditions.map Prod.fst) (P : Cursor → Cursor → Prop) :
    Joint False P (fun _ d _ d' => P d d') (fun _ _ => False) (checkConditions total conditions)
      (checkConditions total conditions') := by
  induction conditions generalizing conditions' with
  | nil =>
      obtain rfl := List.map_eq_nil_iff.1 h
      exact joint_pure fun _ _ => id
  | cons condition conditions ih =>
      obtain ⟨condition', conditions', rfl, hnumber, htail⟩ := List.map_eq_cons_iff.1 h
      obtain ⟨number, place⟩ := condition
      obtain ⟨number', place'⟩ := condition'
      obtain rfl : number' = number := hnumber
      rw [checkConditions, checkConditions]
      refine related_ite ?_ (ih htail)
      exact related_of_refuses ((refuses_failAt _ _).bind_left _) ((refuses_failAt _ _).bind_left _)

/-! ### Between anchors -/

/-- What the readers of a pattern come to, alone and between anchors.  Alone it has a closing
parenthesis too many, or they go the same way, and the items stand between the two places. -/
def Anchored (L : Prop) (x y : Run (Flags × Nat × List Item)) : Prop :=
  (∃ place, x = .error (.malformed .unbalanced place)) ∨
    Fates L (fun a _ b _ => b = (a.1, a.2.1, .place .start :: a.2.2 ++ [.place .finish]))
      (fun _ _ => False) x y

instance (L : Prop) : Lenient (Anchored L) where
  faults h := .inr (.faults h)
  dangling := .inr .dangling

instance (L : Prop) : Excuses L (Anchored L) where
  late h := .inr (.late h)

variable [Names]

/-- What is done with a pattern between anchors, behind the group that it is put in. -/
def concludeAnchored (k l : Nat) (v first : Bool) (position : Nat) (body : List Item) :
    Reading (Flags × Nat × List Item) :=
  (behindPattern k v first position body >>= choiceAfter true l v []) >>= conclude

/-- Where the pattern ends, both readers come to the end of theirs. -/
theorem anchored_conclude (hF : F.mixed = false) (h : Follows F F (some v) v n a c b c') :
    Anchored L ((conclude a).run c) ((concludeAnchored (k + 1) l v first position b).run c') := by
  by_cases hnil : c.rest = []
  · obtain ⟨rfl, hrest, halike⟩ := h.closed hnil
    have hitems : (concludeAnchored (k + 1) l v first position a).run c' =
        (conclude (.place .start :: a ++ [.place .finish])).run { c' with rest := [] } := by
      rw [concludeAnchored, bind_assoc, run_bind_ok (run_behindPattern hrest _ _ _ _ _),
        run_bind_ok (run_choiceAfter_stop (by nofun) _ _ _ _ _)]
      rfl
    have hflags' : ({ c' with rest := [] } : Cursor).flags = F := halike.flags'
    rw [hitems, run_conclude_nil hnil (by rwa [halike.flags]),
      run_conclude_nil rfl (by rwa [hflags']), hflags', halike.flags]
    dsimp only
    rw [halike.widths]
    refine .inr (Joint.bind (joint_checkConditions _ ?_ fun _ _ => True)
      (fun _ _ => joint_pure fun _ _ _ => rfl) (fun _ _ _ _ => False.elim) trivial)
    rw [List.map_reverse, List.map_reverse, halike.conditions]
  · rcases h with ⟨-, hbeside, -⟩ | ⟨hended, -⟩
    · exact .inl (run_conclude_cons hnil (by rwa [hbeside.flags]) a)
    · exact absurd hended.nil hnil

/-- Where the parenthesis that closes the group has been taken, the pattern is malformed. -/
theorem refused_concludeAnchored (hd : Spent d) :
    Refused ((concludeAnchored k l v first position b).run d) := by
  have hclose : Refused ((close position).run d) := by
    have hne : lexeme? d.rest ≠ some (.plain ')') := by
      rcases List.suffix_cons_iff.1 hd with hrest | hrest
      · rw [hrest]
        decide
      · rw [List.suffix_nil.1 hrest]
        nofun
    rw [close, run_accept_false hne]
    exact refuses_failAt _ _ d
  rw [concludeAnchored, behindPattern, bind_assoc, bind_assoc]
  exact hclose.bind

/-- A pattern between anchors is a choice, and what is done behind it. -/
theorem run_anchors (hrest : c.rest = '^' :: '(' :: '?' :: ':' :: tail) (hwhole : tail ≠ ['\\'])
    (k l : Nat) (v : Bool) :
    ∃ position,
      ((sequence (k + 3) v true [] >>= choiceAfter true l v []) >>= conclude).run c =
        (choice false k v [] >>= concludeAnchored (k + 1) l v true position).run
          { c with rest := tail } := by
  obtain ⟨position, hanchors⟩ := run_sequence_anchors hrest hwhole k v true
  refine ⟨position, (run_bind_congr (run_bind_congr hanchors _) _).trans ?_⟩
  rw [bind_assoc, bind_assoc]
  refine congrArg (fun r => StateT.run r _) (bind_congr fun body => ?_)
  rw [concludeAnchored, bind_assoc]

/-- Behind the flags at its start, a pattern is read to its end the same alone and in a group. -/
theorem anchored_body (hF : F.mixed = false) {body : Text}
    (hL : setsFlags F.verbose none body = true → L) (hk : 4 * body.length + 3 ≤ k)
    (hl : 4 * body.length ≤ l + 2) (hn : 4 * body.length + 4 ≤ n) (m total total' position : Nat) :
    Anchored L
      ((moveTo body >>= fun _ => (sequence k F.verbose true [] >>=
        choiceAfter true l F.verbose []) >>= conclude).run (opening total body F))
      ((choice false n F.verbose [] >>= concludeAnchored (n + 1) m F.verbose true position).run
        (opening total' (body ++ closing F.verbose) F)) := by
  by_cases hwhole : body = ['\\']
  · subst hwhole
    exact Lenient.dangling
  rw [run_bind_ok (run_moveTo hwhole)]
  -- without late flags, the start of the pattern is no special place
  obtain ⟨first, hfirst, hsequence⟩ : ∃ first : Bool, (first = true → L) ∧
      (sequence k F.verbose true []).run { opening total body F with rest := body } =
        (sequence k F.verbose first []).run { opening total body F with rest := body } := by
    by_cases hflags : setsFlags F.verbose none body = true
    · exact ⟨true, fun _ => hL hflags, rfl⟩
    · refine ⟨false, nofun, run_sequence_first fun _ => ⟨Bool.eq_false_iff.2 hflags, ?_⟩⟩
      change body.length + 2 ≤ k
      omega
  rw [run_bind_congr (run_bind_congr hsequence _)]
  refine Joint.bind (joint_pattern hfirst (by omega) hl hn)
    (fun a b c c' hc => anchored_conclude hF hc) (fun fault hfault b d hd => ?_)
    ⟨⟨rfl, rfl, rfl, rfl, rfl, rfl⟩, rfl, hwhole, Nat.le_refl _⟩
  exact Lenient.of_refused (.refused hfault) (refused_concludeAnchored hd)

/-- The text of a pattern is read behind the flags at its start, alone and between anchors, or these
are refused in both. -/
theorem whole_anchors (source : Text) :
    (Refused (whole.run (opening source.length source {})) ∧ Refused
        (whole.run (opening (anchoredText source {}).length (anchoredText source {}) {}))) ∨
      ∃ (F : Flags) (k l n m position : Nat), F.mixed = false ∧
        F.verbose = (splitHead source).1.contains 'x' ∧
        4 * (splitHead source).2.length + 3 ≤ k ∧ 4 * (splitHead source).2.length ≤ l + 2 ∧
        4 * (splitHead source).2.length + 4 ≤ n ∧
        whole.run (opening source.length source {}) =
          (moveTo (splitHead source).2 >>= fun _ => (sequence k F.verbose true [] >>=
            choiceAfter true l F.verbose []) >>= conclude).run
              (opening source.length (splitHead source).2 F) ∧
        whole.run (opening (anchoredText source {}).length (anchoredText source {}) {}) =
          (choice false n F.verbose [] >>= concludeAnchored (n + 1) m F.verbose true position).run
            (opening (anchoredText source {}).length
              ((splitHead source).2 ++ closing F.verbose) F) := by
  obtain ⟨added, hhead, hsource⟩ := splitHead_spec source
  have hanchored := anchoredText_eq source {} hhead
  generalize (splitHead source).1 = head at hhead hsource hanchored ⊢
  generalize (splitHead source).2 = body at hsource hanchored ⊢
  rw [hanchored, hsource]
  rcases whole_head hhead with hrefused | ⟨hunmixed, hrun⟩
  · exact .inl ⟨hrefused _ _, hrefused _ _⟩
  obtain ⟨k, hk, halone⟩ := hrun body {}
  obtain ⟨k', hk', hbetween⟩ := hrun
    ('^' :: '(' :: '?' :: ':' :: (body ++ closing (({} : Flags).union added).verbose)) {}
  simp only [List.length_cons, List.length_append] at hk'
  obtain ⟨k', rfl⟩ : ∃ m, k' = m + 3 := ⟨k' - 3, by omega⟩
  rw [run_bind_ok (run_moveTo (by simp)) (c := opening _ ('^' :: _) _)] at hbetween
  obtain ⟨position, hchoice⟩ := run_anchors (c := { opening _ _ _ with rest := _ }) rfl
    (append_closing_ne body _) k' _ (({} : Flags).union added).verbose
  have hverbose : (({} : Flags).union added).verbose = head.contains 'x' := by
    rw [← hhead.verbose]
    rfl
  refine .inr ⟨({} : Flags).union added, k, _, k', _, position, hunmixed, hverbose, hk, ?_,
    by omega, halone, hbetween.trans hchoice⟩
  rw [List.length_append]
  omega

/-- **A pattern** is read the same alone and between anchors. -/
theorem anchored_whole (source : Text) :
    Anchored (hasLateFlags source = true) (whole.run (opening source.length source {}))
      (whole.run (opening (anchoredText source {}).length (anchoredText source {}) {})) := by
  rcases whole_anchors source with ⟨halone, hanchored⟩ |
    ⟨F, k, l, n, m, position, hunmixed, hverbose, hk, hl, hn, halone, hanchored⟩
  · exact Lenient.of_refused halone hanchored
  · rw [halone, hanchored]
    refine anchored_body hunmixed (fun hflags => ?_) hk hl hn _ _ _ _
    rwa [hasLateFlags, ← hverbose]

/-- Flags behind those at the start come too late between anchors. -/
theorem refused_anchored {source : Text} (h : hasLateFlags source = true) :
    Refused (whole.run (opening (anchoredText source {}).length (anchoredText source {}) {})) := by
  rcases whole_anchors source with ⟨-, hanchored⟩ |
    ⟨F, k, l, n, m, position, -, hverbose, -, -, hn, -, hanchored⟩
  · exact hanchored
  · rw [hasLateFlags, ← hverbose] at h
    obtain ⟨n, rfl⟩ := Nat.exists_eq_add_one.2 (Nat.zero_lt_of_lt hn)
    rw [hanchored, choice_succ]
    exact ((refused_sequence h rfl (by omega)).bind).bind

end Reading

open Reading

/-! ### Refusal -/

section

variable [Names]

theorem problem?_of_error {source : Text} {f : Flags} {fault : Fault}
    (h : whole.run (opening source.length source f) = .error fault) :
    problem? (ofText source f) = problem? (.error fault) := by
  have hread : read source f = .error fault := by
    change (whole.run (opening source.length source f)).map Prod.fst = _
    rw [h]
    rfl
  rw [ofText, hread]

/-- Where a pattern can be read, its problem is that of its items. -/
theorem problem?_of_ok {source : Text} {f final : Flags} {groups : Nat} {items : List Item}
    {d : Cursor}
    (h : whole.run (opening source.length source f) = .ok ((final, groups, items), d)) :
    problem? (ofText source f) = problemIn? final items := by
  have hread : read source f = .ok (final, groups, items) := by
    change (whole.run (opening source.length source f)).map Prod.fst = _
    rw [h]
    rfl
  rw [ofText, hread]
  dsimp only
  cases problemIn? final items with
  | some problem => rfl
  | none =>
      dsimp only
      split <;> rfl

/-- A pattern is malformed alone and between anchors, or neither, but for three problems. -/
theorem problem?_anchored (source : Text) :
    problem? (ofText source {}) = some .unbalanced ∨
      problem? (ofText source {}) = some .danglingEscape ∨
        hasLateFlags source = true ∨
          ((problem? (anchor source {})).isSome ↔ (problem? (ofText source {})).isSome) := by
  rw [anchor]
  have h := anchored_whole source
  generalize halone : whole.run (opening source.length source {}) = x at h
  generalize hanchored :
    whole.run (opening (anchoredText source {}).length (anchoredText source {}) {}) = y at h
  rcases h with ⟨place, rfl⟩ | hfates
  · exact .inl (problem?_of_error halone)
  cases hfates with
  | results h =>
      rw [h] at hanchored
      rw [problem?_of_ok halone, problem?_of_ok hanchored, problemIn?_anchored]
      exact .inr (.inr (.inr Iff.rfl))
  | faults h =>
      rw [problem?_of_error halone, problem?_of_error hanchored, problem?_error_isSome,
        problem?_error_isSome]
      exact .inr (.inr (.inr h.symm))
  | overrun hf h => exact h.elim
  | dangling => exact .inr (.inl (problem?_of_error halone))
  | late h => exact .inr (.inr (.inl h))

/-- Flags behind those at the start are a problem between anchors. -/
theorem problem?_anchor_of_hasLateFlags {source : Text} (h : hasLateFlags source = true) :
    (problem? (anchor source {})).isSome := by
  obtain ⟨fault, hfault, hrun⟩ := (refused_anchored h).exists_error
  rw [anchor, problem?_of_error hrun]
  exact problem?_error_isSome.2 hfault

/-- A rule is refused where its pattern is malformed between the anchors. -/
theorem ofRule_refused_iff_anchor (source : Text) :
    (∃ message, ofRule source none = .error (.invalidRule source message)) ↔
      (problem? (anchor source {})).isSome := by
  simp only [ofRule, pure_bind]
  cases anchor source {} with
  | ok pattern =>
      constructor
      · rintro ⟨message, h⟩
        cases h
      · intro h
        cases h
  | error fault =>
      rw [problem?_error_isSome]
      constructor
      · rintro ⟨message, h⟩
        cases fault with
        | malformed problem place => exact Fault.malformed_malformed _ _
        | _ => cases h
      · rintro ⟨problem, place, rfl⟩
        exact ⟨_, rfl⟩

/-- **What is refused.**  A pattern that has no closing parenthesis too many and does not end in a
backslash is refused as that of a rule if it is malformed alone, or if flags for the whole pattern
stand behind those at its start, and otherwise it is not. -/
theorem ofRule_refused_iff {source : Text}
    (hbalanced : problem? (ofText source {}) ≠ some .unbalanced)
    (hwhole : problem? (ofText source {}) ≠ some .danglingEscape) :
    (∃ message, ofRule source none = .error (.invalidRule source message)) ↔
      (problem? (ofText source {})).isSome ∨ hasLateFlags source = true := by
  rw [ofRule_refused_iff_anchor]
  rcases problem?_anchored source with h | h | h | h
  · exact absurd h hbalanced
  · exact absurd h hwhole
  · exact ⟨fun _ => .inr h, fun _ => problem?_anchor_of_hasLateFlags h⟩
  · refine ⟨fun hsome => .inl (h.1 hsome), ?_⟩
    rintro (hsome | hlate)
    · exact h.2 hsome
    · exact problem?_anchor_of_hasLateFlags hlate

end

/-- Blanks and comments do not hide the flags behind them, if they are allowed. -/
example : hasLateFlags "(?x) # more\n(?i)a".toList = true ∧
    hasLateFlags " # more\n(?i)a".toList = false := by decide

/-- A group that is not closed, alone and between anchors. -/
theorem ofRule_refused_iff_unclosed :
    problem? (ofText "p-(\\d+".toList {}) = some .unterminatedGroup ∧
      ∃ message, ofRule "p-(\\d+".toList none = .error (.invalidRule "p-(\\d+".toList message) := by
  have halone : problem? (ofText "p-(\\d+".toList {}) = some .unterminatedGroup := by
    decide +kernel
  refine ⟨halone, (ofRule_refused_iff ?_ ?_).2 (.inl ?_)⟩
  · rw [halone]
    decide
  · rw [halone]
    decide
  · rw [halone]
    rfl

/-- Not all patterns that are malformed alone are refused, and not all that are refused are
malformed alone. -/
theorem not_always_refused :
    (¬ ∀ source : Text, (problem? (ofText source {})).isSome →
        ∃ message, ofRule source none = .error (.invalidRule source message)) ∧
      ¬ ∀ source : Text, (∃ message, ofRule source none = .error (.invalidRule source message)) →
        (problem? (ofText source {})).isSome := by
  have hclosed : problem? (ofText "a)|(b".toList {}) = some .unbalanced ∧
      problem? (anchor "a)|(b".toList {}) = none := by decide +kernel
  have hlate : problem? (ofText "(?i)(?s)a".toList {}) = none ∧
      problem? (anchor "(?i)(?s)a".toList {}) = some .lateFlags := by decide +kernel
  refine ⟨fun h => ?_, fun h => ?_⟩
  · have hrefused := (ofRule_refused_iff_anchor _).1 (h "a)|(b".toList (hclosed.1 ▸ rfl))
    rw [hclosed.2] at hrefused
    cases hrefused
  · have hmalformed := h "(?i)(?s)a".toList ((ofRule_refused_iff_anchor _).2 (hlate.2 ▸ rfl))
    rw [hlate.1] at hmalformed
    cases hmalformed

end UtilityCss.Pattern

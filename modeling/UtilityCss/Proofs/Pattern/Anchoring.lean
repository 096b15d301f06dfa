import UtilityCss.Platform.Plain
import UtilityCss.Proofs.Pattern.Late
import UtilityCss.Rule.Basic

/-!
# Patterns — anchoring

The pattern of a rule is read between `^` and `$`, in a group that captures nothing.

**Anchoring changes nothing** (`fullMatch?_anchored`).  A pattern that can be read alone and as that
of a rule matches the same texts in both, with the same captures.  This holds for all patterns:
those that start with flags, that end with a comment, that are a choice, or that have anchors of
their own.

* `read_anchored`: the anchored pattern has the flags and the groups of the pattern alone, and the
  same items, with one place before them and one behind.
* `runItems_anchored`: a match starts where the text starts and has to end where it ends, so the two
  places always hold.
-/

namespace UtilityCss.Pattern

/-! ### Flags -/

/-- The flags that a pattern has in the end: Unicode, unless ASCII is asked for. -/
def Flags.resolved (f : Flags) : Flags :=
  if f.ascii then f else { f with unicode := true }

theorem Flags.verbose_resolved (f : Flags) : f.resolved.verbose = f.verbose := by
  rw [resolved]
  split <;> rfl

/-- Resolved flags, among them some that are set once more. -/
theorem Flags.resolved_union (f g : Flags) :
    ((f.union g).resolved.union g).resolved = (f.union g).resolved := by
  cases f
  cases g
  simp only [resolved, union]
  grind

/-! ### The anchors -/

/-- The text of an anchored pattern, by what stands at the start of the pattern. -/
theorem anchoredText_eq (source : Text) (f : Flags) {added : Flags}
    (hhead : Head (splitHead source).1 added) :
    anchoredText source f = (splitHead source).1 ++
      '^' :: '(' :: '?' :: ':' :: ((splitHead source).2 ++ closing (f.union added).verbose) := by
  have hcomments : (f.union added).verbose = (f.verbose || (splitHead source).1.contains 'x') := by
    rw [← hhead.verbose]
    rfl
  rw [hcomments, anchoredText, closing]
  simp

namespace Reading

variable {k : Nat} {v first : Bool} {c d : Cursor} {tail : Text} {items a : List Item}

theorem of_run_finalFlags {f g : Flags} (h : (finalFlags f).run c = .ok (g, d)) :
    g = f.resolved ∧ d = c := by
  rw [finalFlags] at h
  rw [Flags.resolved]
  cases hascii : f.ascii with
  | false =>
      rw [hascii, if_pos (by decide)] at h
      exact run_pure_eq_ok.1 h
  | true =>
      rw [hascii, if_neg (by decide)] at h
      split at h
      · exact absurd h (fails_throw _ _ _)
      · exact run_pure_eq_ok.1 h

/-- What is done with a pattern behind its choice. -/
def conclude (items : List Item) : Reading (Flags × Nat × List Item) := do
  let flags ← finalFlags (← get).flags
  if (← peek).isSome then failBack .unbalanced 0
  let total ← groups
  checkConditions total (← get).conditions.reverse
  return (flags, total - 1, items)

/-- A pattern is read to its end. -/
theorem of_run_conclude {final : Flags} {groups : Nat}
    (h : (conclude a).run c = .ok ((final, groups, items), d)) :
    items = a ∧ c.rest = [] ∧ final = c.flags.resolved ∧ groups = c.widths.size := by
  rw [conclude, run_get_bind] at h
  obtain ⟨g, e', hfinal, h⟩ := run_bind_eq_ok.1 h
  obtain ⟨rfl, rfl⟩ := of_run_finalFlags hfinal
  rw [run_peek_bind] at h
  dsimp only at h
  split at h
  · exact absurd h (Fails.bind_left (fails_failBack _ _) _ _ _)
  next hnone =>
      rw [Reading.groups, bind_assoc, run_get_bind, pure_bind, run_get_bind] at h
      obtain ⟨u, e, -, h⟩ := run_bind_eq_ok.1 h
      obtain ⟨heq, rfl⟩ := run_pure_eq_ok.1 h
      cases heq
      refine ⟨rfl, ?_, rfl, rfl⟩
      rw [← lexeme?_eq_none, ← Option.isNone_iff_eq_none]
      simpa using hnone

/-- Where the pattern ends for the first reader, the group closes for the second, and they have read
the same. -/
theorem Follows.closed {F F' : Flags} {n : Nat} {c c' : Cursor} {b : List Item}
    (h : Follows F F' (some v) v n a c b c') (hnil : c.rest = []) :
    a = b ∧ c'.rest = [')', '$'] ∧ Alike F F' c c' := by
  rcases h with ⟨rfl, hbeside, hfeed⟩ | ⟨hended, heq⟩
  · have hrest := hbeside.rest
    rw [hnil, List.nil_append] at hrest
    cases v with
    | false => exact ⟨rfl, hrest, hbeside.toAlike⟩
    | true => exact absurd rfl (hfeed hnil)
  · exact ⟨heq rfl, hended.same rfl⟩

theorem append_closing_ne (t : Text) (comments : Bool) : t ++ closing comments ≠ ['\\'] :=
  ne_backslash_of_mem '$' (by simp [closing]) (by decide)

variable [Names]

/-- A circumflex holds at the start. -/
theorem run_sequence_start (hrest : c.rest = '^' :: tail) (hwhole : tail ≠ ['\\']) (k : Nat)
    (v first : Bool) (items : List Item) :
    (sequence (k + 1) v first items).run c =
      (sequence k v first (.place .start :: items)).run { c with rest := tail } := by
  rw [sequence, run_peek_plain (by decide) hrest]
  dsimp only
  rw [if_neg (by decide), run_here_bind, run_next_plain (by decide) hrest hwhole]
  cases v <;> rfl

/-- A group that captures nothing. -/
theorem run_group_plain (hrest : c.rest = '?' :: ':' :: tail) (hwhole : tail ≠ ['\\']) (k : Nat)
    (v : Bool) (opening : Nat) :
    (group (k + 1) v opening).run c =
      (choice false k v [] >>= fun body => close opening >>= fun _ =>
        pure (.item (.group none {} {} body))).run { c with rest := tail } := by
  rw [group, run_accept_plain (by decide) hrest (by simp), if_neg (by decide),
    run_next_plain (by decide) rfl hwhole]
  rfl

/-- What stands behind a pattern between anchors. -/
def behindPattern (k : Nat) (v first : Bool) (position : Nat) (body : List Item) :
    Reading (List Item) := do
  close position
  sequence k v first [.group none {} {} body, .place .start]

/-- **A sequence between anchors** is a choice, and what stands behind it. -/
theorem run_sequence_anchors (hrest : c.rest = '^' :: '(' :: '?' :: ':' :: tail)
    (hwhole : tail ≠ ['\\']) (k : Nat) (v first : Bool) :
    ∃ position, (sequence (k + 3) v first []).run c =
      (choice false k v [] >>= behindPattern (k + 1) v first position).run
        { c with rest := tail } := by
  rw [run_sequence_start hrest (by simp)]
  obtain ⟨position, hopen⟩ := run_sequence_open (c := { c with rest := _ }) rfl (k + 1) v first
    [.place .start]
  refine ⟨position, hopen.trans ?_⟩
  rw [run_bind_ok (run_moveTo (by simp)), run_bind_congr (run_group_plain rfl hwhole _ _ _),
    bind_assoc]
  refine congrArg (fun r => StateT.run r _) (bind_congr fun body => ?_)
  rw [bind_assoc]
  rfl

/-- At the closing parenthesis, the items of the pattern stand between the two places. -/
theorem run_behindPattern (hrest : c.rest = [')', '$']) (k : Nat) (v first : Bool) (position : Nat)
    (body : List Item) :
    (behindPattern (k + 1) v first position body).run c =
      .ok (.place .start :: body ++ [.place .finish], { c with rest := [] }) := by
  rw [behindPattern, close, bind_assoc, run_accept_plain (by decide) hrest (by decide), if_pos rfl,
    pure_bind, run_sequence_finish rfl (by decide), run_sequence_nil rfl]
  simp [unwrap, Flags.isEmpty]

/-! ### The whole pattern -/

theorem whole_eq : whole = get >>= fun s => moveTo s.rest >>= fun _ =>
    choice true (4 * s.total + 4) s.flags.verbose [] >>= conclude :=
  rfl

/-- A whole pattern is refused for the flags at its start, or it is read behind them. -/
theorem whole_head {head : Text} {added : Flags} (hhead : Head head added) :
    (∀ (tail : Text) (f : Flags),
        Refused (whole.run (opening (head ++ tail).length (head ++ tail) f))) ∨
      added.mixed = false ∧ ∀ (tail : Text) (f : Flags), ∃ k, 4 * tail.length + 3 ≤ k ∧
        whole.run (opening (head ++ tail).length (head ++ tail) f) =
          (moveTo tail >>= fun _ => (sequence k (f.union added).verbose true [] >>=
            choiceAfter true (4 * (head ++ tail).length + 3) (f.union added).verbose []) >>=
              conclude).run (opening (head ++ tail).length tail (f.union added)) := by
  have hwhole : ∀ (tail : Text) (f : Flags), head ++ tail ≠ ['\\'] →
      whole.run (opening (head ++ tail).length (head ++ tail) f) =
        (choice true (4 * (head ++ tail).length + 4) f.verbose [] >>= conclude).run
          (opening (head ++ tail).length (head ++ tail) f) := by
    intro tail f hne
    rw [whole_eq, run_get_bind]
    exact run_bind_ok (run_moveTo hne)
  have hdangling : ∀ (tail : Text), head ++ tail = ['\\'] → head = [] ∧ tail = ['\\'] := by
    intro tail heq
    cases hhead with
    | none => exact ⟨rfl, heq⟩
    | letters => cases heq
  rcases choice_head hhead with hrefused | ⟨hunmixed, hrun⟩
  · refine .inl fun tail f => ?_
    by_cases hne : head ++ tail = ['\\']
    · rw [hne]
      exact .refused (Fault.malformed_malformed _ _)
    · rw [hwhole tail f hne]
      exact (hrefused _ _ tail f).bind
  · refine .inr ⟨hunmixed, fun tail f => ?_⟩
    by_cases hne : head ++ tail = ['\\']
    · obtain ⟨rfl, rfl⟩ := hdangling tail hne
      exact ⟨_, Nat.le_refl _, rfl⟩
    · obtain ⟨k, hk, hchoice⟩ :=
        hrun (4 * (head ++ tail).length + 1) (head ++ tail).length tail f hne
      refine ⟨k, ?_, ?_⟩
      · rw [List.length_append] at hk
        omega
      · rw [hwhole tail f hne, run_bind_congr hchoice, bind_assoc]

/-- The reader of a whole pattern starts in front of it. -/
theorem whole_of_read {source : Text} {f final : Flags} {groups : Nat}
    (h : read source f = .ok (final, groups, items)) :
    ∃ d, whole.run (opening source.length source f) = .ok ((final, groups, items), d) := by
  rw [read] at h
  change (whole.run (opening source.length source f)).map Prod.fst = _ at h
  cases hwhole : whole.run (opening source.length source f) with
  | error fault =>
      rw [hwhole] at h
      cases h
  | ok out =>
      obtain ⟨result, d⟩ := out
      rw [hwhole] at h
      obtain rfl : result = _ := Except.ok.inj h
      exact ⟨d, rfl⟩

/-- A pattern is read behind the flags at its start, to its end. -/
theorem of_read {source head : Text} {added f final : Flags} {groups : Nat}
    (hhead : Head head added) (hsource : source = head ++ tail)
    (h : read source f = .ok (final, groups, items)) :
    tail ≠ ['\\'] ∧ ∃ k d, 4 * tail.length + 3 ≤ k ∧
      (sequence k (f.union added).verbose true [] >>=
          choiceAfter true (4 * source.length + 3) (f.union added).verbose []).run
        (opening source.length tail (f.union added)) = .ok (items, d) ∧
      d.rest = [] ∧ final = d.flags.resolved ∧ groups = d.widths.size := by
  subst hsource
  obtain ⟨last, hread⟩ := whole_of_read h
  rcases whole_head hhead with hrefused | ⟨-, hrun⟩
  · obtain ⟨fault, -, herror⟩ := (hrefused tail f).exists_error
    cases hread.symm.trans herror
  · obtain ⟨k, hk, hrun⟩ := hrun tail f
    rw [hrun] at hread
    obtain ⟨u, e, hmove, hread⟩ := run_bind_eq_ok.1 hread
    obtain ⟨htail, rfl⟩ := of_run_moveTo hmove
    obtain ⟨a, d, hchoice, hconclude⟩ := run_bind_eq_ok.1 hread
    obtain ⟨rfl, hend⟩ := of_run_conclude hconclude
    exact ⟨htail, k, d, hk, hchoice, hend⟩

/-- The items of a pattern between anchors are those of the group between them. -/
theorem of_read_anchors {source head : Text} {added f final : Flags} {groups : Nat}
    (hhead : Head head added) (hsource : source = head ++ '^' :: '(' :: '?' :: ':' :: tail)
    (hwhole : tail ≠ ['\\']) (h : read source f = .ok (final, groups, items)) :
    ∃ k body d, 4 * tail.length + 4 ≤ k ∧
      (choice false k (f.union added).verbose []).run
        (opening source.length tail (f.union added)) = .ok (body, d) ∧
      (d.rest = [')', '$'] → final = d.flags.resolved ∧ groups = d.widths.size ∧
        items = .place .start :: body ++ [.place .finish]) := by
  obtain ⟨-, k, d, hk, hrun, -, rfl, rfl⟩ := of_read hhead hsource h
  simp only [List.length_cons] at hk
  obtain ⟨k, rfl⟩ : ∃ m, k = m + 3 := ⟨k - 3, by omega⟩
  obtain ⟨position, hanchors⟩ := run_sequence_anchors
    (c := opening source.length _ (f.union added)) rfl hwhole k (f.union added).verbose true
  rw [run_bind_congr hanchors, bind_assoc] at hrun
  obtain ⟨body, e, hbody, hrun⟩ := run_bind_eq_ok.1 hrun
  refine ⟨k, body, e, by omega, hbody, fun hrest => ?_⟩
  rw [run_bind_ok (run_behindPattern hrest _ _ _ _ _), run_choiceAfter_stop (by nofun)] at hrun
  cases hrun
  exact ⟨rfl, rfl, rfl⟩

end Reading

open Reading

/-! ### Matching -/

theorem runItems_append (t : Subject) (f : Flags) (items more : List Item) (s : Spot) (k : Rest) :
    runItems t f (items ++ more) s k = runItems t f items s fun s' => runItems t f more s' k := by
  induction items generalizing s with
  | nil => rw [List.nil_append, runItems]
  | cons item items ih =>
      rw [List.cons_append, runItems, runItems]
      exact congrArg _ (funext ih)

/-- Between anchors, items match a whole text as they do alone. -/
theorem runItems_anchored (t : Subject) (f : Flags) (items : List Item) (groups : Nat) :
    (runItems t f (.place .start :: items ++ [.place .finish]) (Spot.origin groups) fun s =>
        if s.position == t.size then some s else none) =
      runItems t f items (Spot.origin groups) fun s =>
        if s.position == t.size then some s else none := by
  have hfinish : ∀ s : Spot, (runItems t f [.place .finish] s fun s' =>
      if s'.position == t.size then some s' else none) =
        if s.position == t.size then some s else none := by
    intro s
    rw [runItems, runItem, Place.holds, runItems]
    cases s.position == t.size with
    | false => exact ite_self none
    | true => rfl
  rw [List.cons_append, runItems, runItem, if_pos (by rfl), runItems_append]
  exact congrArg _ (funext hfinish)

/-! ### Reading and matching -/

section

variable [Names]

/-- **An anchored pattern** has the flags and the groups of the pattern that is anchored, and its
items between the two places. -/
theorem read_anchored {source : Text} {f g final final' : Flags} {groups groups' : Nat}
    {items items' : List Item} (hg : g = f ∨ g = final)
    (h : read source f = .ok (final, groups, items))
    (h' : read (anchoredText source g) g = .ok (final', groups', items')) :
    final' = final ∧ groups' = groups ∧ items' = .place .start :: items ++ [.place .finish] := by
  obtain ⟨added, hhead, hsource⟩ := splitHead_spec source
  have hanchored := anchoredText_eq source g hhead
  generalize (splitHead source).1 = head at hhead hsource hanchored
  generalize (splitHead source).2 = body at hsource hanchored
  have hlength : body.length ≤ source.length := by
    rw [hsource, List.length_append]
    omega
  obtain ⟨hwhole, k, d, hk, hrun, hend, rfl, rfl⟩ := of_read hhead hsource h
  obtain ⟨k', inner, e, hk', hrun', hclosed⟩ :=
    of_read_anchors hhead hanchored (append_closing_ne _ _) h'
  rw [List.length_append] at hk'
  have hbeside : Beside (f.union added) (g.union added) (some (g.union added).verbose) body.length
      (opening source.length body (f.union added))
      (opening (anchoredText source g).length (body ++ closing (g.union added).verbose)
        (g.union added)) :=
    ⟨⟨rfl, rfl, rfl, rfl, rfl, rfl⟩, rfl, hwhole, Nat.le_refl _⟩
  have hrest : 4 * body.length ≤ 4 * source.length + 3 := by omega
  have hgroup : 4 * body.length + 4 ≤ k' := by omega
  -- the readers are in the same mode, although their flags may come from different sources
  have hkept := hbeside.verbose_of_run hk hrest hgroup hrun hrun'
  have hverbose : (g.union added).verbose = (f.union added).verbose := by
    rcases hg with rfl | rfl
    · rfl
    · change (d.flags.resolved.verbose || added.verbose) = (f.verbose || added.verbose)
      rw [Flags.verbose_resolved, hkept, Flags.union, Bool.or_assoc, Bool.or_self]
  rw [hverbose] at hbeside hrun'
  obtain ⟨rfl, hclosing, halike⟩ :=
    ((joint_pattern (fun _ => trivial) (by omega) (by omega) hgroup).paired hbeside hrun
      hrun').closed hend
  obtain ⟨rfl, rfl, rfl⟩ := hclosed hclosing
  refine ⟨?_, by rw [halike.widths], rfl⟩
  rw [halike.flags', halike.flags]
  rcases hg with rfl | rfl
  · rfl
  · rw [halike.flags, Flags.resolved_union]

theorem read_of_ofText {source : Text} {f : Flags} {p : Pattern} (h : ofText source f = .ok p) :
    read source f = .ok (p.flags, p.groups, p.items) := by
  rw [ofText] at h
  split at h
  · cases h
  next final groups items hread =>
      split at h
      · cases h
      · split at h
        · cases h
        · cases h
          exact hread

/-- The pattern of a rule is read between anchors under the flags that it was given, or under those
that it has alone. -/
theorem of_ofRule {source : Text} {flags : Option Flags} {alone anchored : Pattern}
    (halone : ofText source (flags.getD {}) = .ok alone)
    (hanchored : ofRule source flags = .ok anchored) :
    ∃ g, (g = flags.getD {} ∨ g = alone.flags) ∧ anchor source g = .ok anchored := by
  cases flags with
  | none =>
      simp only [ofRule, pure_bind] at hanchored
      refine ⟨{}, .inl rfl, ?_⟩
      split at hanchored
      next pattern heq => rw [heq, Except.ok.inj hanchored]
      next => cases hanchored
  | some f =>
      rw [Option.getD_some] at halone
      simp only [ofRule, halone, pure_bind] at hanchored
      refine ⟨alone.flags, .inr rfl, ?_⟩
      split at hanchored
      next pattern heq => rw [heq, Except.ok.inj hanchored]
      next => cases hanchored

/-- A pattern can be read alone, where it passes a check, and as that of a rule. -/
def readsAnchored (check : Pattern → Bool) (source : Text) (f : Flags) : Bool :=
  match ofText source f, ofRule source (some f) with
  | .ok alone, .ok _ => check alone
  | _, _ => false

theorem exists_of_readsAnchored {check : Pattern → Bool} {source : Text} {f : Flags}
    (h : readsAnchored check source f = true) :
    ∃ alone anchored, ofText source f = .ok alone ∧ ofRule source (some f) = .ok anchored ∧
      check alone = true := by
  rw [readsAnchored] at h
  split at h
  next alone anchored halone hanchored => exact ⟨alone, anchored, halone, hanchored, h⟩
  next => cases h

/-- **Anchoring changes nothing.**  A pattern that can be read alone and as that of a rule has as
many groups there, and matches the same texts with the same captures. -/
theorem fullMatch?_anchored {source : Text} {flags : Option Flags} {alone anchored : Pattern}
    (halone : ofText source (flags.getD {}) = .ok alone)
    (hanchored : ofRule source flags = .ok anchored) :
    anchored.groups = alone.groups ∧ ∀ t, anchored.fullMatch? t = alone.fullMatch? t := by
  obtain ⟨g, hg, hanchor⟩ := of_ofRule halone hanchored
  obtain ⟨hflags, hgroups, hitems⟩ :=
    read_anchored hg (read_of_ofText halone) (read_of_ofText hanchor)
  refine ⟨hgroups, fun t => ?_⟩
  have hrun : anchored.run? t = alone.run? t := by
    rw [run?, run?, hflags, hgroups, hitems]
    exact runItems_anchored _ _ _ _
  have hcaptured : anchored.captured t = alone.captured t := by
    funext s
    rw [captured, captured, hgroups]
  rw [fullMatch?, fullMatch?, hrun, hcaptured]

end

/-- A choice with a reference, flags at its start and a comment that hides its end. -/
theorem fullMatch?_anchored_commented :
    ∃ alone anchored : Pattern,
      ofText "(?i)^d|(a)?(b|\\1c)$ # end".toList { verbose := true } = .ok alone ∧
        ofRule "(?i)^d|(a)?(b|\\1c)$ # end".toList (some { verbose := true }) = .ok anchored ∧
        alone.fullMatch? "aAc".toList = some [some ['a'], some ['A', 'c']] ∧
        alone.fullMatch? "B".toList = some [none, some ['B']] ∧
        anchored.groups = alone.groups ∧ ∀ t, anchored.fullMatch? t = alone.fullMatch? t := by
  have hread : readsAnchored
      (fun alone => alone.fullMatch? "aAc".toList == some [some ['a'], some ['A', 'c']] &&
        alone.fullMatch? "B".toList == some [none, some ['B']])
      "(?i)^d|(a)?(b|\\1c)$ # end".toList { verbose := true } = true := by decide +kernel
  obtain ⟨alone, anchored, halone, hanchored, hmatches⟩ := exists_of_readsAnchored hread
  rw [Bool.and_eq_true, beq_iff_eq, beq_iff_eq] at hmatches
  exact ⟨alone, anchored, halone, hanchored, hmatches.1, hmatches.2,
    @fullMatch?_anchored _ _ (some { verbose := true }) alone anchored halone hanchored⟩

end UtilityCss.Pattern

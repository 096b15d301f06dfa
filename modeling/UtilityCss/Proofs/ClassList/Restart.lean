import Mathlib.Data.List.Induction
import Mathlib.Tactic.SplitIfs
import UtilityCss.Proofs.ClassList.Forest

/-!
# Class lists — starting again behind a blank

At a blank with no group open, a class list may be cut in two that are expanded by themselves
(`expand_cut`).

The reader is there in the state in which it has started, but for the tokens that it has read and
its position (`Scan.shift`, `scan_blank`), and what a character does does not depend on these
(`step_shift`).  It also has to hide nothing, which it does only behind a backslash
(`escaped_scan`).

What a character does is said once for all that follows: it ends the token, is added to it, opens a
group with it or closes one (`step_cases`).  Where the brackets are counted, that is said with what
it does to the counts (`visit_cases`).
-/

namespace UtilityCss.ClassList

variable {t before after : Text} {c : Char}

namespace Scan

variable {s : Scan}

/-! ### Starting again -/

/-- The state with tokens that have been read before it, some characters later. -/
def shift (s : Scan) (items : List Text) (n : Nat) : Scan :=
  { s with done := items ++ s.done,
           groups := s.groups.map fun g => { g with start := n + g.start },
           token := s.token.map fun t => { t with start := n + t.start },
           position := n + s.position }

/-- A scan that has items and a position ahead of another one keeps them ahead when items are
added. -/
theorem add_shift (s : Scan) (items more : List Text) (n : Nat) :
    (s.shift items n).add more = (s.add more).shift items n := by
  cases hgroups : s.groups <;> simp [add, shift, hgroups]

theorem flush_shift (s : Scan) (items : List Text) (n : Nat) :
    (s.shift items n).flush = s.flush.shift items n := by
  cases htoken : s.token with
  | none => simp [flush, shift, htoken]
  | some t =>
      have hadd := add_shift { s with token := none } items [t.reversed.reverse] n
      simp only [shift, Option.map_none] at hadd
      by_cases hempty : t.reversed.isEmpty
      · simp [flush, shift, htoken, hempty]
      · simp only [flush, shift, htoken, Option.map_some, hempty, hadd]
        rfl

theorem push_shift (s : Scan) (c : Char) (items : List Text) (n : Nat) :
    (s.shift items n).push c = (s.push c).shift items n := by
  cases htoken : s.token <;> simp [push, shift, htoken]

theorem begin_shift (s : Scan) (items : List Text) (n : Nat) :
    (s.shift items n).begin = s.begin.shift items n := by
  cases htoken : s.token <;> simp [begin, shift, htoken]

theorem chain?_shift (s : Scan) (items : List Text) (n : Nat) :
    (s.shift items n).chain? = s.chain? := by
  cases htoken : s.token with
  | none => simp [chain?, shift, htoken]
  | some t =>
      obtain ⟨start, reversed⟩ := t
      cases reversed with
      | nil => simp [chain?, shift, htoken]
      | cons d reversed =>
          by_cases hd : d = ':'
          · simp [chain?, shift, htoken, hd]
          · simp [chain?, shift, htoken, hd]

theorem openGroup_shift (s : Scan) (chain : Text) (items : List Text) (n : Nat) :
    (s.shift items n).openGroup chain = (s.openGroup chain).shift items n := by
  cases htoken : s.token <;> simp [openGroup, shift, htoken]

theorem closeGroup_shift (s : Scan) (items : List Text) (n : Nat) :
    (s.shift items n).closeGroup = s.closeGroup.shift items n := by
  rw [closeGroup, flush_shift, closeGroup]
  cases hgroups : s.flush.groups with
  | nil => simp [shift, hgroups]
  | cons g rest =>
      have hadd := add_shift { s.flush with groups := rest } items
        (g.items.map fun item => g.chain ++ ':' :: item) n
      simpa [shift, hgroups] using hadd

/-- One character does the same to both scans. -/
theorem visit_shift (s : Scan) (c : Char) (items : List Text) (n : Nat) :
    (s.shift items n).visit c = (s.visit c).shift items n := by
  have hbrackets : (s.shift items n).brackets = s.brackets := rfl
  have hparens : (s.shift items n).parens = s.parens := rfl
  have hgroups : (s.shift items n).groups.isEmpty = s.groups.isEmpty := List.isEmpty_map
  simp only [visit, push_shift, chain?_shift, openGroup_shift, closeGroup_shift, hbrackets, hparens,
    hgroups]
  split_ifs
  all_goals first | rfl | (split <;> rfl)

/-- What a character does does not depend on what has been read before. -/
theorem step_shift (s : Scan) (c : Char) (items : List Text) (n : Nat) :
    (s.shift items n).step c = (s.step c).shift items n := by
  have hescaped : (s.shift items n).escaped = s.escaped := rfl
  simp only [step, push_shift, flush_shift, begin_shift, visit_shift, hescaped]
  split_ifs <;> rfl

/-- A whole text does the same to both scans. -/
theorem foldl_shift (s : Scan) (t : Text) (items : List Text) (n : Nat) :
    t.foldl step (s.shift items n) = (t.foldl step s).shift items n := by
  induction t generalizing s with
  | nil => rfl
  | cons c t ih => rw [List.foldl_cons, List.foldl_cons, step_shift, ih]

/-! ### What a character does -/

/-- The depth of square brackets after a character. -/
def squareAfter (depth : Nat) (c : Char) : Nat :=
  if c = '[' then depth + 1 else if c = ']' then depth - 1 else depth

/-- The depth of parentheses in a token after a character outside of square brackets. -/
def roundAfter (depth : Nat) (c : Char) : Nat :=
  if c = '(' then depth + 1 else if c = ')' then depth - 1 else depth

/-- The state with a character added to its token, and with other depths. -/
def keep (s : Scan) (c : Char) (brackets parens : Nat) : Scan :=
  { s.push c with brackets, parens }

/-- A character that is kept without a look at brackets and parentheses leaves their depths. -/
theorem push_eq_keep (s : Scan) (c : Char) : s.push c = s.keep c s.brackets s.parens := by
  cases htoken : s.token <;> simp [push, keep, htoken]

/-- A character that is no backslash opens a group, closes one, or is added to the token. -/
theorem visit_cases (hc : c ≠ '\\') :
    (∃ chain, c = '(' ∧ s.brackets = 0 ∧ s.parens = 0 ∧ s.chain? = some chain ∧
      s.visit c = s.openGroup chain) ∨
    (c = ')' ∧ s.brackets = 0 ∧ s.parens = 0 ∧ s.groups ≠ [] ∧ s.visit c = s.closeGroup) ∨
    ((c = ')' → s.brackets = 0 → s.parens = 0 → s.groups = []) ∧
      s.visit c = s.keep c (squareAfter s.brackets c)
        (if s.brackets = 0 then roundAfter s.parens c else s.parens)) := by
  simp only [visit, push_eq_keep s c, beq_iff_eq, hc, if_false]
  -- within square brackets every character is added; outside of them round ones may do more
  by_cases hbrackets : s.brackets = 0
  · rw [if_neg (by omega), if_pos hbrackets, hbrackets]
    by_cases hopen : c = '('
    · subst hopen
      cases hchain : (if s.parens = 0 then s.chain? else none) with
      | none => exact .inr (.inr ⟨fun h => absurd h (by decide), rfl⟩)
      | some chain =>
          obtain ⟨hzero, hsome⟩ : s.parens = 0 ∧ s.chain? = some chain := by simpa using hchain
          exact .inl ⟨chain, rfl, rfl, hzero, hsome, rfl⟩
    by_cases hclose : c = ')'
    · subst hclose
      by_cases hzero : s.parens = 0
      · rw [hzero]
        by_cases hgroups : s.groups = []
        · exact .inr (.inr ⟨fun _ _ _ => hgroups, by rw [hgroups]; rfl⟩)
        · exact .inr (.inl ⟨rfl, rfl, rfl, hgroups, by simp [hgroups]⟩)
      · refine .inr (.inr ⟨fun _ _ h => absurd h hzero, ?_⟩)
        rw [if_neg (by decide), if_neg (by decide), if_pos rfl, if_pos (by omega)]
        rfl
    · refine .inr (.inr ⟨fun h => absurd h hclose, ?_⟩)
      simp only [hopen, hclose, if_false, squareAfter, roundAfter]
      split_ifs <;> rfl
  · rw [if_pos (by omega), if_neg hbrackets]
    exact .inr (.inr ⟨fun _ h => absurd h hbrackets, rfl⟩)

theorem escaped_push (s : Scan) (c : Char) : (s.push c).escaped = s.escaped := by
  cases htoken : s.token <;> simp [push, htoken]

theorem visit_backslash (s : Scan) : s.visit '\\' = { s.push '\\' with escaped := true } :=
  rfl

theorem begin_push (s : Scan) (c : Char) : s.begin.push c = s.push c := by
  cases htoken : s.token <;> simp [begin, push, htoken]

theorem groups_begin (s : Scan) : s.begin.groups = s.groups := by
  cases htoken : s.token <;> simp [begin, htoken]

/-- A scan that has a chain has a token already. -/
theorem begin_of_chain? {chain : Text} (h : s.begin.chain? = some chain) : s.begin = s := by
  cases htoken : s.token with
  | some t => exact begin_of_token htoken
  | none => simp [begin, chain?, htoken] at h

theorem begin_closeGroup (s : Scan) : s.begin.closeGroup = s.closeGroup := by
  rw [closeGroup, flush_begin, closeGroup]

/-- **A step.**  A character ends the token, is added to it, opens a group with it or closes one.
It is added to the token if it is hidden. -/
theorem step_cases (s : Scan) (c : Char) :
    (s.escaped = false ∧ Text.isBlank c ∧
      s.step c = { s.flush with brackets := 0, parens := 0, position := s.position + 1 }) ∨
    (∃ (brackets parens : Nat) (escaped : Bool),
      (Text.isBlank c → s.escaped) ∧ (escaped → c = '\\') ∧
      s.step c = { s.push c with brackets, parens, escaped, position := s.position + 1 }) ∨
    (∃ chain, s.escaped = false ∧ c = '(' ∧ s.chain? = some chain ∧
      s.step c = { s.openGroup chain with position := s.position + 1 }) ∨
    (s.escaped = false ∧ s.groups ≠ [] ∧
      s.step c = { s.closeGroup with position := s.position + 1 }) := by
  by_cases hescaped : s.escaped
  · refine .inr (.inl ⟨s.brackets, s.parens, false, fun _ => hescaped, by simp, ?_⟩)
    rw [step, if_pos hescaped, push_eq_keep]
    rfl
  rw [Bool.not_eq_true] at hescaped
  by_cases hblank : Text.isBlank c
  · exact .inl ⟨hescaped, hblank, step_blank hescaped hblank⟩
  rw [Bool.not_eq_true] at hblank
  rw [step_eq_visit hescaped hblank]
  by_cases hc : c = '\\'
  · subst hc
    refine .inr (.inl ⟨s.brackets, s.parens, true, by simp [hblank], fun _ => rfl, ?_⟩)
    rw [visit_backslash, begin_push, push_eq_keep]
    rfl
  obtain ⟨chain, hopen, -, -, hchain, hvisit⟩ | ⟨-, -, -, hgroups, hvisit⟩ | ⟨-, hvisit⟩ :=
    visit_cases (s := s.begin) hc
  · have hbegin := begin_of_chain? hchain
    rw [hbegin] at hchain hvisit ⊢
    exact .inr (.inr (.inl ⟨chain, hescaped, hopen, hchain, by rw [hvisit]⟩))
  · rw [hvisit, begin_closeGroup]
    refine .inr (.inr (.inr ⟨hescaped, ?_, rfl⟩))
    rwa [groups_begin] at hgroups
  · rw [hvisit, keep, begin_push]
    have hpush := (escaped_push s c).trans hescaped
    exact .inr (.inl ⟨_, _, false, by simp [hblank], by simp, by rw [← hpush]⟩)

/-! ### Hidden characters and positions -/

theorem escaped_flush (s : Scan) : s.flush.escaped = s.escaped := by
  obtain ⟨done, groups, hflush, -⟩ := s.flush_eq
  rw [hflush]

/-- Closing a group changes nothing else but what has been read. -/
theorem closeGroup_eq (s : Scan) :
    ∃ done groups, s.closeGroup = { s with done, groups, token := none } := by
  obtain ⟨done, groups, hflush, -⟩ := s.flush_eq
  rw [closeGroup, hflush]
  cases groups with
  | nil => exact ⟨done, [], rfl⟩
  | cons g rest =>
      obtain ⟨done', groups', hadd, -⟩ :=
        add_eq { s with done, groups := rest, token := none }
          (g.items.map fun item => g.chain ++ ':' :: item)
      exact ⟨done', groups', hadd⟩

theorem escaped_closeGroup (s : Scan) : s.closeGroup.escaped = s.escaped := by
  obtain ⟨done, groups, hclose⟩ := s.closeGroup_eq
  rw [hclose]

/-- Only a backslash hides what follows it. -/
theorem escaped_step (h : (s.step c).escaped) : c = '\\' := by
  obtain ⟨hescaped, -, hstep⟩ | ⟨brackets, parens, escaped, -, hhides, hstep⟩ |
    ⟨chain, hescaped, -, -, hstep⟩ | ⟨hescaped, -, hstep⟩ := step_cases s c
  · rw [hstep] at h
    exact absurd ((escaped_flush s).symm.trans h) (by simp [hescaped])
  · rw [hstep] at h
    exact hhides h
  · rw [hstep] at h
    exact absurd (show s.escaped = true from h) (by simp [hescaped])
  · rw [hstep] at h
    exact absurd ((escaped_closeGroup s).symm.trans h) (by simp [hescaped])

end Scan

open Scan

/-- The last character is the last step. -/
theorem scan_concat (t : Text) (c : Char) : scan (t ++ [c]) = (scan t).step c :=
  List.foldl_append ..

/-- Only a backslash at the end of the text hides the character that comes next. -/
theorem getLast?_of_escaped (h : (scan t).escaped) : t.getLast? = some '\\' := by
  induction t using List.reverseRecOn with
  | nil => cases h
  | append_singleton t c =>
      rw [scan_concat] at h
      rw [List.getLast?_concat, escaped_step h]

/-- Without a backslash nothing is hidden. -/
theorem escaped_scan (h : '\\' ∉ t) : (scan t).escaped = false :=
  Bool.eq_false_iff.2 fun hescaped => h (List.mem_of_mem_getLast? (getLast?_of_escaped hescaped))

/-- The position of a scan is the length of what it has read. -/
theorem position_scan (t : Text) : (scan t).position = t.length := by
  induction t using List.reverseRecOn with
  | nil => rfl
  | append_singleton t c ih =>
      rw [scan_concat, List.length_append, ← ih]
      rfl

/-! ### Cutting in two -/

/-- Without an open group at the end, the result is what has been done so far. -/
theorem expand_of_groups (h : (scan t).groups = []) : expand t = (scan t).flush.done := by
  obtain ⟨done, groups, hflush, hempty⟩ := (scan t).flush_eq
  have hgroups : (scan t).flush.groups = [] := by
    rw [hflush]
    simpa [h] using hempty
  rw [expand, hgroups]
  rfl

/-- Behind a blank, with no group open, the reader starts again. -/
theorem scan_blank (hescaped : (scan before).escaped = false) (hc : Text.isBlank c)
    (hgroups : (scan before).groups = []) :
    scan (before ++ [c]) = Scan.shift {} (expand before) (before.length + 1) := by
  obtain ⟨done, groups, hflush, hempty⟩ := (scan before).flush_eq
  have hnone : groups = [] := by simpa [hgroups] using hempty
  rw [scan_concat, step_blank hescaped hc, position_scan, expand_of_groups hgroups, hflush]
  simp [Scan.shift, hnone, hescaped]

/-- At a blank outside of groups the scan starts again, with the items so far ahead of the rest. -/
theorem scan_cut (hescaped : (scan before).escaped = false) (hc : Text.isBlank c)
    (hgroups : (scan before).groups = []) (after : Text) :
    scan (before ++ c :: after) = (scan after).shift (expand before) (before.length + 1) := by
  rw [List.append_cons, scan, List.foldl_append, ← scan, scan_blank hescaped hc hgroups,
    foldl_shift]
  rfl

/-- At a blank with no group open, a text may be cut before it is expanded. -/
theorem expand_cut (hescaped : (scan before).escaped = false) (hc : Text.isBlank c)
    (hgroups : (scan before).groups = []) (after : Text) :
    expand (before ++ c :: after) = expand before ++ expand after := by
  have hlast : ((scan after).flush.shift (expand before) (before.length + 1)).groups.getLast? =
      (scan after).flush.groups.getLast?.map
        fun g => { g with start := before.length + 1 + g.start } := List.getLast?_map
  simp only [expand.eq_def (before ++ c :: after), expand.eq_def after,
    scan_cut hescaped hc hgroups after, flush_shift, hlast]
  cases (scan after).flush.groups.getLast? with
  | none => rfl
  | some outer =>
      have hlength : before.length + 1 = (before ++ [c]).length := by simp
      have hdrop : (before ++ c :: after).drop (before.length + 1 + outer.start) =
          after.drop outer.start := by
        rw [List.append_cons, hlength, List.drop_length_add_append]
      simp only [Option.map_some, hdrop, Scan.shift, List.append_assoc]

end UtilityCss.ClassList

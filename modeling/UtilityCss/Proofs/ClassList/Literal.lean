import Mathlib.Data.List.Chain
import UtilityCss.Proofs.ClassList.Joined
import UtilityCss.Proofs.ClassList.Restart

/-!
# Class lists — what is left as it is written

A text that is no well-formed list of groups is expanded, too: whatever cannot be read as a group is
left as it is written (`expand_literal`).

* Where no parenthesis follows a colon, no group opens and the tokens are the words of the text,
  whatever brackets stand in it.  Only a blank behind a backslash could be part of a token.
* Where groups are left open at the end, nothing is rewritten from the place on where the outermost
  of them starts.  What stands before is expanded by itself.

For the second one the reader could start again at that place (`Scan.restart?`): it had no token and
no open group there, and has finished no token since (`restart?_step`, `restart?_scan`).  What it
holds open stands in the text (`Located`).
-/

namespace UtilityCss.ClassList

variable {t : Text} {c : Char} {start : Nat}

namespace Scan

variable {s : Scan}

/-! ### What is open -/

/-- The chains of the open groups and the places where they start, innermost first. -/
def openings (s : Scan) : List (Text × Nat) :=
  s.groups.map fun g => (g.chain, g.start)

/-- Where the outermost open group starts, or else the token that is being read. -/
def restart? (s : Scan) : Option Nat :=
  (s.openings.getLast?.map (·.2)).or (s.token.map (·.start))

theorem openings_add (s : Scan) (items : List Text) : (s.add items).openings = s.openings := by
  cases hgroups : s.groups <;> simp [add, openings, hgroups]

theorem openings_flush (s : Scan) : s.flush.openings = s.openings := by
  rw [flush]
  split
  · rfl
  · dsimp only
    split
    · rfl
    · exact openings_add _ _

/-- A character that is kept opens no group and closes none. -/
theorem openings_push (s : Scan) (c : Char) : (s.push c).openings = s.openings := by
  cases htoken : s.token <;> simp [push, openings, htoken]

/-- Closing a group closes the innermost one and no other. -/
theorem openings_closeGroup (s : Scan) : s.closeGroup.openings = s.openings.tail := by
  rw [← openings_flush s, closeGroup]
  cases hgroups : s.flush.groups with
  | nil => simp [openings, hgroups]
  | cons g rest =>
      dsimp only
      rw [openings_add]
      simp [openings, hgroups]

theorem token_flush (s : Scan) : s.flush.token = none := by
  obtain ⟨done, groups, hflush, -⟩ := s.flush_eq
  rw [hflush]

/-- Behind a closed group there is no token yet. -/
theorem token_closeGroup (s : Scan) : s.closeGroup.token = none := by
  obtain ⟨done, groups, hclose⟩ := s.closeGroup_eq
  rw [hclose]

theorem done_push (s : Scan) (c : Char) : (s.push c).done = s.done := by
  cases htoken : s.token <;> simp [push, htoken]

/-- In a group no token is finished outside of it. -/
theorem done_add (h : s.groups ≠ []) (items : List Text) : (s.add items).done = s.done := by
  cases hgroups : s.groups with
  | nil => exact absurd hgroups h
  | cons g rest => simp [add, hgroups]

theorem done_flush (h : s.groups ≠ []) : s.flush.done = s.done := by
  rw [flush]
  split
  · rfl
  · dsimp only
    split
    · rfl
    · exact done_add (s := { s with token := none }) h _

/-- Only closing the outermost group finishes tokens outside of all groups. -/
theorem done_closeGroup (h : s.openings.tail ≠ []) : s.closeGroup.done = s.done := by
  have hgroups : s.groups ≠ [] := by
    rintro hnone
    exact h (by rw [openings, hnone]; rfl)
  rw [← openings_flush s] at h
  rw [← done_flush hgroups, closeGroup]
  cases hflush : s.flush.groups with
  | nil => rfl
  | cons g rest =>
      have hrest : rest ≠ [] := by simpa [openings, hflush] using h
      exact done_add (s := { s.flush with groups := rest }) hrest _

theorem head_push (s : Scan) (c : Char) : (s.push c).head = s.head ++ [c] := by
  cases htoken : s.token <;> simp [push, head, htoken]

/-- Outside of all groups, the token is finished. -/
theorem done_flush_of_no_groups (h : s.groups = []) :
    s.flush.done = s.done ++ Text.attach s.head [] := by
  cases htoken : s.token with
  | none => simp [flush, head, htoken, Text.attach]
  | some t =>
      by_cases hempty : t.reversed = []
      · simp [flush, head, htoken, hempty, Text.attach]
      · simp [flush, head, htoken, hempty, Text.attach, add, h]

/-- The openings belong to the open groups. -/
theorem groups_eq_nil_iff : s.openings = [] ↔ s.groups = [] :=
  List.map_eq_nil_iff

theorem chain?_eq_some {chain : Text} (h : s.chain? = some chain) :
    ∃ start, s.token = some ⟨start, ':' :: chain.reverse⟩ ∧ ClassToken.isVariantChain chain := by
  rw [chain?] at h
  split at h
  next start reversed htoken =>
      dsimp only at h
      split at h
      next hchain =>
          cases h
          exact ⟨start, by simpa using htoken, hchain⟩
      next => cases h
  next => cases h

/-! ### Starting again at the outermost group -/

/-- There is no place to start again from if no group and no token is open. -/
theorem restart?_eq_none_iff : s.restart? = none ↔ s.groups = [] ∧ s.token = none := by
  simp [restart?, openings]

/-- Between tokens, it is the start of the outermost group. -/
theorem restart?_of_no_token (h : s.token = none) :
    s.restart? = s.openings.getLast?.map (·.2) := by
  rw [restart?, h]
  exact Option.or_none

theorem restart?_flush (h : s.groups ≠ []) : s.flush.restart? = s.restart? := by
  obtain ⟨o, ho⟩ : ∃ o, s.openings.getLast? = some o :=
    Option.isSome_iff_exists.1 (by simpa [openings] using h)
  rw [restart?, restart?, openings_flush, ho]
  rfl

theorem restart?_flush_of_no_groups (h : s.groups = []) : s.flush.restart? = none := by
  rw [restart?_of_no_token s.token_flush, openings_flush, openings, h]
  rfl

/-- A character begins a token where none is open. -/
theorem restart?_push (s : Scan) (c : Char) :
    (s.push c).restart? = s.restart?.or (some s.position) := by
  rw [restart?, openings_push, restart?, Option.or_assoc]
  cases htoken : s.token <;> simp [push, htoken]

/-- A group starts where its chain does. -/
theorem restart?_openGroup {chain : Text} (h : s.chain? = some chain) :
    (s.openGroup chain).restart? = s.restart? := by
  obtain ⟨start, htoken, -⟩ := chain?_eq_some h
  have hopenings : (s.openGroup chain).openings = (chain, start) :: s.openings := by
    simp [openGroup, openings, htoken]
  rw [restart?_of_no_token rfl, hopenings, List.getLast?_cons, restart?, htoken]
  cases s.openings.getLast? <;> rfl

theorem restart?_closeGroup (h : s.openings.tail ≠ []) : s.closeGroup.restart? = s.restart? := by
  rw [restart?_of_no_token s.token_closeGroup, openings_closeGroup, restart?]
  cases hopenings : s.openings with
  | nil => exact absurd (by rw [hopenings]; rfl) h
  | cons o rest =>
      obtain ⟨p, rest, rfl⟩ : ∃ p rest', rest = p :: rest' := by
        rw [hopenings] at h
        exact List.exists_cons_of_ne_nil h
      rw [List.tail_cons, List.getLast?_cons_cons, List.getLast?_cons]
      rfl

/-- **A step** leaves nothing to start again from, or it finishes no token outside of all groups.
Then the place to start again is the one before, if there was one, or else that of the step. -/
theorem restart?_step (s : Scan) (c : Char) :
    (s.step c).restart? = none ∨
    (s.step c).done = s.done ∧ ((s.step c).restart? = s.restart? ∨
      s.restart? = none ∧ (s.step c).restart? = some s.position) := by
  obtain ⟨-, -, hstep⟩ | ⟨brackets, parens, escaped, -, -, hstep⟩ | ⟨chain, -, -, hchain, hstep⟩ |
    ⟨-, -, hstep⟩ := step_cases s c
  · by_cases hgroups : s.groups = []
    · left
      rw [hstep]
      exact restart?_flush_of_no_groups hgroups
    · right
      rw [hstep]
      exact ⟨done_flush hgroups, .inl (restart?_flush hgroups)⟩
  · right
    rw [hstep]
    refine ⟨done_push s c, ?_⟩
    cases hrestart : s.restart? with
    | none => exact .inr ⟨rfl, (restart?_push s c).trans (by rw [hrestart]; rfl)⟩
    | some p => exact .inl ((restart?_push s c).trans (by rw [hrestart]; rfl))
  · right
    rw [hstep]
    exact ⟨rfl, .inl (restart?_openGroup hchain)⟩
  · by_cases hrest : s.openings.tail = []
    · left
      rw [hstep]
      refine (restart?_of_no_token s.token_closeGroup).trans ?_
      rw [openings_closeGroup, hrest]
      rfl
    · right
      rw [hstep]
      exact ⟨done_closeGroup hrest, .inl (restart?_closeGroup hrest)⟩

/-! ### What is open stands in the text -/

/-- What the reader of a text holds open stands in the text: the token at its end, and every group
from its chain on. -/
structure Located (t : Text) (s : Scan) : Prop where
  token : ∀ p ∈ s.token, p.start ≤ t.length ∧ t.drop p.start = p.reversed.reverse
  openings : ∀ o ∈ s.openings, o.2 ≤ t.length ∧ ClassToken.isVariantChain o.1 ∧
    ∃ rest, t.drop o.2 = o.1 ++ ':' :: '(' :: rest

theorem drop_concat (h : start ≤ t.length) (c : Char) :
    (t ++ [c]).drop start = t.drop start ++ [c] := by
  rw [List.drop_append_of_le_length h]

/-- The starts of the tokens and groups are kept right by one character. -/
theorem located_step (h : Located t s) (hposition : s.position = t.length) (c : Char) :
    Located (t ++ [c]) (s.step c) := by
  have hlength : (t ++ [c]).length = t.length + 1 := by simp
  -- the text goes on behind the groups that are open already
  have hopenings : ∀ o ∈ s.openings, o.2 ≤ (t ++ [c]).length ∧ ClassToken.isVariantChain o.1 ∧
      ∃ rest, (t ++ [c]).drop o.2 = o.1 ++ ':' :: '(' :: rest := by
    intro o ho
    obtain ⟨hle, hchain, rest, hdrop⟩ := h.openings o ho
    exact ⟨by omega, hchain, rest ++ [c], by simp [drop_concat hle, hdrop]⟩
  obtain ⟨-, -, hstep⟩ | ⟨brackets, parens, escaped, -, -, hstep⟩ |
    ⟨chain, -, rfl, hchain, hstep⟩ | ⟨-, -, hstep⟩ := step_cases s c
  · rw [hstep]
    refine ⟨fun p hp => ?_, fun o ho => hopenings o ?_⟩
    · cases s.token_flush.symm.trans hp
    · rwa [← openings_flush s]
  · rw [hstep]
    refine ⟨fun p hp => ?_, fun o ho => hopenings o ?_⟩
    · cases htoken : s.token with
      | none =>
          have hp : some ⟨s.position, [c]⟩ = some p := by simpa [push, htoken] using hp
          cases hp
          dsimp only
          rw [hposition]
          exact ⟨by omega, by simp⟩
      | some q =>
          have hp : some ⟨q.start, c :: q.reversed⟩ = some p := by simpa [push, htoken] using hp
          cases hp
          obtain ⟨hle, hdrop⟩ := h.token q htoken
          exact ⟨by dsimp only; omega, by simp [drop_concat hle, hdrop]⟩
    · rwa [← openings_push s c]
  · rw [hstep]
    obtain ⟨start, htoken, hvariants⟩ := chain?_eq_some hchain
    obtain ⟨hle, hdrop⟩ := h.token _ htoken
    refine ⟨fun p hp => ?_, fun o ho => ?_⟩
    · cases hp
    · have ho : o ∈ (chain, start) :: s.openings := by
        simpa [openGroup, Scan.openings, htoken] using ho
      rcases List.mem_cons.1 ho with rfl | ho
      · dsimp only at hle hdrop ⊢
        exact ⟨by omega, hvariants, [], by simp [drop_concat hle, hdrop]⟩
      · exact hopenings o ho
  · rw [hstep]
    refine ⟨fun p hp => ?_, fun o ho => hopenings o ?_⟩
    · cases s.token_closeGroup.symm.trans hp
    · exact List.mem_of_mem_tail (by rwa [← openings_closeGroup])

/-! ### Reading words -/

/-- The reader reads words: no group is open, and the tokens that it has finished with the words of
its token, however the text goes on, are the words of the text. -/
structure ReadsWords (t : Text) (s : Scan) : Prop where
  groups : s.groups = []
  solid : ∀ c ∈ s.head, Text.isBlank c = false
  words : ∀ rest, Text.words (t ++ rest) = s.done ++ Text.words (s.head ++ rest)

/-- A character that hides no blank and opens no group continues the words. -/
theorem readsWords_step (h : ReadsWords t s) (hhides : s.escaped → Text.isBlank c = false)
    (hopens : c = '(' → s.chain? = none) : ReadsWords (t ++ [c]) (s.step c) := by
  obtain ⟨-, hc, hstep⟩ | ⟨brackets, parens, escaped, hkept, -, hstep⟩ |
    ⟨chain, -, hopen, hchain, hstep⟩ | ⟨-, hgroups, hstep⟩ := step_cases s c
  · -- the token is finished, and the words behind it begin with the rest
    have hhead : s.flush.head = [] := by rw [head, token_flush]
    have hwords : ∀ rest, Text.words (t ++ [c] ++ rest) =
        s.flush.done ++ Text.words (s.flush.head ++ rest) := by
      intro rest
      rw [List.append_assoc, List.singleton_append, h.words, Text.words_append_blank h.solid hc,
        Text.attach_eq_append, done_flush_of_no_groups h.groups, hhead, List.nil_append,
        List.append_assoc]
    rw [hstep]
    refine ⟨?_, fun d hd => ?_, hwords⟩
    · exact groups_eq_nil_iff.1 ((openings_flush s).trans (groups_eq_nil_iff.2 h.groups))
    · exact absurd (hhead ▸ hd) List.not_mem_nil
  · have hc : Text.isBlank c = false :=
      Bool.eq_false_iff.2 fun hblank => absurd hblank (by simp [hhides (hkept hblank)])
    have hwords : ∀ rest, Text.words (t ++ [c] ++ rest) =
        (s.push c).done ++ Text.words ((s.push c).head ++ rest) := by
      intro rest
      rw [head_push, done_push, List.append_assoc, List.append_assoc, h.words]
    rw [hstep]
    refine ⟨?_, fun d hd => ?_, hwords⟩
    · exact groups_eq_nil_iff.1 ((openings_push s c).trans (groups_eq_nil_iff.2 h.groups))
    · rcases List.mem_append.1 (head_push s c ▸ hd) with hd | hd
      · exact h.solid d hd
      · rwa [List.mem_singleton.1 hd]
  · rw [hopens hopen] at hchain
    cases hchain
  · exact absurd h.groups hgroups

end Scan

open Scan

/-! ### Runs -/

/-- **Where the reader could start again** it has no token and no open group, and it has finished
the tokens that it has finished at the end. -/
theorem restart?_scan (h : (scan t).restart? = some start) :
    start ≤ t.length ∧ (scan (t.take start)).restart? = none ∧
      (scan (t.take start)).done = (scan t).done := by
  induction t using List.reverseRecOn with
  | nil => cases h
  | append_singleton t c ih =>
      rw [scan_concat] at h ⊢
      obtain hnone | ⟨hdone, hsame | ⟨hnone, hnew⟩⟩ := restart?_step (scan t) c
      · rw [hnone] at h
        cases h
      · obtain ⟨hle, hfresh, hbefore⟩ := ih (hsame ▸ h)
        rw [List.take_append_of_le_length hle, hdone, List.length_append]
        exact ⟨by omega, hfresh, hbefore⟩
      · rw [hnew, position_scan] at h
        cases h
        rw [List.take_left, hdone, List.length_append]
        exact ⟨by omega, hnone, rfl⟩

/-- The starts of the tokens and groups are right behind every text. -/
theorem located_scan (t : Text) : Located t (scan t) := by
  induction t using List.reverseRecOn with
  | nil => exact ⟨nofun, nofun⟩
  | append_singleton t c ih =>
      rw [scan_concat]
      exact located_step ih (position_scan t) c

/-- A chain of variants before a parenthesis ends with a colon. -/
theorem getLast?_of_chain? {chain : Text} (h : (scan t).chain? = some chain) :
    t.getLast? = some ':' := by
  obtain ⟨start, htoken, -⟩ := chain?_eq_some h
  obtain ⟨-, hdrop⟩ := (located_scan t).token _ htoken
  have hlast : (t.drop start).getLast? = some ':' := by simp [hdrop]
  rw [← List.take_append_drop start t, List.getLast?_append, hlast]
  rfl

/-- No blank stands behind a backslash, which would hide it. -/
def HidesNoBlank (t : Text) : Prop :=
  t.IsChain fun c d => c = '\\' → Text.isBlank d = false

/-- No parenthesis stands behind a colon, where a group could open. -/
def OpensNoGroup (t : Text) : Prop :=
  t.IsChain fun c d => c = ':' → d ≠ '('

instance (t : Text) : Decidable (HidesNoBlank t) :=
  inferInstanceAs (Decidable (t.IsChain _))

instance (t : Text) : Decidable (OpensNoGroup t) :=
  inferInstanceAs (Decidable (t.IsChain _))

/-- Where no group can open, words are read. -/
theorem readsWords_scan (hhides : HidesNoBlank t) (hopens : OpensNoGroup t) :
    ReadsWords t (scan t) := by
  induction t using List.reverseRecOn with
  | nil => exact ⟨rfl, nofun, fun _ => rfl⟩
  | append_singleton t c ih =>
      obtain ⟨hbefore, -, hblank⟩ := List.isChain_append.1 hhides
      obtain ⟨hclosed, -, hcolon⟩ := List.isChain_append.1 hopens
      rw [scan_concat]
      refine readsWords_step (ih hbefore hclosed) (fun hescaped => ?_) fun hc => ?_
      · exact hblank _ (getLast?_of_escaped hescaped) c rfl rfl
      · refine Option.eq_none_iff_forall_not_mem.2 fun chain hchain => ?_
        exact hcolon _ (getLast?_of_chain? hchain) c rfl rfl hc

/-! ### Expansion -/

/-- A start that is given belongs to the outermost open group. -/
theorem exists_opening (h : unclosedStart? t = some start) :
    ∃ chain, (scan t).openings.getLast? = some (chain, start) := by
  obtain ⟨g, hlast, rfl⟩ := Option.map_eq_some_iff.1 h
  exact ⟨g.chain, by rw [openings, List.getLast?_map, hlast]; rfl⟩

/-- The text from the outermost open group on is cut into words. -/
theorem expand_of_unclosedStart? (h : unclosedStart? t = some start) :
    expand t = (scan t).done ++ Text.words (t.drop start) := by
  obtain ⟨chain, hlast⟩ := exists_opening h
  have hgroups : (scan t).groups ≠ [] := by
    intro hnone
    rw [openings, hnone] at hlast
    cases hlast
  rw [← openings_flush, openings, List.getLast?_map] at hlast
  obtain ⟨g, hg, hpair⟩ := Option.map_eq_some_iff.1 hlast
  obtain ⟨-, rfl⟩ := Prod.mk.inj hpair
  rw [expand, hg]
  dsimp only
  rw [done_flush hgroups]

/-- **What is left as it is written.**  Where no blank is hidden and no parenthesis stands behind a
colon, the tokens are the words of the text.  Where groups are left open, the outermost of them
starts with a chain of variants and a parenthesis, with no group open there; what stands before is
expanded by itself, and from there on the tokens are the words of the text. -/
theorem expand_literal (t : Text) :
    (HidesNoBlank t → OpensNoGroup t → expand t = Text.words t) ∧
    ∀ start, unclosedStart? t = some start →
      unclosedStart? (t.take start) = none ∧
      (∃ chain rest, ClassToken.isVariantChain chain ∧ t.drop start = chain ++ ':' :: '(' :: rest) ∧
      expand t = expand (t.take start) ++ Text.words (t.drop start) := by
  refine ⟨fun hhides hopens => ?_, fun start hstart => ?_⟩
  · have hread := readsWords_scan hhides hopens
    have hwords := hread.words []
    rw [List.append_nil, List.append_nil, Text.words_of_no_blank hread.solid] at hwords
    rw [expand_of_groups hread.groups, done_flush_of_no_groups hread.groups, hwords]
  · obtain ⟨chain, hlast⟩ := exists_opening hstart
    have hrestart : (scan t).restart? = some start := by
      rw [restart?, hlast]
      rfl
    obtain ⟨-, hfresh, hdone⟩ := restart?_scan hrestart
    obtain ⟨hnone, htoken⟩ := restart?_eq_none_iff.1 hfresh
    obtain ⟨-, hchain, rest, hdrop⟩ :=
      (located_scan t).openings _ (List.mem_of_mem_getLast? hlast)
    refine ⟨by rw [unclosedStart?, hnone]; rfl, ⟨chain, rest, hchain, hdrop⟩, ?_⟩
    rw [expand_of_unclosedStart? hstart, expand_of_groups hnone, flush_of_token htoken, hdone]

theorem expand_literal_unclosed :
    HidesNoBlank "a) [b (c:d) :]".toList ∧ OpensNoGroup "a) [b (c:d) :]".toList ∧
    expand "a) [b (c:d) :]".toList =
      ["a)".toList, "[b".toList, "(c:d)".toList, ":]".toList] ∧
    unclosedStart? "md:(a b) hover:(p-4 md:(m-1 m-2) z".toList = some 9 ∧
    expand "md:(a b) hover:(p-4 md:(m-1 m-2) z".toList =
      ["md:a".toList, "md:b".toList, "hover:(p-4".toList, "md:(m-1".toList, "m-2)".toList,
        "z".toList] := by
  have hhides : HidesNoBlank "a) [b (c:d) :]".toList := by decide
  have hopens : OpensNoGroup "a) [b (c:d) :]".toList := by decide
  have hstart : unclosedStart? "md:(a b) hover:(p-4 md:(m-1 m-2) z".toList = some 9 := by
    decide +kernel
  obtain ⟨-, -, hexpand⟩ := (expand_literal "md:(a b) hover:(p-4 md:(m-1 m-2) z".toList).2 9 hstart
  exact ⟨hhides, hopens, (expand_literal "a) [b (c:d) :]".toList).1 hhides hopens, hstart, hexpand⟩

end UtilityCss.ClassList

import Mathlib.Data.List.Basic
import UtilityCss.Proofs.ClassList.Joined
import UtilityCss.Proofs.ClassList.Restart

/-!
# Class lists — expansion piece by piece

A class list may be cut at its top-level blanks before its pieces are expanded, one by one
(`splitList`), or it may be expanded as a whole.  The two ways count brackets differently.  The cut
goes by one depth for brackets of both kinds, which any closing bracket lowers; the expansion knows
which brackets are part of a token.  So in `hover:(content-[)] p-4)` the brackets of `content-[)]`
make the depth zero, and the list is cut within its group (`not_always_piecewise`).

**Expansion piece by piece** (`flatMap_expand_splitList`).  If no group is open where the list is
cut, the tokens of its pieces are the tokens of the list.

That is so for every list whose closing brackets each match the last bracket that is open
(`cutsOutside_of_isNested`): then the brackets that the reader counts are among the open ones, in
their order (`counted_scan`), and where the depth is zero, none is open.
-/

namespace UtilityCss.ClassList

open Scan

variable {t before after : Text} {c : Char}

/-! ### Cuts -/

/-- No group is open where the text is cut. -/
def CutsOutside (t : Text) : Prop :=
  ∀ before c after, t = before ++ c :: after → Text.isBlank c → depthOf before = 0 →
    (scan before).groups = []

/-- A text that is cut is cut at a blank at depth zero, and what follows is cut by itself. -/
theorem cutTop_cases (depth : Nat) (t : Text) :
    cutTop Text.isBlank depth t = (t, []) ∨
    ∃ before c after, t = before ++ c :: after ∧ Text.isBlank c ∧
      before.foldl depthAfter depth = 0 ∧
      cutTop Text.isBlank depth t = (before, splitList after) := by
  obtain huncut | ⟨before, c, after, rfl, hc, hdepth, huncut⟩ := uncut_or_cut Text.isBlank depth t
  · exact .inl (cutTop_of_uncut huncut)
  · exact .inr ⟨before, c, after, rfl, hc, hdepth, cutTop_append_cut huncut hdepth hc after⟩

/-- A blank is no bracket. -/
theorem isFlat_of_isBlank (hc : Text.isBlank c) : isFlat c := by
  have hne {d : Char} (hd : Text.isBlank d = false) : c ≠ d := by
    rintro rfl
    exact absurd hc (by simp [hd])
  simp [isFlat, isOpener, isCloser, hne (d := '[') rfl, hne (d := '(') rfl, hne (d := ']') rfl,
    hne (d := ')') rfl]

/-- What follows a cut is cut where the text is. -/
theorem CutsOutside.rest (h : CutsOutside (before ++ c :: after))
    (hescaped : (scan before).escaped = false) (hc : Text.isBlank c) (hdepth : depthOf before = 0) :
    CutsOutside after := by
  intro first d last hafter hd hfirst
  have hgroups := h before c after rfl hc hdepth
  have hthrough : depthOf (before ++ c :: first) = 0 := by
    rw [depthOf, List.foldl_append, ← depthOf, hdepth, List.foldl_cons,
      depthAfter_of_isFlat (isFlat_of_isBlank hc)]
    exact hfirst
  have hclosed := h (before ++ c :: first) d last (by simp [hafter]) hd hthrough
  rw [scan_cut hescaped hc hgroups first] at hclosed
  exact List.map_eq_nil_iff.mp hclosed

theorem flatMap_expand_attach (piece : Text) (pieces : List Text) :
    (Text.attach piece pieces).flatMap expand = expand piece ++ pieces.flatMap expand := by
  cases piece <;> rfl

/-- If no group is open where a text without backslashes is cut, its pieces expand to what it
expands to. -/
theorem flatMap_expand_splitList {t : Text} (hbackslash : '\\' ∉ t) (h : CutsOutside t) :
    (splitList t).flatMap expand = expand t := by
  rw [splitList, splitTop]
  obtain hwhole | ⟨before, c, after, rfl, hc, hdepth, hcut⟩ := cutTop_cases 0 t
  · rw [hwhole, flatMap_expand_attach, List.flatMap_nil, List.append_nil]
  · rw [List.mem_append, List.mem_cons, not_or, not_or] at hbackslash
    obtain ⟨hbefore, -, hafter⟩ := hbackslash
    have hescaped := escaped_scan hbefore
    have ih := flatMap_expand_splitList hafter (h.rest hescaped hc hdepth)
    rw [hcut, flatMap_expand_attach, ih,
      expand_cut hescaped hc (h before c after rfl hc hdepth)]
termination_by t.length

/-! ### Nested brackets -/

/-- The opening bracket that a closing one matches. -/
def openerOf (c : Char) : Char :=
  if c == ']' then '[' else '('

/-- The open brackets after a character, innermost first, if a closing bracket matches the innermost
one. -/
def opensAfter? (opens : List Char) (c : Char) : Option (List Char) :=
  if isOpener c then some (c :: opens)
  else if isCloser c then
    match opens with
    | [] => none
    | o :: rest => if o == openerOf c then some rest else none
  else some opens

/-- The brackets that a text leaves open, if its closing brackets each match the last bracket that
is open. -/
def opens? (t : Text) : Option (List Char) :=
  t.foldlM opensAfter? []

/-- Closing brackets each match the last bracket that is open; brackets may be left open. -/
def isNested (t : Text) : Bool :=
  (opens? t).isSome

/-- The brackets that the reader counts as open, innermost first. -/
def Scan.counted (s : Scan) : List Char :=
  List.replicate s.brackets '[' ++ List.replicate (s.parens + s.groups.length) '('

theorem isCloser_of_isOpener (h : isOpener c) : isCloser c = false := by
  rw [isOpener, Bool.or_eq_true, beq_iff_eq, beq_iff_eq] at h
  obtain rfl | rfl := h <;> rfl

/-- What a character does to the open brackets. -/
theorem opensAfter?_cases {opens next : List Char} (h : opensAfter? opens c = some next) :
    (isOpener c ∧ next = c :: opens) ∨
    (isCloser c ∧ isOpener c = false ∧ opens = openerOf c :: next) ∨
    (isOpener c = false ∧ isCloser c = false ∧ next = opens) := by
  rw [opensAfter?.eq_def] at h
  by_cases hopen : isOpener c
  · rw [if_pos hopen] at h
    exact .inl ⟨hopen, by simpa using h.symm⟩
  rw [if_neg hopen] at h
  rw [Bool.not_eq_true] at hopen
  by_cases hclose : isCloser c
  · rw [if_pos hclose] at h
    cases opens with
    | nil => cases h
    | cons o rest =>
        obtain ⟨ho, hrest⟩ : o = openerOf c ∧ rest = next := by simpa using h
        exact .inr (.inl ⟨hclose, hopen, by rw [ho, hrest]⟩)
  · rw [if_neg hclose] at h
    exact .inr (.inr ⟨hopen, by simpa using hclose, by simpa using h.symm⟩)

theorem opens?_append {u : Text} {opens : List Char} (h : opens? (t ++ u) = some opens) :
    ∃ between, opens? t = some between ∧ u.foldlM opensAfter? between = some opens := by
  rwa [opens?, List.foldlM_append, Option.bind_eq_bind, Option.bind_eq_some_iff] at h

theorem opens?_concat {opens : List Char} (h : opens? (t ++ [c]) = some opens) :
    ∃ between, opens? t = some between ∧ opensAfter? between c = some opens := by
  obtain ⟨between, hbetween, hlast⟩ := opens?_append h
  exact ⟨between, hbetween, by simpa using hlast⟩

theorem depthOf_of_opens? {opens : List Char} (h : opens? t = some opens) :
    depthOf t = opens.length := by
  induction t using List.reverseRecOn generalizing opens with
  | nil =>
      cases h
      rfl
  | append_singleton t c ih =>
      obtain ⟨before, hbefore, hlast⟩ := opens?_concat h
      rw [depthOf, List.foldl_append, ← depthOf, ih hbefore, List.foldl_cons, List.foldl_nil,
        depthAfter]
      obtain ⟨hopen, rfl⟩ | ⟨hclose, hopen, rfl⟩ | ⟨hopen, hclose, rfl⟩ := opensAfter?_cases hlast
      · rw [if_pos hopen]
        rfl
      · rw [hopen, if_pos hclose]
        rfl
      · rw [hopen, hclose]
        rfl

namespace Scan

variable {s : Scan}

theorem groups_add (s : Scan) (items : List Text) :
    (s.add items).groups.length = s.groups.length := by
  cases hgroups : s.groups <;> simp [add, hgroups]

theorem groups_flush (s : Scan) : s.flush.groups.length = s.groups.length := by
  rw [flush]
  split
  · rfl
  · dsimp only
    split
    · rfl
    · exact groups_add _ _

theorem counted_keep (s : Scan) (c : Char) (brackets parens : Nat) :
    (s.keep c brackets parens).counted =
      List.replicate brackets '[' ++ List.replicate (parens + s.groups.length) '(' := by
  cases htoken : s.token <;> simp [keep, push, counted, htoken]

theorem counted_begin (s : Scan) : s.begin.counted = s.counted := by
  cases htoken : s.token <;> simp [begin, counted, htoken]

theorem counted_add (s : Scan) (items : List Text) : (s.add items).counted = s.counted := by
  cases hgroups : s.groups <;> simp [add, counted, hgroups]

theorem counted_closeGroup (hbrackets : s.brackets = 0) (hparens : s.parens = 0)
    (hgroups : s.groups ≠ []) : s.counted = '(' :: s.closeGroup.counted := by
  obtain ⟨done, groups, hflush, -⟩ := s.flush_eq
  have hlength : groups.length = s.groups.length := by
    rw [← groups_flush, hflush]
  rw [closeGroup, hflush]
  cases groups with
  | nil => exact absurd (List.length_eq_zero_iff.mp hlength.symm) hgroups
  | cons g rest =>
      dsimp only
      rw [counted_add]
      simp [counted, hbrackets, hparens, ← hlength, List.replicate_succ]

/-- What a character does to the counted brackets: it adds itself, it takes its opening bracket
away, or it leaves them as they are, a closing bracket only where its opening one is not the
innermost. -/
def Recounts (c : Char) (counted next : List Char) : Prop :=
  (isOpener c ∧ next = c :: counted) ∨ (isCloser c ∧ counted = openerOf c :: next) ∨
    ((isCloser c → counted.head? ≠ some (openerOf c)) ∧ next = counted)

theorem recounts_keep (hgroups : c = ')' → s.brackets = 0 → s.parens = 0 → s.groups = []) :
    Recounts c s.counted (s.keep c (squareAfter s.brackets c)
      (if s.brackets = 0 then roundAfter s.parens c else s.parens)).counted := by
  rw [counted_keep]
  by_cases hsquare : c = '['
  · subst hsquare
    exact .inl ⟨rfl, by simp [squareAfter, roundAfter, counted, List.replicate_succ]⟩
  -- within square brackets only these are counted, so a round one there does not match one that
  -- is counted
  cases hbrackets : s.brackets with
  | zero =>
      have hcounted : s.counted = List.replicate (s.parens + s.groups.length) '(' := by
        simp [counted, hbrackets]
      have hzero : squareAfter 0 c = 0 := by simp [squareAfter, hsquare]
      rw [if_pos rfl, hcounted, hzero, List.replicate_zero, List.nil_append]
      by_cases hopen : c = '('
      · subst hopen
        exact .inl ⟨rfl, by simp [roundAfter, Nat.add_right_comm, List.replicate_succ]⟩
      by_cases hround : c = ')'
      · subst hround
        cases hparens : s.parens with
        | zero => exact .inr (.inr ⟨by simp [hgroups rfl hbrackets hparens], rfl⟩)
        | succ n =>
            refine .inr (.inl ⟨rfl, ?_⟩)
            simp [roundAfter, openerOf, Nat.add_right_comm, List.replicate_succ]
      · refine .inr (.inr ⟨fun hclose => ?_, by simp [roundAfter, hopen, hround]⟩)
        have hsquare : c = ']' := by simpa [isCloser, hround] using hclose
        simp [hsquare, openerOf, List.head?_replicate]
  | succ n =>
      have hcounted : s.counted = '[' :: (List.replicate n '[' ++
          List.replicate (s.parens + s.groups.length) '(') := by
        simp [counted, hbrackets, List.replicate_succ]
      rw [if_neg n.succ_ne_zero, hcounted]
      by_cases hclose : c = ']'
      · subst hclose
        exact .inr (.inl ⟨rfl, rfl⟩)
      · have hsame : squareAfter (n + 1) c = n + 1 := by simp [squareAfter, hsquare, hclose]
        refine .inr (.inr ⟨fun hcloser => ?_, by rw [hsame]; rfl⟩)
        have hround : c = ')' := by simpa [isCloser, hclose] using hcloser
        simp [hround, openerOf]

theorem recounts_visit (hc : c ≠ '\\') : Recounts c s.counted (s.visit c).counted := by
  obtain ⟨chain, rfl, hbrackets, hparens, -, hvisit⟩ |
    ⟨rfl, hbrackets, hparens, hgroups, hvisit⟩ | ⟨hgroups, hvisit⟩ := visit_cases (s := s) hc
  · refine .inl ⟨rfl, ?_⟩
    rw [hvisit]
    simp [openGroup, counted, hbrackets, hparens, List.replicate_succ]
  · refine .inr (.inl ⟨rfl, ?_⟩)
    rw [hvisit]
    exact counted_closeGroup hbrackets hparens hgroups
  · rw [hvisit]
    exact recounts_keep hgroups

/-- If what is counted as open is open, it is so after a character. -/
theorem Recounts.sublist {counted after opens next : List Char} (h : Recounts c counted after)
    (hopens : counted.Sublist opens) (hnext : opensAfter? opens c = some next) :
    after.Sublist next := by
  obtain ⟨hopen, rfl⟩ | ⟨hclose, hopen, rfl⟩ | ⟨hopen, hclose, rfl⟩ := opensAfter?_cases hnext
  · obtain ⟨-, rfl⟩ | ⟨hclose, -⟩ | ⟨-, rfl⟩ := h
    · exact hopens.cons_cons c
    · exact absurd hclose (by simp [isCloser_of_isOpener hopen])
    · exact hopens.cons c
  · obtain ⟨hopener, -⟩ | ⟨-, rfl⟩ | ⟨hhead, rfl⟩ := h
    · exact absurd hopener (by simp [hopen])
    · exact List.cons_sublist_cons.mp hopens
    · cases after with
      | nil => exact List.nil_sublist next
      | cons o rest => exact hopens.of_cons_of_ne fun ho => hhead hclose (congrArg some ho)
  · obtain ⟨hopener, -⟩ | ⟨hcloser, -⟩ | ⟨-, rfl⟩ := h
    · exact absurd hopener (by simp [hopen])
    · exact absurd hcloser (by simp [hclose])
    · exact hopens

theorem counted_step {opens next : List Char} (hescaped : s.escaped = false) (hc : c ≠ '\\')
    (h : s.counted.Sublist opens) (hnext : opensAfter? opens c = some next) :
    (s.step c).counted.Sublist next := by
  by_cases hblank : Text.isBlank c
  · have hflat := isFlat_of_isBlank hblank
    simp only [isFlat, Bool.and_eq_true, Bool.not_eq_true'] at hflat
    rw [opensAfter?.eq_def, hflat.1, hflat.2] at hnext
    cases hnext
    have hafter : (s.step c).counted = List.replicate s.groups.length '(' := by
      simp [step_blank hescaped hblank, counted, groups_flush]
    have hcounted : (s.step c).counted.Sublist s.counted := by
      rw [hafter, counted, ← List.replicate_append_replicate, ← List.append_assoc]
      exact List.sublist_append_right ..
    exact hcounted.trans h
  · rw [step_eq_visit hescaped (by simpa using hblank)]
    rw [← counted_begin] at h
    exact (recounts_visit hc).sublist h hnext

end Scan

/-- What the reader counts as open is open. -/
theorem counted_scan {opens : List Char} (hbackslash : '\\' ∉ t) (h : opens? t = some opens) :
    (scan t).counted.Sublist opens := by
  induction t using List.reverseRecOn generalizing opens with
  | nil => exact List.nil_sublist opens
  | append_singleton t c ih =>
      obtain ⟨before, hbefore, hlast⟩ := opens?_concat h
      rw [List.mem_append, List.mem_singleton, not_or] at hbackslash
      rw [scan_concat]
      have hcounted := ih hbackslash.1 hbefore
      exact counted_step (escaped_scan hbackslash.1) (Ne.symm hbackslash.2) hcounted hlast

/-- A text whose closing brackets each match the last bracket that is open is cut outside of all
groups. -/
theorem cutsOutside_of_isNested (hbackslash : '\\' ∉ t) (h : isNested t) : CutsOutside t := by
  intro before c after ht hc hdepth
  subst ht
  obtain ⟨opens, hopens⟩ := Option.isSome_iff_exists.mp h
  obtain ⟨between, hbetween, -⟩ := opens?_append hopens
  rw [List.mem_append, not_or] at hbackslash
  have hcounted := counted_scan hbackslash.1 hbetween
  rw [depthOf_of_opens? hbetween, List.length_eq_zero_iff] at hdepth
  rw [hdepth, List.sublist_nil, counted, List.append_eq_nil_iff, List.replicate_eq_nil_iff,
    List.replicate_eq_nil_iff] at hcounted
  exact List.length_eq_zero_iff.mp (by omega)

/-- A list of nested groups and brackets. -/
theorem flatMap_expand_splitList_nested :
    let t := "hover:(p-4 md:(m-2 w-[calc(1px + 2px)]) a(b c)) flex x-[".toList
    '\\' ∉ t ∧ CutsOutside t ∧ (splitList t).flatMap expand = expand t := by
  intro t
  have hbackslash : '\\' ∉ t := by decide +kernel
  have hcuts : CutsOutside t := cutsOutside_of_isNested hbackslash (by decide +kernel)
  exact ⟨hbackslash, hcuts, flatMap_expand_splitList hbackslash hcuts⟩

/-- A round bracket within square ones ends the group for the cut, but not for the expansion. -/
theorem not_always_piecewise :
    ¬ ∀ t : Text, '\\' ∉ t → (splitList t).flatMap expand = expand t := by
  intro h
  exact absurd (h "hover:(content-[)] p-4)".toList (by decide +kernel)) (by decide +kernel)

end UtilityCss.ClassList

import UtilityCss.Proofs.ClassList.Literal

/-!
# Class lists — the tokens are words

The expansion is handed on as a text, its tokens joined by spaces, and that text is cut into words
again.  Nothing is lost on the way (`expand_rejoined`): as long as no blank stands behind a
backslash, every token is a word, so that the words of the joined text are the tokens.

Whatever the reader holds is free of blanks (`Scan.Solid`): the tokens that are finished, those of
every open group, the chains in front of the groups and the token that is being read.  The four
things that a character can do preserve this (`Scan.solid_step`); a blank would enter a token only
behind a backslash.  It does not matter whether the groups are well formed.  Where one is left open,
the rest is cut at blanks anyway.
-/

namespace UtilityCss.ClassList

variable {t : Text} {c : Char} {items : List Text}

namespace Scan

variable {s : Scan}

/-- Nothing that the reader holds has a blank in it, and no token that is finished is empty. -/
structure Solid (s : Scan) : Prop where
  done : ∀ token ∈ s.done, Text.isSolid token
  groups : ∀ g ∈ s.groups,
    (∀ c ∈ g.chain, Text.isBlank c = false) ∧ ∀ item ∈ g.items, Text.isSolid item
  head : ∀ c ∈ s.head, Text.isBlank c = false

theorem solid_add (h : s.Solid) (hitems : ∀ item ∈ items, Text.isSolid item) :
    (s.add items).Solid := by
  cases hgroups : s.groups with
  | nil =>
      have hadd : s.add items = { s with done := s.done ++ items } := by rw [add, hgroups]
      rw [hadd]
      exact ⟨List.forall_mem_append.2 ⟨h.done, hitems⟩, h.groups, h.head⟩
  | cons g rest =>
      obtain ⟨⟨hchain, hheld⟩, hrest⟩ := List.forall_mem_cons.1 (hgroups ▸ h.groups)
      have hadd : s.add items =
          { s with groups := { g with items := g.items ++ items } :: rest } := by
        rw [add, hgroups]
      rw [hadd]
      refine ⟨h.done, List.forall_mem_cons.2 ⟨⟨hchain, ?_⟩, hrest⟩, h.head⟩
      exact List.forall_mem_append.2 ⟨hheld, hitems⟩

theorem solid_flush (h : s.Solid) : s.flush.Solid := by
  rw [flush]
  split
  next => exact h
  next token htoken =>
      have hdropped : Solid { s with token := none } := ⟨h.done, h.groups, List.forall_mem_nil _⟩
      dsimp only
      split
      next => exact hdropped
      next hne =>
          refine solid_add hdropped (List.forall_mem_singleton.2 (Text.isSolid_iff.2 ⟨?_, ?_⟩))
          · simpa using hne
          · simpa [Scan.head, htoken] using h.head

theorem solid_push (h : s.Solid) (hc : Text.isBlank c = false) : (s.push c).Solid := by
  have hhead : ∀ d ∈ (s.push c).head, Text.isBlank d = false := by
    rw [head_push]
    exact List.forall_mem_append.2 ⟨h.head, List.forall_mem_singleton.2 hc⟩
  have hgroups : (s.push c).groups = s.groups := by
    cases htoken : s.token <;> simp [push, htoken]
  exact ⟨by rw [done_push]; exact h.done, by rw [hgroups]; exact h.groups, hhead⟩

/-- The chain of a group that opens is the token without its last colon. -/
theorem solid_openGroup {chain : Text} (h : s.Solid) (hchain : s.chain? = some chain) :
    (s.openGroup chain).Solid := by
  obtain ⟨start, htoken, -⟩ := chain?_eq_some hchain
  have hhead : s.head = chain ++ [':'] := by simp [Scan.head, htoken]
  have hsolid : ∀ d ∈ chain, Text.isBlank d = false :=
    fun d hd => h.head d (hhead ▸ List.mem_append_left _ hd)
  exact ⟨h.done, List.forall_mem_cons.2 ⟨⟨hsolid, List.forall_mem_nil _⟩, h.groups⟩,
    List.forall_mem_nil _⟩

/-- The tokens of a group that closes have its chain put in front of them. -/
theorem solid_closeGroup (h : s.Solid) : s.closeGroup.Solid := by
  have hflush := solid_flush h
  rw [closeGroup]
  cases hgroups : s.flush.groups with
  | nil => simpa [hgroups] using hflush
  | cons g rest =>
      obtain ⟨⟨hchain, hheld⟩, hrest⟩ := List.forall_mem_cons.1 (hgroups ▸ hflush.groups)
      have hbefore : Solid { s.flush with groups := rest } := ⟨hflush.done, hrest, hflush.head⟩
      refine solid_add hbefore ?_
      intro written hwritten
      obtain ⟨item, hitem, rfl⟩ := List.mem_map.1 hwritten
      obtain ⟨-, hsolid⟩ := Text.isSolid_iff.1 (hheld item hitem)
      refine Text.isSolid_iff.2 ⟨by simp, List.forall_mem_append.2 ⟨hchain, ?_⟩⟩
      exact List.forall_mem_cons.2 ⟨by decide, hsolid⟩

theorem solid_step (h : s.Solid) (hhides : s.escaped → Text.isBlank c = false) :
    (s.step c).Solid := by
  obtain ⟨-, -, hstep⟩ | ⟨brackets, parens, escaped, hkept, -, hstep⟩ |
    ⟨chain, -, -, hchain, hstep⟩ | ⟨-, -, hstep⟩ := step_cases s c
  · obtain ⟨hdone, hgroups, hhead⟩ := solid_flush h
    rw [hstep]
    exact ⟨hdone, hgroups, hhead⟩
  · have hc : Text.isBlank c = false :=
      Bool.eq_false_iff.2 fun hblank => absurd hblank (by simp [hhides (hkept hblank)])
    obtain ⟨hdone, hgroups, hhead⟩ := solid_push h hc
    rw [hstep]
    exact ⟨hdone, hgroups, hhead⟩
  · obtain ⟨hdone, hgroups, hhead⟩ := solid_openGroup h hchain
    rw [hstep]
    exact ⟨hdone, hgroups, hhead⟩
  · obtain ⟨hdone, hgroups, hhead⟩ := solid_closeGroup h
    rw [hstep]
    exact ⟨hdone, hgroups, hhead⟩

end Scan

open Scan

/-- What has been read of a text is free of blanks, whether its groups are well formed or not. -/
theorem solid_scan (hhides : HidesNoBlank t) : (scan t).Solid := by
  induction t using List.reverseRecOn with
  | nil => exact ⟨nofun, nofun, nofun⟩
  | append_singleton t c ih =>
      obtain ⟨hbefore, -, hblank⟩ := List.isChain_append.1 hhides
      rw [scan_concat]
      refine solid_step (ih hbefore) fun hescaped => ?_
      exact hblank _ (getLast?_of_escaped hescaped) c rfl rfl

theorem isSolid_of_mem_expand (hhides : HidesNoBlank t) :
    ∀ token ∈ expand t, Text.isSolid token := by
  have hsolid := solid_scan hhides
  cases hstart : unclosedStart? t with
  | none =>
      have hgroups : (scan t).groups = [] := by simpa [unclosedStart?] using hstart
      rw [expand_of_groups hgroups]
      exact (solid_flush hsolid).done
  | some start =>
      rw [expand_of_unclosedStart? hstart]
      exact List.forall_mem_append.2 ⟨hsolid.done, fun _ => Text.isSolid_of_mem_words⟩

/-- **Joining loses nothing.**  Where no blank stands behind a backslash, every token is a word; the
words of the expanded text are the tokens, and reading a class list is reading each of them. -/
theorem expand_rejoined (hhides : HidesNoBlank t) :
    (∀ token ∈ expand t, token ≠ [] ∧ ∀ c ∈ token, Text.isBlank c = false) ∧
    Text.words (expandText t) = expand t ∧
    ∀ limit, readTokens t limit = (expand t).map (ClassToken.read · limit) := by
  have hsolid := isSolid_of_mem_expand hhides
  have hwords : Text.words (expandText t) = expand t := Text.words_join hsolid
  refine ⟨fun token htoken => Text.isSolid_iff.1 (hsolid token htoken), hwords, fun limit => ?_⟩
  rw [readTokens, ClassToken.readWords, hwords]

/-- Hidden brackets, a `)` too many and a group that is left open. -/
theorem expand_rejoined_unclosed :
    HidesNoBlank "md:(a\\) [b c]) d) hover:(e md:(f".toList ∧
    expand "md:(a\\) [b c]) d) hover:(e md:(f".toList =
      ["md:a\\)".toList, "md:[b".toList, "md:c]".toList, "d)".toList, "hover:(e".toList,
        "md:(f".toList] ∧
    (expand "md:(a\\) [b c]) d) hover:(e md:(f".toList).map (ClassToken.read ·) =
      readTokens "md:(a\\) [b c]) d) hover:(e md:(f".toList := by
  have hhides : HidesNoBlank "md:(a\\) [b c]) d) hover:(e md:(f".toList := by decide
  obtain ⟨-, -, hread⟩ := expand_rejoined hhides
  exact ⟨hhides, by decide +kernel, (hread _).symm⟩

end UtilityCss.ClassList

import UtilityCss.ClassList.Split

/-!
# Class lists — where a text is cut

A text is cut at the characters that cut and stand at depth zero.  The pieces and the gaps between
them make up the text, and which pieces these are can be said without the cutting.

**Cuts** (`splitOn_splitList_iff`).  The pieces of a text are the only ones into which it can be
laid out (`CutInto`): none is empty and none is cut itself; any two have a gap between them, and so
may the text at its ends; the gaps hold nothing but what cuts; and a piece before a gap ends at
depth zero.  That is so for a delimiter that is no bracket and for blanks.

* A text is uncut, or what stands before its first cut is (`uncut_or_cut`); the former is one piece
  (`splitTop_of_uncut`), and in the latter what stands before the cut is the first piece and what
  follows is cut by itself (`splitTop_cut`).
* So the pieces can be laid out with the gaps (`exists_laidOut`), and where a text is laid out they
  are taken off one after the other (`LaidOut.splitTop_eq`).
-/

namespace UtilityCss.ClassList

variable {isCut : Char → Bool} {c : Char} {depth : Nat} {t piece gap : Text}

/-- The depth of a text, by which it is cut. -/
def depthOf (t : Text) : Nat :=
  t.foldl depthAfter 0

/-! ### Uncut texts -/

/-- A text that starts at a depth is not cut: where a character that cuts stands, the depth is not
zero. -/
def UncutFrom (isCut : Char → Bool) (depth : Nat) (t : Text) : Prop :=
  ∀ before c after, t = before ++ c :: after → isCut c → before.foldl depthAfter depth ≠ 0

theorem uncutFrom_nil (isCut : Char → Bool) (depth : Nat) : UncutFrom isCut depth [] := by
  intro before c after ht
  simp at ht

theorem uncutFrom_cons_iff :
    UncutFrom isCut depth (c :: t) ↔
      (isCut c → depth ≠ 0) ∧ UncutFrom isCut (depthAfter depth c) t := by
  constructor
  · intro h
    refine ⟨h [] c t rfl, fun before d after ht => ?_⟩
    exact h (c :: before) d after (by rw [ht, List.cons_append])
  · rintro ⟨hc, ht⟩ before d after hsplit hd
    cases before with
    | nil =>
        obtain ⟨rfl, -⟩ := List.cons.inj hsplit
        exact hc hd
    | cons b before =>
        obtain ⟨rfl, hrest⟩ := List.cons.inj hsplit
        exact ht before d after hrest hd

/-- A text without characters that cut is not cut. -/
theorem uncutFrom_of_forall (h : ∀ c ∈ t, isCut c = false) (depth : Nat) :
    UncutFrom isCut depth t := by
  rintro before c after rfl hc
  rw [h c (by simp)] at hc
  cases hc

/-- A text is not cut, or there is a first cut. -/
theorem uncut_or_cut (isCut : Char → Bool) (depth : Nat) (t : Text) :
    UncutFrom isCut depth t ∨
    ∃ before c after, t = before ++ c :: after ∧ isCut c ∧ before.foldl depthAfter depth = 0 ∧
      UncutFrom isCut depth before := by
  induction t generalizing depth with
  | nil => exact .inl (uncutFrom_nil isCut depth)
  | cons c t ih =>
      by_cases hcut : isCut c ∧ depth = 0
      · exact .inr ⟨[], c, t, rfl, hcut.1, hcut.2, uncutFrom_nil isCut depth⟩
      · have hc : isCut c → depth ≠ 0 := fun hc hdepth => hcut ⟨hc, hdepth⟩
        obtain huncut | ⟨before, d, after, rfl, hd, hdepth, huncut⟩ := ih (depthAfter depth c)
        · exact .inl (uncutFrom_cons_iff.2 ⟨hc, huncut⟩)
        · exact .inr ⟨c :: before, d, after, rfl, hd, hdepth, uncutFrom_cons_iff.2 ⟨hc, huncut⟩⟩

/-! ### Cutting -/

theorem cutTop_cons_of_not_cut (hc : isCut c → depth ≠ 0) (t : Text) :
    cutTop isCut depth (c :: t) =
      (c :: (cutTop isCut (depthAfter depth c) t).1, (cutTop isCut (depthAfter depth c) t).2) := by
  have hcut : ¬ (isCut c && depth == 0) := by simpa using hc
  rw [cutTop, if_neg hcut]

theorem cutTop_of_uncut (h : UncutFrom isCut depth t) : cutTop isCut depth t = (t, []) := by
  induction t generalizing depth with
  | nil => rfl
  | cons c t ih =>
      obtain ⟨hc, ht⟩ := uncutFrom_cons_iff.1 h
      rw [cutTop_cons_of_not_cut hc, ih ht]

/-- What stands before the first cut is the first piece, and what follows is cut by itself. -/
theorem cutTop_append_cut (h : UncutFrom isCut depth piece)
    (hdepth : piece.foldl depthAfter depth = 0) (hc : isCut c) (t : Text) :
    cutTop isCut depth (piece ++ c :: t) = (piece, splitTop isCut t) := by
  induction piece generalizing depth with
  | nil =>
      obtain rfl : depth = 0 := hdepth
      simp [cutTop, splitTop, hc]
  | cons d piece ih =>
      obtain ⟨hd, hpiece⟩ := uncutFrom_cons_iff.1 h
      rw [List.cons_append, cutTop_cons_of_not_cut hd, ih hpiece hdepth]

theorem splitTop_of_uncut (h : UncutFrom isCut 0 t) : splitTop isCut t = Text.attach t [] := by
  rw [splitTop, cutTop_of_uncut h]

theorem splitTop_cut (h : UncutFrom isCut 0 piece) (hdepth : depthOf piece = 0) (hc : isCut c)
    (t : Text) : splitTop isCut (piece ++ c :: t) = Text.attach piece (splitTop isCut t) := by
  rw [splitTop, cutTop_append_cut h hdepth hc]

/-- A gap at the start of a text does not matter. -/
theorem splitTop_gap_append (h : ∀ c ∈ gap, isCut c) (t : Text) :
    splitTop isCut (gap ++ t) = splitTop isCut t := by
  induction gap with
  | nil => rfl
  | cons c gap ih =>
      have hcut := splitTop_cut (uncutFrom_nil isCut 0) rfl (h c List.mem_cons_self) (gap ++ t)
      exact hcut.trans (ih fun d hd => h d (List.mem_cons_of_mem c hd))

/-! ### Pieces and gaps -/

/-- A text laid out as a first gap and pieces, each with the gap behind it.  The gaps hold nothing
but what cuts, and only the first and the last one may be empty. -/
structure LaidOut (isCut : Char → Bool) (t first : Text) (segments : List (Text × Text)) :
    Prop where
  text : t = first ++ segments.flatMap fun segment => segment.1 ++ segment.2
  first : ∀ c ∈ first, isCut c
  gaps : ∀ segment ∈ segments, ∀ c ∈ segment.2, isCut c
  separated : ∀ segment ∈ segments.dropLast, segment.2 ≠ []
  nonempty : ∀ segment ∈ segments, segment.1 ≠ []
  /-- No piece holds a character that cuts at depth zero. -/
  uncut : ∀ segment ∈ segments, UncutFrom isCut 0 segment.1
  /-- A piece that a gap follows ends at depth zero. -/
  level : ∀ segment ∈ segments, segment.2 ≠ [] → depthOf segment.1 = 0

/-- The pieces into which a text can be laid out. -/
def CutInto (isCut : Char → Bool) (t : Text) (pieces : List Text) : Prop :=
  ∃ first segments, LaidOut isCut t first segments ∧ segments.map Prod.fst = pieces

variable {first : Text} {segment : Text × Text} {segments : List (Text × Text)}

theorem forall_mem_dropLast_cons {P : Text × Text → Prop} (hsegment : P segment)
    (h : ∀ s ∈ segments.dropLast, P s) : ∀ s ∈ (segment :: segments).dropLast, P s := by
  cases segments with
  | nil => exact nofun
  | cons s rest =>
      rw [List.dropLast_cons_cons]
      exact List.forall_mem_cons.2 ⟨hsegment, h⟩

/-- Without the first piece, the rest is laid out behind its gap. -/
theorem LaidOut.rest (h : LaidOut isCut t first ((piece, gap) :: segments)) :
    LaidOut isCut (gap ++ segments.flatMap fun segment => segment.1 ++ segment.2) gap segments where
  text := rfl
  first := h.gaps _ List.mem_cons_self
  gaps s hs := h.gaps s (List.mem_cons_of_mem _ hs)
  separated s hs := by
    refine h.separated s ?_
    cases segments with
    | nil => cases hs
    | cons s' rest => exact List.mem_cons_of_mem _ hs
  nonempty s hs := h.nonempty s (List.mem_cons_of_mem _ hs)
  uncut s hs := h.uncut s (List.mem_cons_of_mem _ hs)
  level s hs := h.level s (List.mem_cons_of_mem _ hs)

/-- Only the last piece has no gap behind it. -/
theorem LaidOut.eq_nil (h : LaidOut isCut t first ((piece, []) :: segments)) : segments = [] := by
  cases segments with
  | nil => rfl
  | cons s rest => exact absurd rfl (h.separated (piece, []) List.mem_cons_self)

/-- **A text that is laid out** is cut into the pieces. -/
theorem LaidOut.splitTop_eq (h : LaidOut isCut t first segments) :
    splitTop isCut t = segments.map Prod.fst := by
  induction segments generalizing t first with
  | nil =>
      rw [h.text, splitTop_gap_append h.first]
      rfl
  | cons segment segments ih =>
      obtain ⟨piece, gap⟩ := segment
      have hne : piece ≠ [] := h.nonempty _ List.mem_cons_self
      have huncut : UncutFrom isCut 0 piece := h.uncut _ List.mem_cons_self
      rw [h.text, splitTop_gap_append h.first, List.flatMap_cons, List.map_cons, List.append_assoc]
      cases gap with
      | nil =>
          -- the piece is the last one, and the text ends with it
          obtain rfl := h.eq_nil
          rw [List.flatMap_nil, List.append_nil, List.append_nil, splitTop_of_uncut huncut]
          simp [Text.attach, hne]
      | cons c gap =>
          -- the piece ends at depth zero, so the first character of the gap cuts behind it
          have hdepth : depthOf piece = 0 := h.level _ List.mem_cons_self (List.cons_ne_nil c gap)
          obtain ⟨hc, hgap⟩ := List.forall_mem_cons.1 h.rest.first
          have hrest := ih h.rest
          rw [splitTop_gap_append h.rest.first] at hrest
          rw [List.cons_append, splitTop_cut huncut hdepth hc, splitTop_gap_append hgap, hrest]
          simp [Text.attach, hne]

/-- **Every text** can be laid out. -/
theorem exists_laidOut (isCut : Char → Bool) (t : Text) :
    ∃ first segments, LaidOut isCut t first segments := by
  obtain huncut | ⟨before, c, after, ht, hc, hdepth, huncut⟩ := uncut_or_cut isCut 0 t
  · by_cases hne : t = []
    · exact ⟨[], [], hne, nofun, nofun, nofun, nofun, nofun, nofun⟩
    · refine ⟨[], [(t, [])], by simp, nofun, List.forall_mem_singleton.2 nofun, nofun,
        List.forall_mem_singleton.2 hne, List.forall_mem_singleton.2 huncut,
        List.forall_mem_singleton.2 fun hgap => absurd rfl hgap⟩
  · have hlength : after.length < t.length := by
      rw [ht, List.length_append, List.length_cons]
      omega
    obtain ⟨first, segments, h⟩ := exists_laidOut isCut after
    have hgap : ∀ d ∈ c :: first, isCut d := List.forall_mem_cons.2 ⟨hc, h.first⟩
    by_cases hne : before = []
    · -- the cut makes the first gap longer
      refine ⟨c :: first, segments, ?_, hgap, h.gaps, h.separated, h.nonempty, h.uncut, h.level⟩
      rw [ht, hne, List.nil_append, List.cons_append, ← h.text]
    · refine ⟨[], (before, c :: first) :: segments, ?_, nofun,
        List.forall_mem_cons.2 ⟨hgap, h.gaps⟩,
        forall_mem_dropLast_cons (List.cons_ne_nil c first) h.separated,
        List.forall_mem_cons.2 ⟨hne, h.nonempty⟩, List.forall_mem_cons.2 ⟨huncut, h.uncut⟩,
        List.forall_mem_cons.2 ⟨fun _ => hdepth, h.level⟩⟩
      rw [ht, List.nil_append, List.flatMap_cons, List.append_assoc, List.cons_append, ← h.text]
termination_by t.length

/-- The pieces are the only ones into which a text can be laid out. -/
theorem splitTop_eq_iff {pieces : List Text} :
    splitTop isCut t = pieces ↔ CutInto isCut t pieces := by
  constructor
  · rintro rfl
    obtain ⟨first, segments, h⟩ := exists_laidOut isCut t
    exact ⟨first, segments, h, h.splitTop_eq.symm⟩
  · rintro ⟨first, segments, h, rfl⟩
    exact h.splitTop_eq

/-- A delimiter that is no bracket cuts wherever it stands at depth zero. -/
theorem splitOn_eq_splitTop {d : Char} (hopener : isOpener d = false) (hcloser : isCloser d = false)
    (t : Text) : splitOn [d] t = splitTop (· == d) t := by
  have hcut : (fun c => [c] == [d] && !isOpener c && !isCloser c) = (· == d) := by
    funext c
    by_cases hc : c = d
    · simp [hc, hopener, hcloser]
    · have hne : (c == d) = false := by simpa using hc
      rw [hne, List.cons_beq_cons, hne]
      rfl
  rw [splitOn, hcut]

/-- **Cuts.**  Splitting on a delimiter that is no bracket gives the pieces into which the text can
be laid out with that delimiter between them, and there are no other such pieces; and splitting a
class list gives those with blanks between them. -/
theorem splitOn_splitList_iff :
    (∀ d, isOpener d = false → isCloser d = false → ∀ t pieces,
      splitOn [d] t = pieces ↔ CutInto (· == d) t pieces) ∧
    ∀ t pieces, splitList t = pieces ↔ CutInto Text.isBlank t pieces := by
  refine ⟨fun d hopener hcloser t pieces => ?_, fun t pieces => splitTop_eq_iff⟩
  rw [splitOn_eq_splitTop hopener hcloser, splitTop_eq_iff]

/-- Delimiters in brackets, next to each other and at both ends, and brackets without a match. -/
theorem splitOn_splitList_iff_nested :
    isOpener ':' = false ∧ isCloser ':' = false ∧
      CutInto (· == ':') ":a[b:c]::]d:(e:".toList ["a[b:c]".toList, "]d".toList, "(e:".toList] ∧
      CutInto Text.isBlank " p-4\t hover:(m-2 flex) )x ".toList
        ["p-4".toList, "hover:(m-2 flex)".toList, ")x".toList] := by
  obtain ⟨hdelimiter, hlist⟩ := splitOn_splitList_iff
  exact ⟨rfl, rfl, (hdelimiter ':' rfl rfl _ _).1 (by decide +kernel),
    (hlist _ _).1 (by decide +kernel)⟩

end UtilityCss.ClassList

import Mathlib.Data.List.TakeWhile
import UtilityCss.Proofs.ClassList.Cuts

/-!
# Class lists — cutting up what has been joined

Words that are joined by spaces are the words of the text (`Text.words_join`), and pieces that are
joined by a character are cut apart at it (`splitTop_join`), as long as no piece is empty, holds
what cuts or a bracket.  The first colon of such pieces stands after the first of them
(`breakColon?_append`), and where the first colon of any text stands does not depend on what follows
it (`breakColonAt?_congr`).
-/

namespace UtilityCss

namespace Text

variable {separator t w : Text} {ts : List Text}

theorem join_cons (h : ts ≠ []) :
    join separator (t :: ts) = t ++ separator ++ join separator ts := by
  cases ts with
  | nil => exact absurd rfl h
  | cons u rest => rfl

theorem join_concat (h : ts ≠ []) :
    join separator (ts ++ [t]) = join separator ts ++ separator ++ t := by
  induction ts with
  | nil => exact absurd rfl h
  | cons u rest ih =>
      cases rest with
      | nil => rfl
      | cons v rest =>
          have hrest : v :: rest ≠ [] := by simp
          rw [join_cons hrest, List.cons_append, join_cons (by simp), ih hrest]
          simp only [List.append_assoc]

theorem join_concat_ne_nil (ht : t ≠ []) : join separator (ts ++ [t]) ≠ [] := by
  by_cases hts : ts = []
  · rwa [hts]
  · rw [join_concat hts]
    exact List.append_ne_nil_of_right_ne_nil _ ht

/-- Every character of a joined text is one of a piece or of the separator. -/
theorem mem_join {c : Char} (h : c ∈ join separator ts) : (∃ t ∈ ts, c ∈ t) ∨ c ∈ separator := by
  induction ts with
  | nil => cases h
  | cons t ts ih =>
      cases ts with
      | nil => exact .inl ⟨t, List.mem_cons_self, h⟩
      | cons u rest =>
          rw [join_cons (by simp), List.mem_append, List.mem_append] at h
          rcases h with (h | h) | h
          · exact .inl ⟨t, List.mem_cons_self, h⟩
          · exact .inr h
          · exact (ih h).imp_left fun ⟨v, hv, hc⟩ => ⟨v, List.mem_cons_of_mem t hv, hc⟩

/-- A word: not empty, and without blanks. -/
def isSolid (t : Text) : Bool :=
  !t.isEmpty && t.all (!isBlank ·)

theorem isSolid_iff : isSolid t ↔ t ≠ [] ∧ ∀ c ∈ t, isBlank c = false := by
  simp [isSolid]

theorem isSolid_attach {later : List Text} (hword : ∀ c ∈ w, isBlank c = false)
    (hlater : ∀ v ∈ later, isSolid v) : ∀ v ∈ attach w later, isSolid v := by
  rw [attach]
  split
  · exact hlater
  next hne =>
      intro v hv
      rcases List.mem_cons.1 hv with rfl | hv
      · exact isSolid_iff.2 ⟨by simpa using hne, hword⟩
      · exact hlater v hv

/-- What follows a blank is cut into words, and what stands before it has no blanks. -/
theorem isSolid_cutWords (t : Text) :
    (∀ c ∈ (cutWords t).1, isBlank c = false) ∧ ∀ w ∈ (cutWords t).2, isSolid w := by
  induction t with
  | nil => exact ⟨nofun, nofun⟩
  | cons c rest ih =>
      obtain ⟨hword, hlater⟩ := ih
      rw [cutWords]
      dsimp only
      split
      next => exact ⟨nofun, isSolid_attach hword hlater⟩
      next hc =>
          refine ⟨fun d hd => ?_, hlater⟩
          rcases List.mem_cons.1 hd with rfl | hd
          · exact Bool.eq_false_iff.2 hc
          · exact hword d hd

/-- **Words** are not empty and have no blanks. -/
theorem isSolid_of_mem_words (h : w ∈ words t) : isSolid w := by
  obtain ⟨hword, hlater⟩ := isSolid_cutWords t
  exact isSolid_attach hword hlater w h

theorem cutWords_append (h : ∀ c ∈ w, isBlank c = false) (t : Text) :
    cutWords (w ++ t) = (w ++ (cutWords t).1, (cutWords t).2) := by
  induction w with
  | nil => rfl
  | cons c w ih =>
      rw [List.cons_append, cutWords, ih fun d hd => h d (List.mem_cons_of_mem c hd)]
      simp [h c List.mem_cons_self]

theorem attach_eq_append (w : Text) (ts : List Text) : attach w ts = attach w [] ++ ts := by
  cases w <;> rfl

/-- What stands before a blank goes before the words behind it, unless it is empty. -/
theorem words_append_blank {c : Char} (h : ∀ c ∈ w, isBlank c = false) (hc : isBlank c) (t : Text) :
    words (w ++ c :: t) = attach w (words t) := by
  have hblank : cutWords (c :: t) = ([], words t) := by simp [cutWords, words, hc]
  rw [words, cutWords_append h, hblank, List.append_nil]

theorem words_of_no_blank (h : ∀ c ∈ w, isBlank c = false) : words w = attach w [] := by
  have hcut := cutWords_append h []
  rw [List.append_nil] at hcut
  rw [words, hcut]
  simp [cutWords]

/-- A word and a space go before the words of a text. -/
theorem words_append_space (h : isSolid w) (t : Text) : words (w ++ ' ' :: t) = w :: words t := by
  obtain ⟨hne, hsolid⟩ := isSolid_iff.1 h
  rw [words_append_blank hsolid rfl]
  simp [attach, hne]

theorem words_of_isSolid (h : isSolid w) : words w = [w] := by
  obtain ⟨hne, hsolid⟩ := isSolid_iff.1 h
  rw [words_of_no_blank hsolid]
  simp [attach, hne]

/-- **Words** that are joined by spaces are the words of the text. -/
theorem words_join (h : ∀ w ∈ ts, isSolid w) : words (join [' '] ts) = ts := by
  induction ts with
  | nil => rfl
  | cons w rest ih =>
      have hrest := ih fun v hv => h v (List.mem_cons_of_mem w hv)
      cases rest with
      | nil => exact words_of_isSolid (h w List.mem_cons_self)
      | cons v rest =>
          rw [join_cons (by simp), List.append_assoc, List.singleton_append,
            words_append_space (h w List.mem_cons_self), hrest]

theorem dropWhile_isBlank_eq_self (h : ∀ c ∈ t.head?, isBlank c = false) :
    t.dropWhile isBlank = t := by
  cases t with
  | nil => rfl
  | cons c rest => simp [h c rfl]

theorem head?_dropWhile_isBlank (t : Text) :
    ∀ c ∈ (t.dropWhile isBlank).head?, isBlank c = false := by
  intro c hc
  have hhead := List.head?_dropWhile_not isBlank t
  rwa [Option.mem_def.1 hc] at hhead

/-- **A text without blanks at its ends** is not trimmed. -/
theorem trim_eq_self (hhead : ∀ c ∈ t.head?, isBlank c = false)
    (hlast : ∀ c ∈ t.getLast?, isBlank c = false) : trim t = t := by
  rw [← List.head?_reverse] at hlast
  rw [trim, trimEnd, trimStart, dropWhile_isBlank_eq_self hhead, dropWhile_isBlank_eq_self hlast,
    List.reverse_reverse]

theorem getLast?_trim (t : Text) : ∀ c ∈ (trim t).getLast?, isBlank c = false := by
  rw [trim, trimEnd, List.getLast?_reverse]
  exact head?_dropWhile_isBlank _

theorem head?_trim (t : Text) : ∀ c ∈ (trim t).head?, isBlank c = false := by
  intro c hc
  refine head?_dropWhile_isBlank t c ?_
  -- blanks are dropped behind the first character, so that is where it was
  obtain ⟨rest, hrest⟩ : trim t <+: trimStart t :=
    List.reverse_suffix.1 (by simpa [trim, trimEnd] using List.dropWhile_suffix isBlank)
  rw [← trimStart, ← hrest, List.head?_append, Option.mem_def.1 hc]
  rfl

theorem trim_trim (t : Text) : trim (trim t) = trim t :=
  trim_eq_self (head?_trim t) (getLast?_trim t)

theorem trim_of_isSolid (h : isSolid w) : trim w = w := by
  obtain ⟨-, hsolid⟩ := isSolid_iff.1 h
  exact trim_eq_self (fun c hc => hsolid c (List.mem_of_mem_head? hc))
    fun c hc => hsolid c (List.mem_of_mem_getLast? hc)

end Text

namespace ClassList

variable {isCut : Char → Bool} {piece : Text} {pieces : List Text}

/-- A character that neither opens nor closes brackets. -/
def isFlat (c : Char) : Bool :=
  !isOpener c && !isCloser c

theorem depthAfter_of_isFlat {c : Char} (h : isFlat c) (depth : Nat) :
    depthAfter depth c = depth := by
  simp only [isFlat, Bool.and_eq_true, Bool.not_eq_true'] at h
  simp [depthAfter, h]

theorem depthOf_of_isFlat {t : Text} (h : ∀ c ∈ t, isFlat c) : depthOf t = 0 := by
  induction t with
  | nil => rfl
  | cons c t ih =>
      rw [depthOf, List.foldl_cons, depthAfter_of_isFlat (h c List.mem_cons_self)]
      exact ih fun d hd => h d (List.mem_cons_of_mem c hd)

/-- A piece and a character that cuts go before the pieces of a text. -/
theorem splitTop_append_cut {separator : Char} (hseparator : isCut separator) (hne : piece ≠ [])
    (h : ∀ c ∈ piece, isCut c = false ∧ isFlat c) (t : Text) :
    splitTop isCut (piece ++ separator :: t) = piece :: splitTop isCut t := by
  have huncut := uncutFrom_of_forall (fun c hc => (h c hc).1) 0
  rw [splitTop_cut huncut (depthOf_of_isFlat fun c hc => (h c hc).2) hseparator]
  simp [Text.attach, hne]

theorem splitTop_of_piece (hne : piece ≠ []) (h : ∀ c ∈ piece, isCut c = false ∧ isFlat c) :
    splitTop isCut piece = [piece] := by
  rw [splitTop_of_uncut (uncutFrom_of_forall (fun c hc => (h c hc).1) 0)]
  simp [Text.attach, hne]

/-- **Pieces** that are joined by a character that cuts are the pieces of the text. -/
theorem splitTop_join {separator : Char} (hseparator : isCut separator)
    (h : ∀ piece ∈ pieces, piece ≠ [] ∧ ∀ c ∈ piece, isCut c = false ∧ isFlat c) :
    splitTop isCut (Text.join [separator] pieces) = pieces := by
  induction pieces with
  | nil => rfl
  | cons piece rest ih =>
      obtain ⟨hne, hpiece⟩ := h piece List.mem_cons_self
      have hrest := ih fun v hv => h v (List.mem_cons_of_mem piece hv)
      cases rest with
      | nil => exact splitTop_of_piece hne hpiece
      | cons v rest =>
          rw [Text.join_cons (by simp), List.append_assoc, List.singleton_append,
            splitTop_append_cut hseparator hne hpiece, hrest]

theorem breakColonAt?_cons {c : Char} (h : c ≠ '\\') (depth : Nat) (t : Text) :
    breakColonAt? depth (c :: t) =
      if c == ':' && depth == 0 then some ([], t)
      else (breakColonAt? (depthAfter depth c) t).map fun (head, tail) => (c :: head, tail) := by
  rw [breakColonAt?] <;> simp [h]

/-- What follows the first colon of a text does not matter for where it stands. -/
theorem breakColonAt?_congr {depth : Nat} {t head tail : Text}
    (h : breakColonAt? depth t = some (head, tail)) (other : Text) :
    breakColonAt? depth (head ++ ':' :: other) = some (head, other) := by
  fun_induction breakColonAt? depth t generalizing head with
  | case1 => cases h
  | case2 => cases h
  | case3 depth c rest ih =>
      obtain ⟨⟨a, b⟩, hab, heq⟩ := Option.map_eq_some_iff.1 h
      cases heq
      simp [breakColonAt?, ih hab]
  | case4 depth c rest _ _ hc =>
      cases h
      have hdepth : depth = 0 := by simp_all
      simp [breakColonAt?, hdepth]
  | case5 depth c rest hlone hpair hc ih =>
      obtain ⟨⟨a, b⟩, hab, heq⟩ := Option.map_eq_some_iff.1 h
      cases heq
      -- a backslash hides the character behind it or is the last one, so this is none
      have hbackslash : c ≠ '\\' := by
        rintro rfl
        cases rest with
        | nil => exact hlone rfl rfl
        | cons d rest => exact hpair d rest rfl rfl
      rw [List.cons_append, breakColonAt?_cons hbackslash, if_neg hc, ih hab]
      rfl

/-- A piece without a colon, a backslash or a bracket goes up to the colon after it. -/
theorem breakColon?_append (h : ∀ c ∈ piece, c ≠ ':' ∧ c ≠ '\\' ∧ isFlat c) (t : Text) :
    breakColon? (piece ++ ':' :: t) = some (piece, t) := by
  rw [breakColon?]
  induction piece with
  | nil => rfl
  | cons c piece ih =>
      obtain ⟨hcolon, hbackslash, hflat⟩ := h c List.mem_cons_self
      rw [List.cons_append, breakColonAt?_cons hbackslash, depthAfter_of_isFlat hflat,
        ih fun d hd => h d (List.mem_cons_of_mem c hd)]
      simp [hcolon]

end ClassList

end UtilityCss

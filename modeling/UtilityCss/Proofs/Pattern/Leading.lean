import UtilityCss.Proofs.Pattern.Anchoring
import UtilityCss.Proofs.Pattern.Preamble

/-!
# Patterns — the word that a pattern starts with

A rule is looked up by the word that the text of its pattern starts with, a hyphen behind it.  For
some patterns the texts that they match start with that word as well.

**The word of a match** (`WordDash.leadingWord?_of_run?`).  Let a pattern be a word, a hyphen and a
rest, perhaps behind a `^`.  If the rest has no bar outside of groups and sets, and no quantifier
that lets the hyphen be missing, then every text that the pattern matches starts with the word and a
hyphen.  A comment in parentheses is nothing between the hyphen and a quantifier, so what counts is
what stands behind the comments (`behindComments`).

* `of_run_sequence_literal`: the letters, digits and the hyphen are read as themselves.
* `Held`: from then on the hyphen stays among the items, whatever the rounds of the sequence do to
  those behind it; it is repeated at most with one time as the least (`Round.held`).
* `of_runItems_codes`, `of_runItem_hyphen`: these items take the word and a hyphen from the text.
-/

namespace UtilityCss.Pattern

/-! ### Words and hyphens -/

/-- A word: an ASCII letter, then ASCII letters and digits. -/
def isLeadingWord : Text → Bool
  | [] => false
  | c :: rest => Text.isAsciiLetter c && rest.all Text.isAsciiAlphanumeric

/-- What stands behind the comments in parentheses that a text starts with.  With `inside`, the text
starts inside of one. -/
def behindComments (inside : Bool) (t : Text) : Text :=
  match inside, t with
  | false, '(' :: '?' :: '#' :: rest => behindComments true rest
  | false, t => t
  | true, [] => []
  | true, '\\' :: _ :: rest => behindComments true rest
  | true, ')' :: rest => behindComments false rest
  | true, _ :: rest => behindComments true rest

/-- A quantifier that allows what it repeats to be missing, or an opening brace. -/
def mayDrop (c : Char) : Bool :=
  c == '?' || c == '*' || c.toNat == 123

/-- No such quantifier stands at the start of the text, or behind comments there. -/
def keepsBefore (t : Text) : Bool :=
  (behindComments false t).head?.all (!mayDrop ·)

/-- A pattern of a word, a hyphen and a rest, perhaps behind a `^`.  The rest has no bar outside of
groups and sets, and does not let the hyphen be missing. -/
structure WordDash (source word rest : Text) : Prop where
  form : source = word ++ '-' :: rest ∨ source = '^' :: (word ++ '-' :: rest)
  word : isLeadingWord word = true
  keeps : keepsBefore rest = true
  bars : hasOuterBar rest = false

/-- Inside of a comment, what counts is what stands behind it. -/
theorem behindComments_true (t : Text) :
    behindComments true t = behindComments false (pastComment ')' t) := by
  fun_induction pastComment ')' t with
  | case1 => rfl
  | case2 c rest ih => exact ih
  | case3 c rest hother hstop =>
      obtain rfl : c = ')' := eq_of_beq hstop
      rfl
  | case4 c rest hother hstop ih =>
      rw [← ih, behindComments]
      · exact hother
      · rintro rfl
        exact hstop rfl

theorem behindComments_of_ne {t : Text} (h : t.head? ≠ some '(') : behindComments false t = t := by
  rw [behindComments]
  rintro rest rfl
  exact h rfl

theorem leadingWord?_word {word : Text} (hword : isLeadingWord word = true) (rest : Text) :
    leadingWord? (word ++ '-' :: rest) = some word := by
  cases word with
  | nil => cases hword
  | cons c word =>
      rw [isLeadingWord, Bool.and_eq_true, List.all_eq_true] at hword
      have htake : (word ++ '-' :: rest).takeWhile Text.isAsciiAlphanumeric = word := by
        rw [List.takeWhile_append_of_pos hword.2, List.takeWhile_cons_of_neg (by decide),
          List.append_nil]
      have hdrop : (word ++ '-' :: rest).dropWhile Text.isAsciiAlphanumeric = '-' :: rest := by
        rw [List.dropWhile_append_of_pos hword.2, List.dropWhile_cons_of_neg (by decide)]
      rw [List.cons_append, leadingWord?, hword.1, htake, hdrop]
      rfl

/-- The word that the pattern is looked up by. -/
theorem WordDash.literalWord? {source word rest : Text} (h : WordDash source word rest) :
    literalWord? source = some word := by
  have hhead : ∀ t, word ++ '-' :: rest ≠ '^' :: t := by
    intro t heq
    have hword := h.word
    cases word with
    | nil => cases hword
    | cons c word =>
        obtain rfl := (List.cons.inj heq).1
        cases hword
  rw [Pattern.literalWord?.eq_def]
  rcases h.form with rfl | rfl
  · split
    next t heq => exact absurd heq (hhead t)
    next => exact leadingWord?_word h.word rest
  · exact leadingWord?_word h.word rest

namespace Reading

variable {k : Nat} {v v' first : Bool} {c d e : Cursor} {items items' base a : List Item}

/-! ### Reading -/

/-- What is read of characters that stand for themselves. -/
def codes (t : Text) : List Item :=
  t.map fun ch => .code ch.toNat

/-- A hyphen that must be there, perhaps more than once. -/
inductive Hyphen : Item → Prop
  | code : Hyphen (.code 45)
  | repeated (greed : Greed) : Hyphen (.repeated greed 1 none [.code 45])

/-- A character of words and the hyphen stand for themselves. -/
def isLiteral (ch : Char) : Bool :=
  Text.isAsciiAlphanumeric ch || ch == '-'

theorem of_isLiteral {ch : Char} (h : isLiteral ch = true) :
    ch ∉ marks ∧ isQuantifier ch = false ∧ plainItem ch = .code ch.toNat := by
  have hne : ∀ {x : Char}, isLiteral x = false → (ch == x) = false := by
    intro x hx
    rw [beq_eq_false_iff_ne]
    rintro rfl
    rw [hx] at h
    cases h
  have hbrace : (ch.toNat == 123) = false := by
    rw [beq_eq_false_iff_ne]
    intro hcode
    have heq : ch = Char.ofNat 123 := by rw [← hcode, Char.ofNat_toNat]
    exact absurd (beq_iff_eq.2 heq) (by rw [hne (by decide)]; exact Bool.false_ne_true)
  refine ⟨not_mem_marks isLiteral (by decide) h, ?_, ?_⟩
  · rw [isQuantifier, hne (by decide), hne (by decide), hne (by decide), hbrace]
    rfl
  · rw [plainItem, hne (by decide), hne (by decide), hne (by decide)]
    rfl

/-- Behind the items of `base`, the last one first, stands a hyphen, and it stays there: another
item stands behind it, or it has been repeated, or the text has no quantifier that lets it be
missing. -/
def Held (base items : List Item) (t : Text) : Prop :=
  ∃ front hyphen, items = front ++ hyphen :: base ∧ Hyphen hyphen ∧
    (front = [] → hyphen = .code 45 → keepsBefore t = true)

theorem Held.ne_nil {t : Text} (h : Held base items t) : items ≠ [] := by
  obtain ⟨front, hyphen, rfl, -⟩ := h
  simp

theorem Held.push {t : Text} (h : Held base items t) (item : Item) (u : Text) :
    Held base (item :: items) u := by
  obtain ⟨front, hyphen, rfl, hhyphen, -⟩ := h
  exact ⟨item :: front, hyphen, rfl, hhyphen, nofun⟩

/-- A quantifier repeats an item behind the hyphen, or the hyphen itself at least once. -/
theorem Held.again {ch : Char} {min : Nat} {max : Option Nat} {position : Nat} {e' : Cursor}
    (h : Held base items c.rest) (hl : lexeme? c.rest = some (.plain ch))
    (hquantifier : isQuantifier ch = true)
    (hbounds : (bounds ch).run (c.skip 1) = .ok (some (min, max), e))
    (hrun : (repeatLast min max position items).run e = .ok (items', e')) :
    Held base items' e'.rest := by
  obtain ⟨greed, item, rest, hitems, hitem, rfl⟩ := of_run_repeatLast hrun
  obtain ⟨front, hyphen, hfront, hhyphen, hkeeps⟩ := h
  rw [hitems] at hfront
  cases front with
  | cons x front =>
      obtain ⟨-, rfl⟩ := List.cons.inj hfront
      exact ⟨_ :: front, hyphen, rfl, hhyphen, fun hnil => absurd hnil (List.cons_ne_nil _ _)⟩
  | nil =>
      obtain ⟨rfl, rfl⟩ := List.cons.inj hfront
      cases hhyphen with
      | repeated greed => exact absurd rfl (hitem _ _ _ _)
      | code =>
          have hhead : c.rest.head? = some ch := by rw [lexeme?_text hl]; rfl
          have hopen : ch ≠ '(' := by
            rintro rfl
            cases hquantifier
          have hkept : mayDrop ch = false := by
            have hkeeps' := hkeeps rfl rfl
            rw [keepsBefore, behindComments_of_ne (by simpa [hhead] using hopen), hhead] at hkeeps'
            simpa using hkeeps'
          obtain rfl : ch = '+' := by
            simp only [mayDrop, Bool.or_eq_false_iff] at hkept
            simpa [isQuantifier, hkept.1.1, hkept.1.2, hkept.2] using hquantifier
          obtain ⟨heq, -⟩ := run_pure_eq_ok.1 hbounds
          cases heq
          exact ⟨[], _, rfl, .repeated greed, fun _ hcode => by cases hcode⟩

theorem unwrap_append (items more : List Item) :
    unwrap (items ++ more) = unwrap items ++ unwrap more :=
  List.flatMap_append

theorem Held.unwrap {t : Text} (h : Held base items t) :
    ∃ hyphen more, Hyphen hyphen ∧
      unwrap items.reverse = Pattern.unwrap base.reverse ++ hyphen :: more := by
  obtain ⟨front, hyphen, rfl, hhyphen, -⟩ := h
  refine ⟨hyphen, Pattern.unwrap front.reverse, hhyphen, ?_⟩
  have hsame : Pattern.unwrap [hyphen] = [hyphen] := by cases hhyphen <;> rfl
  rw [List.reverse_append, List.reverse_cons, unwrap_append, unwrap_append, hsame,
    List.append_assoc, List.singleton_append]

theorem unwrap_codes (t : Text) : unwrap (codes t) = codes t := by
  induction t with
  | nil => rfl
  | cons ch t ih => exact congrArg (Item.code ch.toNat :: ·) ih

theorem isLiteral_word {word : Text} (hword : isLeadingWord word = true) :
    ∀ ch ∈ word, isLiteral ch = true := by
  cases word with
  | nil => nofun
  | cons first word =>
      rw [isLeadingWord, Bool.and_eq_true, List.all_eq_true] at hword
      refine List.forall_mem_cons.2 ⟨?_, fun ch hch => ?_⟩
      · have hletter := hword.1
        simp only [isLiteral, Text.isAsciiAlphanumeric, Text.isAsciiLetter, Bool.or_eq_true,
          Bool.and_eq_true] at hletter ⊢
        exact .inl (.inl hletter)
      · rw [isLiteral, hword.2 ch hch]
        rfl

variable [Names]

/-- A round on a character that stands for itself adds its item. -/
theorem of_run_sequence_plain {ch : Char} {tail : Text} (hrest : c.rest = ch :: tail)
    (hplain : ch ∉ marks) (hquantifier : isQuantifier ch = false)
    (h : (sequence (k + 1) false first items).run c = .ok (a, d)) :
    tail ≠ ['\\'] ∧
      (sequence k false first (plainItem ch :: items)).run (c.skip 1) = .ok (a, d) := by
  have hne : ∀ {x : Char}, x ∈ marks → ch ≠ x := by
    rintro x hx rfl
    exact hplain hx
  have hl : lexeme? c.rest = some (.plain ch) := by
    rw [hrest, lexeme?_cons (hne (by decide))]
  have hother : ∀ {l}, lexeme? c.rest = some l → l = .plain ch := fun hl' =>
    Option.some.inj (hl'.symm.trans hl)
  obtain ⟨-, -, hstop⟩ | ⟨items', v', e, hround, hrun⟩ := of_run_sequence_succ h
  · rcases hstop _ hl with heq | heq <;> cases heq <;> exact absurd (by decide) hplain
  cases hround with
  | escape hl' => cases hother hl'
  | blank hv => cases hv
  | line hv => cases hv
  | plain hl' _ _ _ hwhole =>
      cases hother hl'
      refine ⟨?_, hrun⟩
      rwa [Cursor.skip, hrest] at hwhole
  | set hl' => cases hother hl'; exact absurd (by decide) hplain
  | brace hl' hquantifier' =>
      cases hother hl'
      exact absurd hquantifier' (by simp [hquantifier])
  | again hl' hquantifier' =>
      cases hother hl'
      exact absurd hquantifier' (by simp [hquantifier])
  | group hl' => cases hother hl'; exact absurd (by decide) hplain
  | comment hl' => cases hother hl'; exact absurd (by decide) hplain
  | flags _ _ hl' => cases hother hl'; exact absurd (by decide) hplain

/-- Letters, digits and hyphens are read as themselves. -/
theorem of_run_sequence_literal {t tail : Text} (ht : ∀ ch ∈ t, isLiteral ch = true)
    (hne : t ≠ []) (hrest : c.rest = t ++ tail)
    (h : (sequence (k + t.length) false first items).run c = .ok (a, d)) :
    tail ≠ ['\\'] ∧
      (sequence k false first ((codes t).reverse ++ items)).run (c.skip t.length) = .ok (a, d) := by
  induction t generalizing c items with
  | nil => exact absurd rfl hne
  | cons ch t ih =>
      obtain ⟨hch, ht⟩ := List.forall_mem_cons.1 ht
      obtain ⟨hmark, hquantifier, hitem⟩ := of_isLiteral hch
      obtain ⟨hwhole, hrun⟩ := of_run_sequence_plain hrest hmark hquantifier h
      rw [hitem] at hrun
      have hitems : (codes (ch :: t)).reverse ++ items =
          (codes t).reverse ++ .code ch.toNat :: items := by
        simp [codes]
      have hskip : c.skip (ch :: t).length = (c.skip 1).skip t.length := by
        simp [Cursor.skip]
      rw [hitems, hskip]
      cases t with
      | nil => exact ⟨hwhole, hrun⟩
      | cons x t =>
          exact ih ht (List.cons_ne_nil _ _) (by rw [Cursor.skip, hrest]; rfl) hrun

theorem Round.held (hk : 2 ≤ k) (h : Round k false first items c items' v' e)
    (hheld : Held base items c.rest) : Held base items' e.rest := by
  cases h with
  | escape => exact hheld.push _ _
  | blank hv => cases hv
  | line hv => cases hv
  | plain => exact hheld.push _ _
  | set => exact hheld.push _ _
  | brace => exact hheld.push _ _
  | again hl hquantifier hbounds hrun => exact hheld.again hl hquantifier hbounds hrun
  | group => exact hheld.push _ _
  | comment hl hrun =>
      obtain ⟨k, rfl⟩ : ∃ m, k = m + 2 := ⟨k - 2, by omega⟩
      obtain ⟨tail, htail, hbehind⟩ := of_run_group_nothing hrun
      have hcomment : behindComments false ('(' :: '?' :: '#' :: tail) =
          behindComments false e.rest := by
        rw [hbehind]
        exact behindComments_true tail
      obtain ⟨front, hyphen, rfl, hhyphen, hkeeps⟩ := hheld
      refine ⟨front, hyphen, rfl, hhyphen, fun hfront hcode => ?_⟩
      have hrest : c.rest = '(' :: '?' :: '#' :: tail := by
        rw [lexeme?_text hl]
        exact congrArg ('(' :: ·) htail
      rw [keepsBefore, ← hcomment, ← hrest]
      exact hkeeps hfront hcode
  | flags _ hnil => exact absurd hnil hheld.ne_nil

/-- The hyphen is still there when the sequence has been read. -/
theorem of_run_sequence_held (hk : 4 * c.rest.length + 1 ≤ k) (hheld : Held base items c.rest)
    (h : (sequence k false first items).run c = .ok (a, d)) :
    ∃ hyphen more, Hyphen hyphen ∧ a = unwrap base.reverse ++ hyphen :: more := by
  induction k generalizing c items with
  | zero => omega
  | succ k ih =>
      obtain ⟨-, rfl, -⟩ | ⟨items', v', e, hround, hrun⟩ := of_run_sequence_succ h
      · exact hheld.unwrap
      obtain ⟨rfl, -, l, hl, -, hpass⟩ := hround.passes (readers_pass k).2.2.2 (Nat.le_refl _)
        (by omega) fun _ => hheld.ne_nil
      have hlength := length_skip_lt hl
      have hshorter := (hpass []).length
      exact ih (by omega) (hround.held (by omega) hheld) hrun

/-- The items of a pattern that starts with a word and a hyphen start with them. -/
theorem of_run_sequence_wordDash {word rest : Text} {start : List Item} {F : Flags}
    (hword : isLeadingWord word = true) (hkeeps : keepsBefore rest = true)
    (hbars : hasOuterBar rest = false) (hrest : c.rest = word ++ '-' :: rest) (hflags : c.flags = F)
    (hk : 4 * c.rest.length ≤ k)
    (h : (sequence k false true start).run c = .ok (a, d)) :
    lexeme? d.rest ≠ some (.plain '|') ∧ d.flags = F ∧
      ∃ hyphen more, Hyphen hyphen ∧
        a = unwrap start.reverse ++ codes word ++ hyphen :: more := by
  have hliteral : ∀ ch ∈ word ++ ['-'], isLiteral ch = true := by
    intro ch hch
    rcases List.mem_append.1 hch with hch | hch
    · exact isLiteral_word hword ch hch
    · obtain rfl := List.mem_singleton.1 hch
      rfl
  have hsplit : c.rest = (word ++ ['-']) ++ rest := by simp [hrest]
  have hlength := congrArg List.length hsplit
  rw [List.length_append, List.length_append, List.length_singleton] at hlength
  obtain ⟨k, rfl⟩ : ∃ m, k = m + (word ++ ['-']).length :=
    ⟨k - (word ++ ['-']).length, by simp only [List.length_append, List.length_singleton]; omega⟩
  obtain ⟨hwhole, hrun⟩ := of_run_sequence_literal hliteral (by simp) hsplit h
  have hitems : (codes (word ++ ['-'])).reverse ++ start =
      .code 45 :: ((codes word).reverse ++ start) := by
    simp [codes]
  have hbehind : (c.skip (word ++ ['-']).length).rest = rest := by
    rw [Cursor.skip, hsplit, List.drop_left]
  rw [hitems] at hrun
  generalize hcursor : c.skip (word ++ ['-']).length = e at hrun hbehind
  have hfuel : 4 * e.rest.length + 3 ≤ k := by
    rw [hbehind]
    rw [List.length_append, List.length_singleton] at hk
    omega
  have hheld : Held ((codes word).reverse ++ start) (.code 45 :: ((codes word).reverse ++ start))
      e.rest := ⟨[], .code 45, rfl, .code, fun _ _ => hbehind ▸ hkeeps⟩
  have hkept : Kept F e.rest.length e := by
    refine ⟨?_, hbehind ▸ hwhole, Nat.le_refl _⟩
    rw [← hcursor, Cursor.skip, hflags]
  refine ⟨?_, (hkept.of_run_sequence hfuel (List.cons_ne_nil _ _) hrun).flags, ?_⟩
  · refine lexeme?_ne_bar_of_run_sequence (fun _ => List.cons_ne_nil _ _) (by omega) hrun ?_
    rw [hbehind]
    exact hbars
  · obtain ⟨hyphen, more, hhyphen, rfl⟩ := of_run_sequence_held (by omega) hheld hrun
    refine ⟨hyphen, more, hhyphen, ?_⟩
    rw [List.reverse_append, List.reverse_reverse, unwrap_append, unwrap_codes]

end Reading

open Reading

/-! ### Matching -/

section Matching

variable {u t : Text} {f : Flags} {s r : Spot} {k : Rest}

/-- Where the case counts, a character that stands for itself is taken from the text. -/
theorem of_runItem_code {ch : Char} (hf : f.ignoreCase = false)
    (h : runItem u.toArray f (.code ch.toNat) s k = some r) :
    u.drop s.position = ch :: u.drop s.step.position ∧ k s.step = some r := by
  have hfold : f.fold = .exact := by
    rw [Flags.fold, hf]
    rfl
  rw [runItem, single, List.getElem?_toArray, hfold] at h
  split at h
  next c hc =>
      split at h
      next hsame =>
          have hcode : c.toNat = ch.toNat := by
            simpa [Fold.same, Fold.lower, Fold.others] using hsame
          have hchar : c = ch := by rw [← Char.ofNat_toNat c, hcode, Char.ofNat_toNat]
          obtain ⟨hlt, hget⟩ := List.getElem?_eq_some_iff.1 hc
          refine ⟨?_, h⟩
          rw [List.drop_eq_getElem_cons hlt, hget, hchar]
          rfl
      next => cases h
  next => cases h

/-- The characters are taken from the text, one after the other. -/
theorem of_runItems_codes (hf : f.ignoreCase = false)
    (h : runItems u.toArray f (codes t) s k = some r) :
    ∃ s', u.drop s.position = t ++ u.drop s'.position ∧ k s' = some r := by
  induction t generalizing s with
  | nil => exact ⟨s, rfl, h⟩
  | cons ch t ih =>
      rw [codes, List.map_cons, runItems] at h
      obtain ⟨htaken, h⟩ := of_runItem_code hf h
      obtain ⟨s', hbehind, h⟩ := ih h
      exact ⟨s', by rw [htaken, hbehind]; rfl, h⟩

/-- A hyphen that must be there is there. -/
theorem of_runItem_hyphen {hyphen : Item} (hhyphen : Hyphen hyphen) (hf : f.ignoreCase = false)
    (h : runItem u.toArray f hyphen s k = some r) :
    ∃ rest, u.drop s.position = '-' :: rest := by
  have hcode : ∀ {k' : Rest} {r' : Spot}, runItem u.toArray f (.code '-'.toNat) s k' = some r' →
      ∃ rest, u.drop s.position = '-' :: rest := fun h' => ⟨_, (of_runItem_code hf h').1⟩
  have hone : ∀ {k' : Rest} {r' : Spot}, runItems u.toArray f [.code 45] s k' = some r' →
      ∃ rest, u.drop s.position = '-' :: rest := by
    intro k' r' h'
    rw [runItems] at h'
    exact hcode h'
  cases hhyphen with
  | code => exact hcode h
  | «repeated» greed =>
      cases greed with
      | greedy =>
          rw [runItem, repeatBody] at h
          exact hone h
      | «lazy» =>
          rw [runItem, repeatBody] at h
          exact hone h
      | possessive =>
          rw [runItem, repeatBody] at h
          dsimp only [times] at h
          cases hbody : runItems u.toArray f [.code 45] s some with
          | some s' => exact hone hbody
          | none =>
              rw [hbody] at h
              cases h

variable [Names]

/-- A pattern that starts with a word and a hyphen sets no flags for itself, and its items start
with those of the word and of a hyphen. -/
theorem WordDash.items_ofText {source word rest : Text} (h : WordDash source word rest)
    {p : Pattern} (hp : ofText source {} = .ok p) :
    p.flags.ignoreCase = false ∧ ∃ start hyphen more, (start = [] ∨ start = [.place .start]) ∧
      Hyphen hyphen ∧ p.items = start ++ codes word ++ hyphen :: more := by
  obtain ⟨-, k, d, hk, hrun, -, hflags, -⟩ := of_read .none rfl (read_of_ofText hp)
  rw [Flags.union_empty] at hrun
  obtain ⟨a, e, hsequence, hchoice⟩ := run_bind_eq_ok.1 hrun
  have hread : ∃ start, (start = [] ∨ start = [.place .start]) ∧
      lexeme? e.rest ≠ some (.plain '|') ∧ e.flags = {} ∧ ∃ hyphen more, Hyphen hyphen ∧
        a = unwrap start.reverse ++ codes word ++ hyphen :: more := by
    rcases h.form with rfl | rfl
    · exact ⟨[], .inl rfl, of_run_sequence_wordDash h.word h.keeps h.bars rfl rfl
        (by dsimp only [opening]; omega) hsequence⟩
    · obtain ⟨k, rfl⟩ : ∃ m, k = m + 1 := ⟨k - 1, by omega⟩
      obtain ⟨-, hbehind⟩ := of_run_sequence_plain rfl (by decide) (by decide) hsequence
      simp only [List.length_cons] at hk
      exact ⟨[.place .start], .inr rfl, of_run_sequence_wordDash h.word h.keeps h.bars rfl rfl
        (show 4 * (word ++ '-' :: rest).length ≤ k by omega) hbehind⟩
  obtain ⟨start, hstart, hbar, heflags, hyphen, more, hhyphen, rfl⟩ := hread
  rw [run_choiceAfter_stop hbar] at hchoice
  obtain ⟨hitems, rfl⟩ := Prod.mk.inj (Except.ok.inj hchoice)
  refine ⟨by rw [hflags, heflags]; rfl, start, hyphen, more, hstart, hhyphen, ?_⟩
  rw [← hitems]
  rcases hstart with rfl | rfl
  · rfl
  · rfl

/-- **A utility starts with the word** of a pattern that claims it. -/
theorem WordDash.leadingWord?_of_run? {source word rest : Text} (h : WordDash source word rest)
    {p : Pattern} (hp : ofText source {} = .ok p) (hu : (p.run? u).isSome) :
    leadingWord? u = some word := by
  obtain ⟨hcase, start, hyphen, more, hstart, hhyphen, hitems⟩ := h.items_ofText hp
  obtain ⟨found, hfound⟩ := Option.isSome_iff_exists.1 hu
  rw [run?, hitems, runItems_append, runItems_append] at hfound
  have hword : ∃ k' : Rest, runItems u.toArray p.flags (codes word) (Spot.origin p.groups)
      (fun s => runItems u.toArray p.flags (hyphen :: more) s k') = some found := by
    rcases hstart with rfl | rfl
    · exact ⟨_, hfound⟩
    · exact ⟨_, hfound⟩
  obtain ⟨k', hword⟩ := hword
  obtain ⟨s, hbehind, hrun⟩ := of_runItems_codes hcase hword
  rw [runItems] at hrun
  obtain ⟨rest', hrest⟩ := of_runItem_hyphen hhyphen hcase hrun
  rw [hrest] at hbehind
  rw [show u = word ++ '-' :: rest' from hbehind]
  exact leadingWord?_word h.word rest'

/-- The pattern of a rule matches what it matches alone. -/
theorem run?_anchored {source : Text} {alone anchored : Pattern}
    (halone : ofText source {} = .ok alone) (hanchored : ofRule source none = .ok anchored) :
    anchored.run? u = alone.run? u := by
  obtain ⟨g, hg, hanchor⟩ := @of_ofRule _ source none alone anchored halone hanchored
  obtain ⟨hflags, hgroups, hitems⟩ :=
    read_anchored hg (read_of_ofText halone) (read_of_ofText hanchor)
  rw [run?, run?, hflags, hgroups, hitems]
  exact runItems_anchored _ _ _ _

end Matching

end UtilityCss.Pattern

import UtilityCss.ClassList.Group

/-!
# Class lists — the items of a list and their expansion

A class list is a list of items, each a plain token or a group: a chain of variants with a list of
items of its own.  `Item.flatten` says what an item stands for, by recursion on it.  `Written` says
how items are written: what gaps of blanks stand where, and that what follows an item starts with a
blank.

**Expansion** (`expand_eq_flatten`).  Whatever the items are, how deep they nest and how they are
written, expanding the text gives what they stand for, in order.

The reader has no tree, but a stack of open groups, a token that is being read and two counts.  Its
state between items is *settled*: no token is being read, and both counts are zero.  From a settled
state, reading a plain token ends with the token as it is written (`foldl_plain`); reading items
ends in a state that, but for a last token that still has to be ended, is settled again, with what
the items stand for added to the innermost open group (`foldl_written`).
-/

namespace UtilityCss.ClassList

/-! ### Items -/

/-- An item of a class list. -/
inductive Item where
  | token (text : Text)
  /-- A group: a chain of variants, and the items that it holds for. -/
  | group (chain : Text) (items : List Item)

mutual

/-- The tokens that an item stands for. -/
def Item.flatten : Item → List Text
  | .token text => [text]
  | .group chain items => (flattenAll items).map fun item => chain ++ ':' :: item

/-- The tokens that items stand for. -/
def flattenAll : List Item → List Text
  | [] => []
  | item :: rest => item.flatten ++ flattenAll rest

end

/-- The depth of square brackets after a text, if round ones stand only inside of them. -/
def depthThrough? : Nat → Text → Option Nat
  | depth, [] => some depth
  | depth, c :: rest =>
    if c == '[' then depthThrough? (depth + 1) rest
    else if c == ']' then depthThrough? (depth - 1) rest
    else if (c == '(' || c == ')') && depth == 0 then none
    else depthThrough? depth rest

/-- A character that a plain token may have. -/
def isPlainChar (c : Char) : Bool :=
  !Text.isBlank c && c != '\\'

/-- A plain token: not empty, without blanks and backslashes, with square brackets that are closed
and round ones only inside of them. -/
def isPlain (text : Text) : Bool :=
  !text.isEmpty && text.all isPlainChar && depthThrough? 0 text == some 0

/-- What may follow an item: nothing, or something that starts with a blank. -/
def endsItem (text : Text) : Bool :=
  text.head?.all Text.isBlank

/-- The ways to write items.  A group is written as its chain, a colon and its items between
parentheses; there are gaps of blanks before items and at the end, and none is missing between two
items. -/
inductive Written : List Item → Text → Prop where
  | nil {gap : Text} (hgap : gap.all Text.isBlank) : Written [] gap
  | token {gap text after : Text} {rest : List Item} (hgap : gap.all Text.isBlank)
      (htext : isPlain text) (hafter : endsItem after) (hrest : Written rest after) :
      Written (.token text :: rest) (gap ++ text ++ after)
  | group {gap chain inner after : Text} {items rest : List Item} (hgap : gap.all Text.isBlank)
      (hchain : isPlain chain) (hvariants : ClassToken.isVariantChain chain)
      (hinner : Written items inner) (hafter : endsItem after) (hrest : Written rest after) :
      Written (.group chain items :: rest)
        (gap ++ chain ++ [':', '('] ++ inner ++ [')'] ++ after)

namespace Scan

variable {s : Scan}

/-! ### Settled states -/

/-- No token is being read, and nothing is left open but groups. -/
structure Settled (s : Scan) : Prop where
  token : s.token = none
  brackets : s.brackets = 0
  parens : s.parens = 0
  escaped : s.escaped = false

/-- The state with tokens added to the innermost open group, some characters later. -/
def addAt (s : Scan) (items : List Text) (n : Nat) : Scan :=
  { s.add items with position := s.position + n }

/-- Adding tokens changes nothing but what has been read, and opens and closes no group. -/
theorem add_eq (s : Scan) (items : List Text) :
    ∃ done groups, s.add items = { s with done, groups } ∧ groups.isEmpty = s.groups.isEmpty := by
  rw [add]
  split
  next hgroups => exact ⟨_, _, rfl, rfl⟩
  next g rest hgroups => exact ⟨_, _, rfl, by rw [hgroups]; rfl⟩

/-- Ending a token changes nothing else but what has been read. -/
theorem flush_eq (s : Scan) :
    ∃ done groups, s.flush = { s with done, groups, token := none } ∧
      groups.isEmpty = s.groups.isEmpty := by
  rw [flush]
  split
  next htoken => exact ⟨s.done, s.groups, by rw [← htoken], rfl⟩
  next t htoken =>
      dsimp only
      split
      · exact ⟨_, _, rfl, rfl⟩
      · obtain ⟨done, groups, hadd, hempty⟩ := add_eq { s with token := none } [t.reversed.reverse]
        exact ⟨done, groups, hadd, hempty⟩

theorem Settled.addAt (h : s.Settled) (items : List Text) (n : Nat) :
    (s.addAt items n).Settled := by
  obtain ⟨done, groups, hadd, -⟩ := s.add_eq items
  rw [Scan.addAt, hadd]
  exact ⟨h.token, h.brackets, h.parens, h.escaped⟩

theorem addAt_nil (s : Scan) (n : Nat) : s.addAt [] n = { s with position := s.position + n } := by
  rw [addAt, add]
  split <;> simp_all

theorem addAt_addAt (s : Scan) (items more : List Text) (n m : Nat) :
    (s.addAt items n).addAt more m = s.addAt (items ++ more) (n + m) := by
  simp only [addAt, add]
  cases s.groups <;> simp [Nat.add_assoc]

theorem flush_of_token (h : s.token = none) : s.flush = s := by
  rw [flush, h]

theorem Settled.flush (h : s.Settled) : s.flush = s :=
  flush_of_token h.token

theorem flush_flush (s : Scan) : s.flush.flush = s.flush := by
  obtain ⟨done, groups, hflush, -⟩ := s.flush_eq
  rw [hflush]
  rfl

/-- A token that has just been started is not there yet. -/
theorem flush_begin (s : Scan) : s.begin.flush = s.flush := by
  rw [begin]
  split
  · rfl
  next htoken =>
      rw [flush_of_token htoken, Scan.flush]
      dsimp only
      rw [if_pos List.isEmpty_nil, ← htoken]

/-! ### Blanks -/

theorem step_blank {c : Char} (hescaped : s.escaped = false) (hc : Text.isBlank c) :
    s.step c = { s.flush with brackets := 0, parens := 0, position := s.position + 1 } := by
  simp [step, hescaped, hc]

theorem Settled.step_blank (h : s.Settled) {c : Char} (hc : Text.isBlank c) :
    s.step c = s.addAt [] 1 := by
  rw [Scan.step_blank h.escaped hc, h.flush, addAt_nil]
  simp only [h.brackets, h.parens]

/-- A gap is passed over. -/
theorem Settled.foldl_gap (h : s.Settled) {gap : Text} (hgap : gap.all Text.isBlank) :
    gap.foldl step s = s.addAt [] gap.length := by
  induction gap generalizing s with
  | nil => rw [addAt_nil]; rfl
  | cons c gap ih =>
      rw [List.all_cons, Bool.and_eq_true] at hgap
      rw [List.foldl_cons, h.step_blank hgap.1, ih (h.addAt [] 1) hgap.2, addAt_addAt,
        List.length_cons, Nat.add_comm]
      rfl

/-- A blank ends the token that is being read, so it might as well have been ended before. -/
theorem foldl_flush {after : Text} (hafter : endsItem after) (hescaped : s.escaped = false) :
    (after.foldl step s.flush).flush = (after.foldl step s).flush := by
  cases after with
  | nil => exact s.flush_flush
  | cons c after =>
      obtain ⟨done, groups, hflush, -⟩ := s.flush_eq
      have hstep : s.flush.step c = s.step c := by
        rw [step_blank (by rw [hflush]; exact hescaped) hafter, step_blank hescaped hafter,
          flush_flush, hflush]
      rw [List.foldl_cons, List.foldl_cons, hstep]

/-! ### Plain tokens -/

theorem step_eq_visit {c : Char} (hescaped : s.escaped = false) (hc : Text.isBlank c = false) :
    s.step c = { s.begin.visit c with position := s.position + 1 } := by
  rw [step, if_neg (by simp [hescaped]), if_neg (by simp [hc])]

theorem begin_of_token {t : Partial} (h : s.token = some t) : s.begin = s := by
  rw [begin, h]

theorem push_of_token {t : Partial} (h : s.token = some t) (c : Char) :
    s.push c = { s with token := some ⟨t.start, c :: t.reversed⟩ } := by
  rw [push, h]

/-- A character that is not blank starts a token by itself. -/
theorem step_begin {c : Char} (hescaped : s.escaped = false) (hc : Text.isBlank c = false) :
    s.begin.step c = s.step c := by
  cases htoken : s.token with
  | some t => rw [begin_of_token htoken]
  | none => simp [step, begin, htoken, hescaped, hc]

theorem push_brackets (s : Scan) (c : Char) :
    { s.push c with brackets := s.brackets } = s.push c := by
  rw [push]
  split <;> rfl

/-- A character of a plain token is added to the token, and the depth of brackets follows it. -/
theorem visit_plain {c : Char} {depth : Nat} (hbackslash : c ≠ '\\')
    (hdepth : depthThrough? s.brackets [c] = some depth) :
    s.visit c = { s.push c with brackets := depth } := by
  simp only [depthThrough?] at hdepth
  rw [visit, if_neg (by simpa using hbackslash)]
  by_cases hbrackets : s.brackets > 0
  · have hnext : (if c == '[' then s.brackets + 1 else if c == ']' then s.brackets - 1
        else s.brackets) = depth := by
      grind
    rw [if_pos hbrackets, ← hnext]
  · -- outside of brackets there are no parentheses, which alone would do more
    have hzero : s.brackets = 0 := by omega
    rw [if_neg hbrackets]
    by_cases hopen : c = '['
    · subst hopen
      cases hdepth
      simp [hzero]
    · have hround : c ≠ '(' ∧ c ≠ ')' := by grind
      have hdepth' : depth = s.brackets := by grind
      rw [hdepth', push_brackets]
      simp [hopen, hround]

/-- Within a token, a character of a plain token is added to it; it changes no count but that of the
square brackets. -/
theorem step_plain {c : Char} {t : Partial} {depth : Nat} (htoken : s.token = some t)
    (hescaped : s.escaped = false) (hplain : isPlainChar c)
    (hdepth : depthThrough? s.brackets [c] = some depth) :
    s.step c = { s with token := some ⟨t.start, c :: t.reversed⟩, brackets := depth,
                        position := s.position + 1 } := by
  simp only [isPlainChar, Bool.and_eq_true, Bool.not_eq_true', bne_iff_ne] at hplain
  rw [step_eq_visit hescaped hplain.1, begin_of_token htoken, visit_plain hplain.2 hdepth,
    push_of_token htoken]

theorem depthThrough?_cons (depth : Nat) (c : Char) (rest : Text) :
    depthThrough? depth (c :: rest) =
      (depthThrough? depth [c]).bind fun depth => depthThrough? depth rest := by
  simp only [depthThrough?]
  split
  · rfl
  · split
    · rfl
    · split <;> rfl

/-- Within a token, a plain text is read as it is written. -/
theorem foldl_plain {text : Text} {t : Partial} {depth : Nat} (htoken : s.token = some t)
    (hescaped : s.escaped = false) (hplain : text.all isPlainChar)
    (hdepth : depthThrough? s.brackets text = some depth) :
    text.foldl step s =
      { s with token := some ⟨t.start, text.reverse ++ t.reversed⟩, brackets := depth,
               position := s.position + text.length } := by
  induction text generalizing s t with
  | nil =>
      cases hdepth
      simp [← htoken]
  | cons c text ih =>
      rw [List.all_cons, Bool.and_eq_true] at hplain
      rw [depthThrough?_cons, Option.bind_eq_some_iff] at hdepth
      obtain ⟨between, hc, hrest⟩ := hdepth
      rw [List.foldl_cons, step_plain htoken hescaped hplain.1 hc,
        ih (s := { s with token := some ⟨t.start, c :: t.reversed⟩, brackets := between,
                          position := s.position + 1 }) rfl hescaped hplain.2 hrest]
      simp only [List.reverse_cons, List.append_assoc, List.singleton_append, List.length_cons,
        Nat.add_assoc, Nat.add_comm 1]

/-- The state in which a text has been read as the start of a token. -/
def reading (s : Scan) (text : Text) : Scan :=
  { s with token := some ⟨s.position, text.reverse⟩, position := s.position + text.length }

/-- A plain token is read to its end. -/
theorem Settled.foldl_plain (h : s.Settled) {text : Text} (htext : isPlain text) :
    text.foldl step s = s.reading text := by
  simp only [isPlain, Bool.and_eq_true, beq_iff_eq, Bool.not_eq_true', List.isEmpty_eq_false_iff]
    at htext
  obtain ⟨⟨hne, hplain⟩, hdepth⟩ := htext
  -- the first character starts the token, so it might as well have been started before
  have hbegin : text.foldl step s = text.foldl step s.begin := by
    cases text with
    | nil => exact absurd rfl hne
    | cons c text =>
        have hblank : Text.isBlank c = false := by
          simp [isPlainChar] at hplain
          exact hplain.1.1
        rw [List.foldl_cons, List.foldl_cons, step_begin h.escaped hblank]
  have hstart : s.begin = { s with token := some ⟨s.position, []⟩ } := by
    rw [begin, h.token]
  rw [← h.brackets] at hdepth
  rw [hbegin, hstart, Scan.foldl_plain (s := { s with token := some ⟨s.position, []⟩ }) rfl
    h.escaped hplain hdepth]
  simp [reading]

theorem Settled.flush_reading (h : s.Settled) {text : Text} (htext : isPlain text) :
    (s.reading text).flush = s.addAt [text] text.length := by
  have hne : text.reverse.isEmpty = false := by
    simp only [isPlain, Bool.and_eq_true, Bool.not_eq_true'] at htext
    simpa using htext.1.1
  rw [reading, Scan.flush]
  dsimp only
  rw [if_neg (by simp [hne]), List.reverse_reverse]
  simp only [Scan.addAt, add]
  cases s.groups <;> simp [h.token]

/-! ### Groups -/

/-- The state in which a group has been opened. -/
def opened (s : Scan) (chain : Text) : Scan :=
  { s with groups := ⟨chain, s.position, []⟩ :: s.groups,
           position := s.position + chain.length + 2 }

theorem Settled.opened (h : s.Settled) (chain : Text) : (s.opened chain).Settled :=
  ⟨h.token, h.brackets, h.parens, h.escaped⟩

/-- A parenthesis after a chain of variants and a colon opens a group. -/
theorem step_open {chain : Text} {start : Nat}
    (htoken : s.token = some ⟨start, ':' :: chain.reverse⟩) (hescaped : s.escaped = false)
    (hbrackets : s.brackets = 0) (hparens : s.parens = 0)
    (hvariants : ClassToken.isVariantChain chain) :
    s.step '(' = { s with groups := ⟨chain, start, []⟩ :: s.groups, token := none,
                          position := s.position + 1 } := by
  have hchain : s.chain? = some chain := by simp [chain?, htoken, hvariants]
  have hvisit : s.visit '(' = s.openGroup chain := by simp [visit, hbrackets, hparens, hchain]
  rw [step_eq_visit hescaped rfl, begin_of_token htoken, hvisit, openGroup, htoken]

/-- A parenthesis closes the innermost group, if there is one. -/
theorem step_close (hescaped : s.escaped = false) (hbrackets : s.brackets = 0)
    (hparens : s.parens = 0) (hgroups : s.groups.isEmpty = false) :
    s.step ')' = { s.closeGroup with position := s.position + 1 } := by
  have hvisit : s.begin.visit ')' = s.begin.closeGroup := by
    rw [begin]
    split <;> simp [visit, hbrackets, hparens, hgroups]
  rw [step_eq_visit hescaped rfl, hvisit, closeGroup, flush_begin, ← closeGroup]

theorem Settled.foldl_open (h : s.Settled) {chain : Text}
    (hvariants : ClassToken.isVariantChain chain) :
    [':', '('].foldl step (s.reading chain) = s.opened chain := by
  have hcolon : (s.reading chain).step ':' = s.reading (chain ++ [':']) := by
    rw [step_plain (s := s.reading chain) rfl h.escaped rfl rfl]
    simp [reading, Nat.add_assoc]
  have htoken : (s.reading (chain ++ [':'])).token = some ⟨s.position, ':' :: chain.reverse⟩ := by
    simp [reading]
  have hopen := step_open htoken h.escaped h.brackets h.parens hvariants
  rw [List.foldl_cons, hcolon, List.foldl_cons, List.foldl_nil, hopen]
  simp [reading, Scan.opened, h.token, Nat.add_assoc]

/-- Closing the group that has been opened puts its tokens behind its variants, whether the last of
them has been ended or not. -/
theorem Settled.step_close (h : s.Settled) {chain : Text} {items : List Text} {n : Nat} {s' : Scan}
    (hs' : s'.flush = (s.opened chain).addAt items n) :
    s'.step ')' =
      s.addAt (items.map fun item => chain ++ ':' :: item) (chain.length + 2 + n + 1) := by
  -- ending a token changes none of the counts, so they are those of the settled state
  obtain ⟨done, groups, hflush, hgroups⟩ := s'.flush_eq
  rw [hs'] at hflush
  have hsettled := (h.opened chain).addAt items n
  have hescaped : s'.escaped = false := (congrArg Scan.escaped hflush).symm.trans hsettled.escaped
  have hbrackets : s'.brackets = 0 := (congrArg Scan.brackets hflush).symm.trans hsettled.brackets
  have hparens : s'.parens = 0 := (congrArg Scan.parens hflush).symm.trans hsettled.parens
  have hposition : s'.position = s.position + chain.length + 2 + n :=
    (congrArg Scan.position hflush).symm
  have hnonempty : s'.groups.isEmpty = false := by
    rw [← hgroups]
    exact (congrArg (·.groups.isEmpty) hflush).symm
  rw [Scan.step_close hescaped hbrackets hparens hnonempty, closeGroup, hs', hposition]
  simp only [Scan.addAt, Scan.opened, add]
  cases s.groups <;> simp [Nat.add_assoc]

/-! ### Items -/

/-- **Reading items** adds what they stand for to the innermost open group, once the last token has
been ended. -/
theorem foldl_written {items : List Item} {t : Text} (ht : Written items t) (h : s.Settled) :
    (t.foldl step s).flush = s.addAt (flattenAll items) t.length := by
  induction ht generalizing s with
  | nil hgap =>
      rw [h.foldl_gap hgap, (h.addAt [] _).flush]
      rfl
  | @token gap text after rest hgap htext hafter hrest ih =>
      -- the token is still being read when its text ends: what follows ends it
      have hstart := h.addAt [] gap.length
      rw [List.foldl_append, List.foldl_append, h.foldl_gap hgap, hstart.foldl_plain htext,
        ← foldl_flush (s := (s.addAt [] gap.length).reading text) hafter hstart.escaped,
        hstart.flush_reading htext, ih (hstart.addAt _ _), addAt_addAt, addAt_addAt,
        List.length_append, List.length_append, Nat.add_assoc]
      rfl
  | @group gap chain inner after items rest hgap hchain hvariants _ _ _ ihinner ihrest =>
      have hstart := h.addAt [] gap.length
      -- the items of the group are read from the state in which it has just been opened
      have hinner := ihinner (hstart.opened chain)
      have hlength : gap.length + (chain.length + 2 + inner.length + 1 + after.length) =
          (gap ++ chain ++ [':', '('] ++ inner ++ [')'] ++ after).length := by
        simp only [List.length_append, List.length_cons, List.length_nil]
        omega
      simp only [List.foldl_append]
      rw [h.foldl_gap hgap, hstart.foldl_plain hchain, hstart.foldl_open hvariants, List.foldl_cons,
        List.foldl_nil, hstart.step_close hinner, ihrest (hstart.addAt _ _), addAt_addAt,
        addAt_addAt, hlength]
      rfl

end Scan

theorem flush_scan_of_written {items : List Item} {t : Text} (h : Written items t) :
    (scan t).flush = Scan.addAt {} (flattenAll items) t.length :=
  Scan.foldl_written h ⟨rfl, rfl, rfl, rfl⟩

/-- **Expansion.**  However items are written and however deep they nest, expanding the text gives
what they stand for, in order. -/
theorem expand_eq_flatten {items : List Item} {t : Text} (h : Written items t) :
    expand t = flattenAll items := by
  rw [expand, flush_scan_of_written h]
  rfl

theorem expand_eq_flatten_nested :
    Written
      [.group "md".toList
        [.token "p-4".toList, .group "hover".toList [.token "w-[calc(1px)]".toList],
          .group "focus".toList []],
        .token "m-1".toList]
      " md:( p-4 hover:(w-[calc(1px)])  focus:( ) ) m-1 ".toList ∧
    expand " md:( p-4 hover:(w-[calc(1px)])  focus:( ) ) m-1 ".toList =
      ["md:p-4".toList, "md:hover:w-[calc(1px)]".toList, "m-1".toList] := by
  have hpayload : Written [.token "w-[calc(1px)]".toList] ([] ++ "w-[calc(1px)]".toList ++ []) :=
    .token rfl rfl rfl (.nil rfl)
  have hfocus : Written [.group "focus".toList []]
      ("  ".toList ++ "focus".toList ++ [':', '('] ++ " ".toList ++ [')'] ++ " ".toList) :=
    .group rfl rfl rfl (.nil rfl) rfl (.nil rfl)
  have hhover : Written [.group "hover".toList [.token "w-[calc(1px)]".toList],
      .group "focus".toList []] (" ".toList ++ "hover".toList ++ [':', '('] ++ _ ++ [')'] ++ _) :=
    .group rfl rfl rfl hpayload rfl hfocus
  have hfirst : Written (.token "p-4".toList :: _) (" ".toList ++ "p-4".toList ++ _) :=
    .token rfl rfl rfl hhover
  have hlast : Written [.token "m-1".toList] (" ".toList ++ "m-1".toList ++ " ".toList) :=
    .token rfl rfl rfl (.nil rfl)
  have hitems : Written _ (" ".toList ++ "md".toList ++ [':', '('] ++ _ ++ [')'] ++ _) :=
    .group rfl rfl rfl hfirst rfl hlast
  exact ⟨hitems, expand_eq_flatten hitems⟩

end UtilityCss.ClassList

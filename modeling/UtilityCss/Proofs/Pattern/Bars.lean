import UtilityCss.Proofs.Pattern.Ordinary

/-!
# Patterns — bars outside of groups and sets

Whether a bar parts a pattern can be told without reading the pattern: a scan that takes lexeme by
lexeme only has to know which groups are open, whether a set or a comment is, and whether the mode
is verbose (`Scan`, `hasOuterBar`).

The scan never fails, and where a reader gives a result it is where the reader is.
`Passes s c s' d` says so: the scan `s` at `c` finds a bar outside exactly if `s'` does at `d`.  It
is transitive, and what is ordinary is passed (`TakesFrom.passes`).  Here are the readers that do
not nest: sets, comments and the flags of groups.
-/

namespace UtilityCss.Pattern

/-! ### Scanning -/

/-- What a scan of a pattern is inside of. -/
inductive Region where
  | items
  /-- A set.  So many lexemes are taken before one may close it. -/
  | set (sure : Nat)
  /-- A comment in parentheses. -/
  | comment
  /-- A comment of verbose mode. -/
  | line
  deriving DecidableEq, Repr

/-- Where a scan of a pattern is. -/
structure Scan where
  /-- For every group that is open, the mode around it, the innermost first. -/
  around : List Bool
  /-- Whether the mode is verbose. -/
  verbose : Bool
  region : Region
  deriving DecidableEq, Repr

/-- The mode inside of a group, by what stands behind its opening parenthesis. -/
def modeInside (verbose : Bool) : Text → Bool
  | '?' :: rest =>
    let removed :=
      match rest.dropWhile isFlagLetter with
      | '-' :: more => more.takeWhile isFlagLetter
      | _ => []
    (verbose || (rest.takeWhile isFlagLetter).contains 'x') && !removed.contains 'x'
  | _ => verbose

/-- What stands in parentheses is a comment. -/
def opensComment : Text → Bool
  | '?' :: '#' :: _ => true
  | _ => false

namespace Scan

/-- The scan in another region. -/
def within (s : Scan) (region : Region) : Scan :=
  { s with region }

/-- The scan behind an opening parenthesis. -/
def enter (s : Scan) (rest : Text) : Scan :=
  if opensComment rest then s.within .comment
  else ⟨s.verbose :: s.around, modeInside s.verbose rest, .items⟩

/-- The scan behind a closing parenthesis.  One that closes nothing is passed over. -/
def leave (s : Scan) : Scan :=
  match s.around with
  | verbose :: around => ⟨around, verbose, .items⟩
  | [] => s

/-- The scan behind a lexeme, with what is left there. -/
def step (s : Scan) (l : Lexeme) (rest : Text) : Scan :=
  match s.region with
  | .items =>
    if l == .plain '(' then s.enter rest
    else if l == .plain ')' then s.leave
    else if l == .plain '[' then s.within (.set (if rest.head? == some '^' then 2 else 1))
    else if l == .plain '#' && s.verbose then s.within .line
    else s
  | .set (sure + 1) => s.within (.set sure)
  | .set 0 => if l == .plain ']' then s.within .items else s
  | .comment => if l == .plain ')' then s.within .items else s
  | .line => if l == .plain '\n' then s.within .items else s

/-- No group, set or comment is open. -/
def isOutside (s : Scan) : Bool :=
  s.around.isEmpty && s.region == .items

/-- There is a bar outside of groups, sets and comments. -/
def hasBar (s : Scan) : Text → Bool
  | [] => false
  | '\\' :: c :: rest => (s.step (.escaped c) rest).hasBar rest
  | c :: rest => s.isOutside && c == '|' || (s.step (.plain c) rest).hasBar rest

end Scan

/-- A pattern has a bar outside of groups, sets and comments. -/
def hasOuterBar (t : Text) : Bool :=
  Scan.hasBar ⟨[], false, .items⟩ t

namespace Scan

variable {s : Scan} {l : Lexeme} {t : Text} {around : List Bool} {v : Bool}

/-- Whether there is a bar is decided at the next lexeme or behind it. -/
theorem hasBar_lexeme (hl : lexeme? t = some l) :
    s.hasBar t = (s.isOutside && l == .plain '|' ||
      (s.step l (t.drop l.text.length)).hasBar (t.drop l.text.length)) := by
  rw [lexeme?.eq_def] at hl
  split at hl
  · cases hl
  · cases hl
    rw [hasBar]
    simp [Lexeme.text]
  next c rest hother =>
    cases hl
    have hbar : (Lexeme.plain c == .plain '|') = (c == '|') := by
      rw [Bool.eq_iff_iff]
      simp
    rw [hasBar, hbar]
    · rfl
    · exact hother

/-- Among items, only parentheses and what opens a set or a comment change the scan. -/
theorem step_items (hopen : l ≠ .plain '(') (hclose : l ≠ .plain ')') (hset : l ≠ .plain '[')
    (hline : ¬ (v = true ∧ l = .plain '#')) (rest : Text) :
    (⟨around, v, .items⟩ : Scan).step l rest = ⟨around, v, .items⟩ := by
  rw [step]
  dsimp only
  rw [if_neg (by simpa using hopen), if_neg (by simpa using hclose), if_neg (by simpa using hset),
    if_neg (by simpa [and_comm] using hline)]

/-- A character that is no mark is passed over among items and in a set. -/
theorem step_ordinary {ch : Char} (hch : ch ∉ marks)
    (hregion : s.region = .items ∨ s.region = .set 0) (rest : Text) :
    s.step (.plain ch) rest = s := by
  have hne : ∀ x ∈ marks, Lexeme.plain ch ≠ .plain x := by
    rintro x hx heq
    cases heq
    exact hch hx
  obtain ⟨around, v, region⟩ := s
  rcases hregion with rfl | rfl
  · exact step_items (hne _ (by decide)) (hne _ (by decide)) (hne _ (by decide))
      (fun h => hne '#' (by decide) h.2) rest
  · exact if_neg (by simpa using hne ']' (by decide))

/-- Characters that are no marks are passed over among items and in a set. -/
theorem hasBar_ordinary {taken : Text} (htaken : Ordinary taken)
    (hregion : s.region = .items ∨ s.region = .set 0) (t : Text) :
    s.hasBar (taken ++ t) = s.hasBar t := by
  induction taken with
  | nil => rfl
  | cons ch taken ih =>
      have hch : ch ∉ marks := htaken ch List.mem_cons_self
      have hne : ∀ x ∈ marks, ch ≠ x := by
        rintro x hx rfl
        exact hch hx
      have hl : lexeme? (ch :: taken ++ t) = some (.plain ch) :=
        lexeme?_cons (hne '\\' (by decide)) _
      have hbar : (Lexeme.plain ch == .plain '|') = false := by simpa using hne '|' (by decide)
      rw [hasBar_lexeme hl, step_ordinary hch hregion, hbar, Bool.and_false, Bool.false_or]
      exact ih fun x hx => htaken x (List.mem_cons_of_mem _ hx)

end Scan

namespace Reading

variable {α : Type} {k n : Nat} {v : Bool} {around : List Bool} {c d e : Cursor} {s s' s'' : Scan}
  {l : Lexeme}

/-! ### Readers and scans -/

/-- A scan goes on behind what has been taken as it did before it, and has not seen a bar there. -/
structure Passes (s : Scan) (c : Cursor) (s' : Scan) (d : Cursor) : Prop where
  same : s.hasBar c.rest = s'.hasBar d.rest
  length : d.rest.length ≤ c.rest.length

theorem passes_of_eq (h : d.rest = c.rest) : Passes s c s d :=
  ⟨by rw [h], Nat.le_of_eq (by rw [h])⟩

/-- Two scans over parts of one text make a scan over both. -/
theorem Passes.trans (h : Passes s c s' d) (h' : Passes s' d s'' e) : Passes s c s'' e :=
  ⟨h.same.trans h'.same, Nat.le_trans h'.length h.length⟩

/-- A lexeme is passed, unless it is a bar outside of groups, sets and comments. -/
theorem passes_lexeme (hl : lexeme? c.rest = some l)
    (hbar : (s.isOutside && l == .plain '|') = false) :
    Passes s c (s.step l (c.rest.drop l.text.length)) (c.skip l.text.length) := by
  refine ⟨?_, ?_⟩
  · rw [Scan.hasBar_lexeme hl, hbar, Bool.false_or]
    rfl
  · rw [Cursor.skip, List.length_drop]
    exact Nat.sub_le _ _

/-- Ordinary text leaves the scan as it is, between items and inside of a set. -/
theorem Takes.passes (h : Takes c d) (hregion : s.region = .items ∨ s.region = .set 0) :
    Passes s c s d := by
  obtain ⟨taken, hrest, htaken⟩ := h
  refine ⟨?_, ?_⟩
  · rw [hrest, Scan.hasBar_ordinary htaken hregion]
  · rw [hrest, List.length_append]
    exact Nat.le_add_left _ _

theorem TakesFrom.passes {r : Reading α} (h : TakesFrom c r) {a : α} (hrun : r.run c = .ok (a, d))
    (hregion : s.region = .items ∨ s.region = .set 0) : Passes s c s d :=
  (h (takes_of_eq rfl) hrun).passes hregion

/-! ### Sets -/

/-- The first member of a set may be a bracket. -/
def sureMembers (members : List SetItem) : Nat :=
  if members.isEmpty then 1 else 0

/-- Behind a member of a set, the next closing bracket closes it. -/
theorem step_setMembers {members : List SetItem} (rest : Text)
    (hl : ¬ (l == .plain ']' && !members.isEmpty) = true) :
    (⟨around, v, .set (sureMembers members)⟩ : Scan).step l rest = ⟨around, v, .set 0⟩ := by
  cases members with
  | nil => rfl
  | cons => exact if_neg (by simpa using hl)

section

variable [Names]

theorem takesFrom_setMember (l : Lexeme) : TakesFrom c (setMember l) := by
  cases l with
  | escaped ch => exact takesFrom_setEscape ch
  | plain ch => exact takesFrom_pure _

/-- The scan leaves a set where the reader does. -/
theorem passes_setMembers {opening : Nat} {members a : List SetItem} (hk : c.rest.length < k)
    (h : (setMembers opening k members).run c = .ok (a, d)) :
    Passes ⟨around, v, .set (sureMembers members)⟩ c ⟨around, v, .items⟩ d := by
  induction k generalizing c members with
  | zero => omega
  | succ k ih =>
      rw [setMembers] at h
      obtain ⟨-, h⟩ | ⟨l, hl, hlength, h⟩ := of_run_next h
      · exact absurd h (fails_failAt _ _ _ _)
      have hfirst := passes_lexeme (s := ⟨around, v, .set (sureMembers members)⟩) hl
        (by simp [Scan.isOutside])
      dsimp only at h
      split at h
      next hclose =>
          obtain ⟨-, rfl⟩ := run_pure_eq_ok.1 h
          simp only [Bool.and_eq_true, beq_iff_eq, Bool.not_eq_true'] at hclose
          obtain ⟨rfl, hmembers⟩ := hclose
          rw [sureMembers, if_neg (by simp [hmembers])] at hfirst ⊢
          exact hfirst
      next hmember =>
          rw [step_setMembers _ hmember] at hfirst
          obtain ⟨low, e, hlow, h⟩ := run_bind_eq_ok.1 h
          obtain ⟨ranged, e', hranged, h⟩ := run_bind_eq_ok.1 h
          have hmore := ((takesFrom_setMember l).passes (s := ⟨around, v, .set 0⟩) hlow
            (.inr rfl)).trans ((takesFrom_accept (by decide)).passes hranged (.inr rfl))
          have hshorter := hmore.length
          split at h
          · exact hfirst.trans (hmore.trans (ih (by omega) h))
          obtain ⟨-, h⟩ | ⟨m, hm, hlength', h⟩ := of_run_next h
          · exact absurd h (fails_failAt _ _ _ _)
          have hlast := passes_lexeme (s := ⟨around, v, .set 0⟩) hm (by simp [Scan.isOutside])
          rw [Scan.step] at hlast
          dsimp only at h hlast
          split at h
          next hclose =>
              obtain ⟨-, rfl⟩ := run_pure_eq_ok.1 h
              rw [if_pos hclose] at hlast
              exact hfirst.trans (hmore.trans hlast)
          next hclose =>
              rw [if_neg hclose] at hlast
              obtain ⟨high, e₁, hhigh, h⟩ := run_bind_eq_ok.1 h
              obtain ⟨range, e₂, hrange, h⟩ := run_bind_eq_ok.1 h
              replace hlast := (hlast.trans ((takesFrom_setMember m).passes hhigh (.inr rfl))).trans
                ((takesFrom_setRange l m low high).passes hrange (.inr rfl))
              have hshorter' := hlast.length
              exact hfirst.trans (hmore.trans (hlast.trans (ih (by omega) h)))

theorem passes_characterSet {item : Item} (h : characterSet.run c = .ok (item, d)) :
    Passes ⟨around, v, .set (if c.rest.head? == some '^' then 2 else 1)⟩ c
      ⟨around, v, .items⟩ d := by
  have hmembers : ∀ {opening : Nat} {f : List SetItem → Reading Item} {c : Cursor},
      (∀ members, Still (f members)) →
      (get >>= fun s : Cursor => setMembers opening (s.rest.length + 1) [] >>= f).run c =
        .ok (item, d) →
      Passes ⟨around, v, .set 1⟩ c ⟨around, v, .items⟩ d := by
    intro opening f c hf h
    rw [run_get_bind] at h
    obtain ⟨members, e, hrun, h⟩ := run_bind_eq_ok.1 h
    have hset : Passes ⟨around, v, .set 1⟩ c ⟨around, v, .items⟩ e :=
      passes_setMembers (Nat.lt_succ_self _) hrun
    exact hset.trans (passes_of_eq ((hf members).rest_eq h))
  rw [characterSet, run_here_bind] at h
  by_cases hl : lexeme? c.rest = some (.plain '^')
  · rw [run_accept_true hl] at h
    have hfirst := passes_lexeme (s := ⟨around, v, .set 2⟩) hl (by simp [Scan.isOutside])
    rw [if_pos (by rw [lexeme?_text hl]; rfl)]
    refine hfirst.trans (hmembers (fun members => ?_) (of_run_next_some hl h).2)
    split <;> exact still_pure _
  · rw [run_accept_false hl] at h
    rw [if_neg ?_]
    · refine hmembers (fun members => ?_) h
      split <;> exact still_pure _
    · intro hhead
      obtain ⟨tail, hrest⟩ := List.head?_eq_some_iff.1 (eq_of_beq hhead)
      exact hl (by rw [hrest, lexeme?_cons (by decide)])

end

/-! ### Comments -/

/-- A line comment ends for the scan where it ends for the reader. -/
theorem passes_skipLine (hk : c.rest.length < k) (h : (skipLine k).run c = .ok ((), d)) :
    Passes ⟨around, v, .line⟩ c ⟨around, v, .items⟩ d := by
  induction k generalizing c with
  | zero => omega
  | succ k ih =>
      rw [skipLine] at h
      obtain ⟨hnil, h⟩ | ⟨l, hl, hlength, h⟩ := of_run_next h
      · obtain ⟨-, rfl⟩ := run_pure_eq_ok.1 h
        exact ⟨by rw [hnil]; rfl, Nat.le_refl _⟩
      have hfirst := passes_lexeme (s := ⟨around, v, .line⟩) hl (by simp [Scan.isOutside])
      rw [Scan.step] at hfirst
      dsimp only at h hfirst
      split at h
      next hfeed =>
          obtain ⟨-, rfl⟩ := run_pure_eq_ok.1 h
          rwa [if_pos hfeed] at hfirst
      next hfeed =>
          rw [if_neg hfeed] at hfirst
          exact hfirst.trans (ih (by omega) h)

/-- So does a comment in parentheses. -/
theorem passes_skipComment {opening : Nat} (hk : c.rest.length < k)
    (h : (skipComment opening k).run c = .ok ((), d)) :
    Passes ⟨around, v, .comment⟩ c ⟨around, v, .items⟩ d := by
  induction k generalizing c with
  | zero => omega
  | succ k ih =>
      rw [skipComment] at h
      obtain ⟨-, h⟩ | ⟨l, hl, hlength, h⟩ := of_run_next h
      · exact absurd h (fails_failAt _ _ _ _)
      have hfirst := passes_lexeme (s := ⟨around, v, .comment⟩) hl (by simp [Scan.isOutside])
      rw [Scan.step] at hfirst
      dsimp only at h hfirst
      split at h
      next hclose =>
          obtain ⟨-, rfl⟩ := run_pure_eq_ok.1 h
          rwa [if_pos hclose] at hfirst
      next hclose =>
          rw [if_neg hclose] at hfirst
          exact hfirst.trans (ih (by omega) h)

/-! ### Flags -/

theorem verbose_add_ofLetter? {ch : Char} {flag : Flag} (h : Flag.ofLetter? ch = some flag)
    (f : Flags) : (f.add flag).verbose = (f.verbose || ch == 'x') := by
  rw [Flag.ofLetter?.eq_def] at h
  split at h <;> cases h <;> simp [Flags.add]

theorem fails_refuseFlag (problem : Problem) (l : Option Lexeme) :
    Fails (refuseFlag problem l : Reading α) := by
  rw [refuseFlag.eq_def]
  split
  · exact fails_failBack _ _
  · split <;> exact fails_failBack _ _

theorem ordinary_flagLetters {letters : Text} (h : ∀ x ∈ letters, isFlagLetter x = true) :
    Ordinary letters :=
  ordinary_of_kind isFlagLetter (by decide) h

/-- The flags that a group adds, up to what stops them. -/
theorem of_run_addedFlags {flag : Flag} {flags added : Flags} {stop : Char}
    (hk : c.rest.length < k) (h : (addedFlags k flag flags).run c = .ok ((added, stop), d)) :
    stop ∈ [')', '-', ':'] ∧ ∃ letters, c.rest = letters ++ stop :: d.rest ∧
      (∀ x ∈ letters, isFlagLetter x = true) ∧
      added.verbose = ((flags.add flag).verbose || letters.contains 'x') := by
  induction k generalizing c flag flags with
  | zero => omega
  | succ k ih =>
      rw [addedFlags] at h
      dsimp only at h
      split at h
      · exact absurd h (Fails.bind_left (fails_failBack _ _) _ _ _)
      split at h
      · exact absurd h (Fails.bind_left (fails_failBack _ _) _ _ _)
      obtain ⟨-, h⟩ | ⟨l, hl, hlength, h⟩ := of_run_next h
      · exact absurd h (fails_refuseFlag _ _ _ _)
      cases l with
      | escaped ch => exact absurd h (fails_refuseFlag _ _ _ _)
      | plain ch =>
          dsimp only at h
          split at h
          next hstop =>
              obtain ⟨heq, rfl⟩ := run_pure_eq_ok.1 h
              cases heq
              refine ⟨by simpa [or_assoc] using hstop, [], lexeme?_text hl,
                List.forall_mem_nil _, ?_⟩
              rw [List.contains_nil, Bool.or_false]
          next =>
              split at h
              next other hother =>
                  obtain ⟨hstop, letters, hrest, hletters, hverbose⟩ := ih (by omega) h
                  refine ⟨hstop, ch :: letters, ?_, ?_, ?_⟩
                  · rw [lexeme?_text hl]
                    exact congrArg (ch :: ·) hrest
                  · exact List.forall_mem_cons.2
                      ⟨isFlagLetter_of_ofLetter? hother, hletters⟩
                  · rw [hverbose, verbose_add_ofLetter? hother, List.contains_cons, Bool.or_assoc,
                      BEq.comm (a := ch)]
              next => exact absurd h (fails_refuseFlag _ _ _ _)

/-- The flags that a group removes, up to the colon. -/
theorem of_run_removedFlags {flag : Flag} {flags removed : Flags} (hk : c.rest.length < k)
    (h : (removedFlags k flag flags).run c = .ok (removed, d)) :
    ∃ letters, c.rest = letters ++ ':' :: d.rest ∧ (∀ x ∈ letters, isFlagLetter x = true) ∧
      removed.verbose = ((flags.add flag).verbose || letters.contains 'x') := by
  induction k generalizing c flag flags with
  | zero => omega
  | succ k ih =>
      rw [removedFlags] at h
      dsimp only at h
      split at h
      · exact absurd h (Fails.bind_left (fails_failBack _ _) _ _ _)
      obtain ⟨-, h⟩ | ⟨l, hl, hlength, h⟩ := of_run_next h
      · rw [if_neg (by simp)] at h
        exact absurd h (fails_refuseFlag _ _ _ _)
      split at h
      next hcolon =>
          obtain rfl : l = .plain ':' := by simpa using hcolon
          obtain ⟨rfl, rfl⟩ := run_pure_eq_ok.1 h
          refine ⟨[], lexeme?_text hl, List.forall_mem_nil _, ?_⟩
          rw [List.contains_nil, Bool.or_false]
      next =>
          split at h
          next other hother =>
              cases l with
              | escaped ch => cases hother
              | plain ch =>
                  obtain ⟨letters, hrest, hletters, hverbose⟩ := ih (by omega) h
                  refine ⟨ch :: letters, ?_, ?_, ?_⟩
                  · rw [lexeme?_text hl]
                    exact congrArg (ch :: ·) hrest
                  · exact List.forall_mem_cons.2 ⟨isFlagLetter_of_ofLetter? hother, hletters⟩
                  · rw [hverbose, verbose_add_ofLetter? hother, List.contains_cons, Bool.or_assoc,
                      BEq.comm (a := ch)]
          next => exact absurd h (fails_refuseFlag _ _ _ _)

/-- Flags that are switched on are written in flag letters, up to a sign that is none, and they
make the mode verbose if `x` is among them. -/
theorem of_run_plusFlags {ch : Char} {added : Flags} {stop : Char}
    (hch : ch = '-' ∨ isFlagLetter ch = true) (hk : c.rest.length < k)
    (h : (plusFlags ch k).run c = .ok ((added, stop), d)) :
    stop ∈ [')', '-', ':'] ∧ ∃ letters, ch :: c.rest = letters ++ stop :: d.rest ∧
      (∀ x ∈ letters, isFlagLetter x = true) ∧ added.verbose = letters.contains 'x' := by
  rw [plusFlags] at h
  split at h
  next flag hflag =>
      obtain ⟨hstop, letters, hrest, hletters, hverbose⟩ := of_run_addedFlags hk h
      refine ⟨hstop, ch :: letters, by rw [hrest, List.cons_append], ?_, ?_⟩
      · exact List.forall_mem_cons.2 ⟨isFlagLetter_of_ofLetter? hflag, hletters⟩
      · rw [hverbose, verbose_add_ofLetter? hflag, List.contains_cons, Bool.false_or,
          BEq.comm (a := ch)]
  next hnone =>
      obtain ⟨heq, rfl⟩ := run_pure_eq_ok.1 h
      cases heq
      have hletter : isFlagLetter ch = false := by
        rw [isFlagLetter, hnone]
        rfl
      obtain rfl : ch = '-' := hch.resolve_right (by rw [hletter]; exact Bool.false_ne_true)
      exact ⟨by decide, [], rfl, List.forall_mem_nil _, rfl⟩

/-- So are the flags that are switched off, up to a colon. -/
theorem of_run_minusFlags {removed : Flags} (hk : c.rest.length < k)
    (h : (minusFlags '-' k).run c = .ok (removed, d)) :
    ∃ letters, c.rest = letters ++ ':' :: d.rest ∧ (∀ x ∈ letters, isFlagLetter x = true) ∧
      removed.verbose = letters.contains 'x' := by
  rw [minusFlags, if_pos (by decide)] at h
  obtain ⟨-, h⟩ | ⟨l, hl, hlength, h⟩ := of_run_next h
  · exact absurd h (fails_refuseFlag _ _ _ _)
  split at h
  next flag hflag =>
      cases l with
      | escaped ch => cases hflag
      | plain ch =>
          obtain ⟨letters, hrest, hletters, hverbose⟩ := of_run_removedFlags (by omega) h
          refine ⟨ch :: letters, ?_, ?_, ?_⟩
          · rw [lexeme?_text hl]
            exact congrArg (ch :: ·) hrest
          · exact List.forall_mem_cons.2 ⟨isFlagLetter_of_ofLetter? hflag, hletters⟩
          · rw [hverbose, verbose_add_ofLetter? hflag, List.contains_cons, Bool.false_or,
              BEq.comm (a := ch)]
  next => exact absurd h (fails_refuseFlag _ _ _ _)

/-- A group with flags of its own has no closing parenthesis behind those that are switched on. -/
theorem of_run_scopeOf {plus added removed : Flags} {stop : Char}
    (h : (scopeOf plus stop k).run c = .ok (.group added removed, d)) :
    stop ≠ ')' ∧ added = plus ∧ (minusFlags stop k).run c = .ok (removed, d) := by
  rw [scopeOf] at h
  dsimp only at h
  split at h
  · obtain ⟨u, e, -, h⟩ := run_bind_eq_ok.1 h
    cases (run_pure_eq_ok.1 h).1
  next hstop =>
      split at h
      · exact absurd h (Fails.bind_left (fails_failBack _ _) _ _ _)
      obtain ⟨minus, e, hminus, h⟩ := run_bind_eq_ok.1 h
      split at h
      · exact absurd h (Fails.bind_left (fails_failBack _ _) _ _ _)
      split at h
      · exact absurd h (Fails.bind_left (fails_failBack _ _) _ _ _)
      obtain ⟨heq, rfl⟩ := run_pure_eq_ok.1 h
      cases heq
      exact ⟨by simpa using hstop, rfl, hminus⟩

theorem span_flagLetters {letters : Text} (hletters : ∀ x ∈ letters, isFlagLetter x = true)
    {stop : Char} (hstop : isFlagLetter stop = false) (rest : Text) :
    (letters ++ stop :: rest).takeWhile isFlagLetter = letters ∧
      (letters ++ stop :: rest).dropWhile isFlagLetter = stop :: rest := by
  rw [List.takeWhile_append_of_pos hletters, List.dropWhile_append_of_pos hletters,
    List.takeWhile_cons_of_neg (by simp [hstop]), List.dropWhile_cons_of_neg (by simp [hstop]),
    List.append_nil]
  exact ⟨rfl, rfl⟩

/-- What has been taken of a text that opens with another character. -/
theorem takes_of_cons (ch : Char) (taken : Text) (h : ch :: c.rest = taken ++ d.rest)
    (hne : taken ≠ []) (htaken : Ordinary taken) : Takes c d := by
  cases taken with
  | nil => exact absurd rfl hne
  | cons x taken =>
      exact ⟨taken, (List.cons.inj h).2, fun y hy => htaken y (List.mem_cons_of_mem _ hy)⟩

/-- Flags for a group set the mode inside of it. -/
theorem of_run_flagScope {ch : Char} {added removed : Flags}
    (hch : ch = '-' ∨ isFlagLetter ch = true)
    (h : (flagScope ch).run c = .ok (.group added removed, d)) :
    modeInside v ('?' :: ch :: c.rest) = ((v || added.verbose) && !removed.verbose) ∧
      Takes c d := by
  rw [flagScope_eq, run_get_bind] at h
  obtain ⟨⟨plus, stop⟩, e, hplus, hscope⟩ := run_bind_eq_ok.1 h
  obtain ⟨hstop, letters, hrest, hletters, hverbose⟩ :=
    of_run_plusFlags hch (Nat.lt_succ_self _) hplus
  obtain ⟨hparen, rfl, hminus⟩ := of_run_scopeOf hscope
  have hordinary := ordinary_flagLetters hletters
  simp only [List.mem_cons, List.not_mem_nil, or_false, hparen, false_or] at hstop
  rcases hstop with rfl | rfl
  · have hlength := congrArg List.length hrest
    simp only [List.length_cons, List.length_append] at hlength
    obtain ⟨letters', hrest', hletters', hverbose'⟩ := of_run_minusFlags (by omega) hminus
    obtain ⟨htake, hdrop⟩ := span_flagLetters hletters (by decide : isFlagLetter '-' = false) e.rest
    obtain ⟨htake', -⟩ := span_flagLetters hletters' (by decide : isFlagLetter ':' = false) d.rest
    refine ⟨?_, takes_of_cons ch (letters ++ '-' :: letters' ++ [':']) ?_ (by simp) ?_⟩
    · rw [modeInside, hrest, htake, hdrop, hrest']
      simp only [htake', hverbose, hverbose']
    · simp [hrest, hrest']
    · refine ordinary_append (ordinary_append hordinary ?_) (by decide)
      exact ordinary_append (t := ['-']) (by decide) (ordinary_flagLetters hletters')
  · obtain ⟨rfl, rfl⟩ := run_pure_eq_ok.1 hminus
    obtain ⟨htake, hdrop⟩ := span_flagLetters hletters (by decide : isFlagLetter ':' = false) d.rest
    refine ⟨?_, takes_of_cons ch (letters ++ [':']) ?_ (by simp) ?_⟩
    · rw [modeInside, hrest, htake, hdrop, hverbose]
      rfl
    · simp [hrest]
    · exact ordinary_append hordinary (by decide)

end Reading

end UtilityCss.Pattern

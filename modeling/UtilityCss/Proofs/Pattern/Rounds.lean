import UtilityCss.Proofs.Pattern.Groups

/-!
# Patterns — one round of a sequence, and one group

A sequence is read round by round.  A round takes a lexeme and what belongs to it, and it adds an
item, repeats the last one, or leaves the items as they are.  `Round` says all that a round can do,
and a sequence that gives a result is at its end, or goes one round and on from there
(`of_run_sequence_succ`).  So a statement on sequences is proved by looking at one round.

In the same way `Enclosed` says all that a group can be, by what stands behind its opening
parenthesis (`of_run_group_succ`).
-/

namespace UtilityCss.Pattern

/-- A text opens with its lexeme. -/
theorem lexeme?_text {t : Text} {l : Lexeme} (h : lexeme? t = some l) :
    t = l.text ++ t.drop l.text.length := by
  rw [lexeme?.eq_def] at h
  split at h <;> cases h <;> rfl

/-- The cursor some characters further on. -/
def Cursor.skip (c : Cursor) (n : Nat) : Cursor :=
  { c with rest := c.rest.drop n }

namespace Reading

variable {α : Type} {k : Nat} {v first : Bool} {c d : Cursor} {items a : List Item} {l : Lexeme}

/-- Behind a lexeme less is left. -/
theorem length_skip_lt (hl : lexeme? c.rest = some l) :
    (c.skip l.text.length).rest.length < c.rest.length := by
  have hlength := congrArg List.length (lexeme?_text hl)
  have hpos : 0 < l.text.length := by cases l <;> exact Nat.succ_pos _
  rw [List.length_append] at hlength
  simp only [Cursor.skip]
  omega

/-- A lexeme is taken, or nothing is left. -/
theorem of_run_next {f : Option Lexeme → Reading α} {a : α}
    (h : (next >>= f).run c = .ok (a, d)) :
    (c.rest = [] ∧ (f none).run c = .ok (a, d)) ∨
      ∃ l, lexeme? c.rest = some l ∧ (c.skip l.text.length).rest.length < c.rest.length ∧
        (f (some l)).run (c.skip l.text.length) = .ok (a, d) := by
  cases hl : lexeme? c.rest with
  | none =>
      have hnil := lexeme?_eq_none.1 hl
      exact .inl ⟨hnil, run_next_nil hnil ▸ h⟩
  | some l =>
      exact .inr ⟨l, rfl, length_skip_lt hl, (of_run_next_some hl h).2⟩

theorem of_run_closed {α β : Type} {r : Reading β} {opening : Nat} {f : β → α} {b : α}
    (h : (r >>= fun body => close opening >>= fun _ => pure (f body)).run c = .ok (b, d)) :
    ∃ body e, r.run c = .ok (body, e) ∧ (close opening).run e = .ok ((), d) ∧ b = f body := by
  obtain ⟨body, e, hbody, h⟩ := run_bind_eq_ok.1 h
  obtain ⟨x, e', hclose, h⟩ := run_bind_eq_ok.1 h
  obtain ⟨rfl, rfl⟩ := run_pure_eq_ok.1 h
  exact ⟨body, e, hbody, hclose, rfl⟩

/-- The item of a character that stands for itself or for a place. -/
def plainItem (ch : Char) : Item :=
  if ch == '.' then .any
  else if ch == '^' then .place .start
  else if ch == '$' then .place .finish
  else .code ch.toNat

/-- A character that opens a quantifier. -/
def isQuantifier (ch : Char) : Bool :=
  ch == '*' || ch == '+' || ch == '?' || ch.toNat == 123

variable [Names]

/-- What a round can do: the items, the mode and the cursor behind it. -/
inductive Round (k : Nat) (v first : Bool) (items : List Item) (c : Cursor) :
    List Item → Bool → Cursor → Prop
  | escape {ch : Char} {item : Item} {e : Cursor} (hl : lexeme? c.rest = some (.escaped ch))
      (hrun : (itemEscape ch).run (c.skip 2) = .ok (item, e)) :
      Round k v first items c (item :: items) v e
  /-- A blank of verbose mode. -/
  | blank {ch : Char} (hv : v = true) (hl : lexeme? c.rest = some (.plain ch))
      (hch : isSkipped ch) :
      Round k v first items c items v (c.skip 1)
  /-- A comment of verbose mode. -/
  | line {fuel : Nat} {e : Cursor} (hv : v = true) (hl : lexeme? c.rest = some (.plain '#'))
      (hfuel : c.rest.length ≤ fuel) (hrun : (skipLine fuel).run (c.skip 1) = .ok ((), e)) :
      Round k v first items c items v e
  | plain {ch : Char} (hl : lexeme? c.rest = some (.plain ch))
      (hch : ch ∉ ['|', '(', ')', '[']) (hline : ¬ (v = true ∧ ch = '#'))
      (hquantifier : ¬ isQuantifier ch) (hwhole : (c.skip 1).rest ≠ ['\\']) :
      Round k v first items c (plainItem ch :: items) v (c.skip 1)
  | set {item : Item} {e : Cursor} (hl : lexeme? c.rest = some (.plain '['))
      (hrun : characterSet.run (c.skip 1) = .ok (item, e)) :
      Round k v first items c (item :: items) v e
  /-- A brace that holds no bounds. -/
  | brace {ch : Char} {e : Cursor} (hl : lexeme? c.rest = some (.plain ch))
      (hquantifier : isQuantifier ch) (hrun : (bounds ch).run (c.skip 1) = .ok (none, e)) :
      Round k v first items c (.code ch.toNat :: items) v e
  | again {ch : Char} {min : Nat} {max : Option Nat} {position : Nat} {e e' : Cursor}
      {items' : List Item} (hl : lexeme? c.rest = some (.plain ch)) (hquantifier : isQuantifier ch)
      (hbounds : (bounds ch).run (c.skip 1) = .ok (some (min, max), e))
      (hrun : (repeatLast min max position items).run e = .ok (items', e')) :
      Round k v first items c items' v e'
  | group {position : Nat} {item : Item} {e : Cursor} (hl : lexeme? c.rest = some (.plain '('))
      (hrun : (group k v position).run (c.skip 1) = .ok (.item item, e)) :
      Round k v first items c (item :: items) v e
  /-- A comment in parentheses. -/
  | comment {position : Nat} {e : Cursor} (hl : lexeme? c.rest = some (.plain '('))
      (hrun : (Reading.group k v position).run (c.skip 1) = .ok (.nothing, e)) :
      Round k v first items c items v e
  /-- Flags for the whole pattern, at its start. -/
  | flags {position : Nat} {e : Cursor} (hfirst : first = true) (hitems : items = [])
      (hl : lexeme? c.rest = some (.plain '('))
      (hrun : (Reading.group k v position).run (c.skip 1) = .ok (.flags, e)) :
      Round k v first items c items e.flags.verbose e

/-- **A sequence** is at its end, or goes one round and on from there. -/
theorem of_run_sequence_succ (h : (sequence (k + 1) v first items).run c = .ok (a, d)) :
    (d = c ∧ a = unwrap items.reverse ∧
        ∀ l, lexeme? c.rest = some l → l = .plain '|' ∨ l = .plain ')') ∨
      ∃ items' v' e, Round k v first items c items' v' e ∧
        (sequence k v' first items').run e = .ok (a, d) := by
  rw [sequence, run_peek_bind] at h
  cases hl : lexeme? c.rest with
  | none =>
      rw [hl] at h
      obtain ⟨rfl, rfl⟩ := run_pure_eq_ok.1 h
      exact .inl ⟨rfl, rfl, fun _ hnone => by cases hnone⟩
  | some l =>
      rw [hl] at h
      cases l with
      | escaped ch =>
          obtain ⟨item, e, hrun, h⟩ := run_bind_eq_ok.1 (of_run_next_some hl h).2
          exact .inr ⟨_, _, _, .escape hl hrun, h⟩
      | plain ch =>
          dsimp only at h
          by_cases hstop : (ch == '|' || ch == ')') = true
          · rw [if_pos hstop] at h
            obtain ⟨rfl, rfl⟩ := run_pure_eq_ok.1 h
            refine .inl ⟨rfl, rfl, fun l hsame => ?_⟩
            cases hsame
            simpa using hstop
          rw [if_neg hstop, run_here_bind] at h
          have hwhole : (c.skip 1).rest ≠ ['\\'] := (of_run_next_some hl h).1
          replace h := (of_run_next_some hl h).2
          change StateT.run _ (c.skip 1) = _ at h
          by_cases hblank : (v && isSkipped ch) = true
          · rw [if_pos hblank] at h
            rw [Bool.and_eq_true] at hblank
            exact .inr ⟨_, _, _, .blank hblank.1 hl hblank.2, h⟩
          rw [if_neg hblank] at h
          by_cases hline : (v && ch == '#') = true
          · rw [if_pos hline, run_get_bind] at h
            rw [Bool.and_eq_true, beq_iff_eq] at hline
            obtain ⟨hv, rfl⟩ := hline
            obtain ⟨u, e, hrun, h⟩ := run_bind_eq_ok.1 h
            refine .inr ⟨_, _, _, .line hv hl ?_ hrun, h⟩
            rw [Cursor.skip, List.length_drop]
            omega
          rw [if_neg hline] at h
          by_cases hspecial : (ch == '.' || ch == '^' || ch == '$') = true
          · refine .inr ⟨plainItem ch :: items, v, c.skip 1, ?_, ?_⟩
            · simp only [Bool.or_eq_true, beq_iff_eq] at hspecial
              obtain (rfl | rfl) | rfl := hspecial <;>
                exact .plain hl (by decide) (fun hne => absurd hne.2 (by decide)) (by decide) hwhole
            · simp only [Bool.or_eq_true, beq_iff_eq] at hspecial
              obtain (rfl | rfl) | rfl := hspecial <;> exact h
          simp only [Bool.or_eq_true, not_or] at hspecial
          rw [if_neg hspecial.1.1, if_neg hspecial.1.2, if_neg hspecial.2] at h
          by_cases hset : (ch == '[') = true
          · rw [if_pos hset] at h
            obtain rfl := eq_of_beq hset
            obtain ⟨item, e, hrun, h⟩ := run_bind_eq_ok.1 h
            exact .inr ⟨_, _, _, .set hl hrun, h⟩
          rw [if_neg hset] at h
          by_cases hquantifier : isQuantifier ch = true
          · rw [if_pos (by rwa [isQuantifier] at hquantifier)] at h
            obtain ⟨counts, e, hbounds, h⟩ := run_bind_eq_ok.1 h
            cases counts with
            | none => exact .inr ⟨_, _, _, .brace hl hquantifier hbounds, h⟩
            | some counts =>
                obtain ⟨items', e', hrun, h⟩ := run_bind_eq_ok.1 h
                exact .inr ⟨_, _, _, .again hl hquantifier hbounds hrun, h⟩
          rw [if_neg (by rwa [isQuantifier] at hquantifier)] at h
          by_cases hopen : (ch == '(') = true
          · rw [if_pos hopen] at h
            obtain rfl := eq_of_beq hopen
            obtain ⟨outcome, e, hrun, h⟩ := run_bind_eq_ok.1 h
            cases outcome with
            | item item => exact .inr ⟨_, _, _, .group hl hrun, h⟩
            | nothing => exact .inr ⟨_, _, _, .comment hl hrun, h⟩
            | flags =>
                dsimp only at h
                split at h
                · exact absurd h (Fails.bind_left (fails_failAt _ _) _ _ _)
                next hfirst =>
                    simp only [Bool.or_eq_true, Bool.not_eq_true', not_or, Bool.not_eq_false,
                      List.isEmpty_iff] at hfirst
                    exact .inr ⟨_, _, _, .flags hfirst.1 hfirst.2 hl hrun, h⟩
          rw [if_neg hopen] at h
          refine .inr ⟨plainItem ch :: items, v, c.skip 1, .plain hl ?_ ?_ hquantifier hwhole, ?_⟩
          · simp only [Bool.or_eq_true, beq_iff_eq, not_or] at hstop hopen hset
            simp [hstop.1, hstop.2, hopen, hset]
          · rintro ⟨rfl, rfl⟩
            exact hline rfl
          · rw [plainItem, if_neg hspecial.1.1, if_neg hspecial.1.2, if_neg hspecial.2]
            exact h

/-! ### Groups -/

/-- What a group does behind the letter that stands before names. -/
def namedGroup (fuel : Nat) (verbose : Bool) (opening : Nat) : Reading Outcome := do
  if ← accept '<' then
    capture fuel verbose opening (some (← groupName '>'))
  else if ← accept '=' then
    return .item (← namedReference)
  else
    match ← next with
    | none => failBack .unexpectedEnd 0
    | some l => failBack (.unknownExtension ('?' :: 'P' :: l.text)) (l.text.length + 2)

/-- The item of a group, by the character behind its question mark. -/
def bodyItem (ch : Char) (body : List Item) : Item :=
  if ch == ':' then .group none {} {} body
  else if ch == '>' then .atomic body
  else .look true (ch == '!') body

/-- What a group can be, behind its opening parenthesis: what it comes to, and the cursor behind
it. -/
inductive Enclosed (k : Nat) (v : Bool) (opening : Nat) (c : Cursor) : Outcome → Cursor → Prop
  | capture {outcome : Outcome} {d : Cursor} (hl : lexeme? c.rest ≠ some (.plain '?'))
      (hrun : (Reading.capture k v opening none).run c = .ok (outcome, d)) :
      Enclosed k v opening c outcome d
  | named {outcome : Outcome} {d e : Cursor} (hrest : c.rest = '?' :: 'P' :: e.rest)
      (hrun : (namedGroup k v opening).run e = .ok (outcome, d)) :
      Enclosed k v opening c outcome d
  | body {ch : Char} {items : List Item} {d e e' : Cursor} (hch : ch ∈ [':', '=', '!', '>'])
      (hrest : c.rest = '?' :: ch :: e.rest)
      (hbody : (choice false k v []).run e = .ok (items, e'))
      (hclose : (close opening).run e' = .ok ((), d)) :
      Enclosed k v opening c (.item (bodyItem ch items)) d
  | comment {d e : Cursor} (hrest : c.rest = '?' :: '#' :: e.rest)
      (hrun : (skipComment opening (e.rest.length + 1)).run e = .ok ((), d)) :
      Enclosed k v opening c .nothing d
  | lookBehind {sign : Char} {outcome : Outcome} {d e e' : Cursor} (hsign : sign = '=' ∨ sign = '!')
      (hrest : c.rest = '?' :: '<' :: e.rest) (hrest' : e.rest = sign :: e'.rest)
      (hrun : (lookBehindGroup k v opening (sign == '!')).run e' = .ok (outcome, d)) :
      Enclosed k v opening c outcome d
  | conditional {number : Nat} {outcome : Outcome} {d e e' : Cursor}
      (hrest : c.rest = '?' :: '(' :: e.rest) (hcondition : condition.run e = .ok (number, e'))
      (hrun : (branches k v opening number).run e' = .ok (outcome, d)) :
      Enclosed k v opening c outcome d
  /-- Flags for the whole pattern. -/
  | whole {ch : Char} {d e : Cursor} (hch : ch = '-' ∨ (Flag.ofLetter? ch).isSome)
      (hrest : c.rest = '?' :: ch :: e.rest) (hscope : (flagScope ch).run e = .ok (.whole, d)) :
      Enclosed k v opening c .flags d
  /-- Flags for the group. -/
  | inside {ch : Char} {added removed : Flags} {items : List Item} {d e e' e'' : Cursor}
      (hch : ch = '-' ∨ (Flag.ofLetter? ch).isSome) (hrest : c.rest = '?' :: ch :: e.rest)
      (hscope : (flagScope ch).run e = .ok (.group added removed, e'))
      (hbody : (choice false k ((v || added.verbose) && !removed.verbose) []).run e' =
        .ok (items, e''))
      (hclose : (close opening).run e'' = .ok ((), d)) :
      Enclosed k v opening c (.item (.group none added removed items)) d

/-- **A group** that gives a result is one of those that there are. -/
theorem of_run_group_succ {opening : Nat} {outcome : Outcome}
    (h : (group (k + 1) v opening).run c = .ok (outcome, d)) :
    Enclosed k v opening c outcome d := by
  rw [group] at h
  by_cases hl : lexeme? c.rest = some (.plain '?')
  case neg =>
    rw [run_accept_false hl] at h
    exact .capture hl h
  rw [run_accept_true hl] at h
  replace h := (of_run_next_some hl h).2
  obtain ⟨-, h⟩ | ⟨l, hl', -, h⟩ := of_run_next h
  · exact absurd h (fails_failBack _ _ _ _)
  cases l with
  | escaped ch => exact absurd h (fails_failBack _ _ _ _)
  | plain ch =>
      have hrest : c.rest = '?' :: ch :: ((c.skip 1).skip 1).rest := by
        rw [lexeme?_text hl]
        exact congrArg ('?' :: ·) (lexeme?_text hl')
      dsimp only at h
      change StateT.run _ ((c.skip 1).skip 1) = _ at h
      generalize (c.skip 1).skip 1 = e at h hrest
      by_cases hname : (ch == 'P') = true
      · rw [if_pos hname] at h
        obtain rfl := eq_of_beq hname
        exact .named hrest h
      rw [if_neg hname] at h
      by_cases hplain : (ch == ':') = true
      · rw [if_pos hplain] at h
        obtain rfl := eq_of_beq hplain
        obtain ⟨body, e', hbody, hclose, rfl⟩ := of_run_closed h
        exact @Enclosed.body _ _ _ _ _ ':' _ _ _ _ (by decide) hrest hbody hclose
      rw [if_neg hplain] at h
      by_cases hcomment : (ch == '#') = true
      · rw [if_pos hcomment, run_get_bind] at h
        obtain rfl := eq_of_beq hcomment
        obtain ⟨x, e', hskip, h⟩ := run_bind_eq_ok.1 h
        obtain ⟨rfl, rfl⟩ := run_pure_eq_ok.1 h
        exact .comment hrest hskip
      rw [if_neg hcomment] at h
      by_cases hahead : (ch == '=' || ch == '!') = true
      · rw [if_pos hahead] at h
        obtain ⟨body, e', hbody, hclose, rfl⟩ := of_run_closed h
        rw [Bool.or_eq_true, beq_iff_eq, beq_iff_eq] at hahead
        rcases hahead with rfl | rfl
        · exact @Enclosed.body _ _ _ _ _ '=' _ _ _ _ (by decide) hrest hbody hclose
        · exact @Enclosed.body _ _ _ _ _ '!' _ _ _ _ (by decide) hrest hbody hclose
      rw [if_neg hahead] at h
      by_cases hbehind : (ch == '<') = true
      · rw [if_pos hbehind] at h
        obtain rfl := eq_of_beq hbehind
        obtain ⟨-, h⟩ | ⟨l, hl, -, h⟩ := of_run_next h
        · exact absurd h (fails_failBack _ _ _ _)
        dsimp only at h
        by_cases hsign : (l == .plain '=' || l == .plain '!') = true
        · rw [if_pos hsign] at h
          rw [Bool.or_eq_true, beq_iff_eq, beq_iff_eq] at hsign
          rcases hsign with rfl | rfl
          · have hsign : e.rest = '=' :: (e.skip 1).rest := lexeme?_text hl
            exact .lookBehind (.inl rfl) hrest hsign h
          · have hsign : e.rest = '!' :: (e.skip 1).rest := lexeme?_text hl
            exact .lookBehind (.inr rfl) hrest hsign h
        · rw [if_neg hsign] at h
          exact absurd h (fails_failBack _ _ _ _)
      rw [if_neg hbehind] at h
      by_cases hcondition : (ch == '(') = true
      · rw [if_pos hcondition] at h
        obtain rfl := eq_of_beq hcondition
        obtain ⟨number, e', hnumber, h⟩ := run_bind_eq_ok.1 h
        exact .conditional hrest hnumber h
      rw [if_neg hcondition] at h
      by_cases hatomic : (ch == '>') = true
      · rw [if_pos hatomic] at h
        obtain rfl := eq_of_beq hatomic
        obtain ⟨body, e', hbody, hclose, rfl⟩ := of_run_closed h
        exact @Enclosed.body _ _ _ _ _ '>' _ _ _ _ (by decide) hrest hbody hclose
      rw [if_neg hatomic] at h
      by_cases hflags : (ch == '-' || (Flag.ofLetter? ch).isSome) = true
      · rw [if_pos hflags] at h
        rw [Bool.or_eq_true, beq_iff_eq] at hflags
        obtain ⟨scope, e', hscope, h⟩ := run_bind_eq_ok.1 h
        cases scope with
        | whole =>
            obtain ⟨rfl, rfl⟩ := run_pure_eq_ok.1 h
            exact .whole hflags hrest hscope
        | group added removed =>
            obtain ⟨body, e'', hbody, hclose, rfl⟩ := of_run_closed h
            exact .inside hflags hrest hscope hbody hclose
      · rw [if_neg hflags] at h
        exact absurd h (fails_failBack _ _ _ _)

end Reading

end UtilityCss.Pattern

import UtilityCss.Pattern.Reader

/-!
# Patterns — readers that give a result

A reader changes the cursor, gives a result or fails.  Where it gives one, so have its parts: a
statement on a reader that has given a result is taken apart along the reader, from the first part
to the last.  `run_bind_eq_ok` splits off one part, and below are the parts that look at the cursor
or take a lexeme.

* `lexeme?_eq_some`: a text opens with its lexeme, whatever stands behind the text.  A backslash on
  its own is the exception, and readers do not stop in front of it.
* `run_next_some`, `run_next_dangling`: a lexeme is taken, unless that would leave such a backslash.
* `run_accept_true`, `run_accept_false`: a character is accepted if it comes next.
* `of_run_next_some`: what is left when a lexeme has been taken.
* `Fails`: the reader never gives a result.
-/

namespace UtilityCss.Pattern

/-! ### Lexemes -/

/-- A character that is no backslash is a lexeme of its own. -/
theorem lexeme?_cons {c : Char} (hc : c ≠ '\\') (t : Text) :
    lexeme? (c :: t) = some (.plain c) := by
  rw [lexeme?.eq_def]
  split <;> simp_all

/-- There is no lexeme at the end of the pattern only. -/
theorem lexeme?_eq_none {t : Text} : lexeme? t = none ↔ t = [] := by
  constructor
  · intro h
    rw [lexeme?.eq_def] at h
    split at h <;> simp_all
  · rintro rfl
    rfl

/-- A text with another character in it is more than a backslash. -/
theorem ne_backslash_of_mem (ch : Char) {t : Text} (hmem : ch ∈ t) (hch : ch ≠ '\\') :
    t ≠ ['\\'] := by
  rintro rfl
  exact hch (List.mem_singleton.1 hmem)

/-- A text other than a single backslash opens with its lexeme. -/
theorem lexeme?_eq_some {t : Text} {l : Lexeme} (h : lexeme? t = some l) (ht : t ≠ ['\\']) :
    t = l.text ++ t.drop l.text.length ∧ ∀ u, lexeme? (t ++ u) = some l := by
  rw [lexeme?.eq_def] at h
  split at h
  · cases h
  · cases h
    exact ⟨rfl, fun _ => rfl⟩
  next c rest hother =>
    cases h
    have hc : c ≠ '\\' := by
      rintro rfl
      cases rest with
      | nil => exact ht rfl
      | cons d rest => exact hother d rest rfl rfl
    exact ⟨rfl, fun u => lexeme?_cons hc (rest ++ u)⟩

namespace Reading

variable {α β : Type} {c d : Cursor} {a : α}

/-! ### Parts of readers -/

/-- Two readers give a result if the second one does from where the first one leaves off. -/
theorem run_bind_eq_ok {r : Reading β} {f : β → Reading α} :
    (r >>= f).run c = .ok (a, d) ↔ ∃ b e, r.run c = .ok (b, e) ∧ (f b).run e = .ok (a, d) := by
  rw [StateT.run_bind]
  cases h : r.run c with
  | error fault => simp [bind, Except.bind]
  | ok out =>
      obtain ⟨b, e⟩ := out
      constructor
      · exact fun hnext => ⟨b, e, rfl, hnext⟩
      · rintro ⟨b', e', heq, hnext⟩
        cases heq
        exact hnext

theorem run_bind_ok {r : Reading β} {f : β → Reading α} {b : β} {e : Cursor}
    (h : r.run c = .ok (b, e)) : (r >>= f).run c = (f b).run e := by
  rw [StateT.run_bind, h]
  rfl

theorem run_bind_error {r : Reading β} {f : β → Reading α} {fault : Fault}
    (h : r.run c = .error fault) : (r >>= f).run c = .error fault := by
  rw [StateT.run_bind, h]
  rfl

/-- Readers that come to the same may be exchanged in front of another one. -/
theorem run_bind_congr {r r' : Reading β} (h : r.run c = r'.run d) (f : β → Reading α) :
    (r >>= f).run c = (r' >>= f).run d := by
  rw [StateT.run_bind, StateT.run_bind, h]

/-- What a reader does behind another one only matters where that one gives a result. -/
theorem run_bind_congr_ok {r : Reading β} {f g : β → Reading α}
    (h : ∀ b e, r.run c = .ok (b, e) → (f b).run e = (g b).run e) :
    (r >>= f).run c = (r >>= g).run c := by
  cases hr : r.run c with
  | error fault => rw [run_bind_error hr, run_bind_error hr]
  | ok out => rw [run_bind_ok hr, run_bind_ok hr, h _ _ hr]

/-- A choice of readers is followed on both sides. -/
theorem run_ite_congr {p : Prop} [Decidable p] {r r' s s' : Reading α}
    (hthen : p → r.run c = r'.run c) (helse : ¬ p → s.run c = s'.run c) :
    (if p then r else s).run c = (if p then r' else s').run c := by
  by_cases hp : p
  · rw [if_pos hp, if_pos hp]
    exact hthen hp
  · rw [if_neg hp, if_neg hp]
    exact helse hp

theorem run_pure_eq_ok {b : α} : (pure b : Reading α).run c = .ok (a, d) ↔ a = b ∧ d = c := by
  rw [StateT.run_pure]
  simp [pure, Except.pure, eq_comm]

theorem run_modify_eq_ok {f : Cursor → Cursor} {u : Unit} :
    (modify f : Reading Unit).run c = .ok (u, d) ↔ d = f c := by
  simp [StateT.run_modify, pure, Except.pure, eq_comm]

theorem run_set_eq_ok {s : Cursor} {u : PUnit} :
    (set s : Reading PUnit).run c = .ok (u, d) ↔ d = s := by
  simp [StateT.run_set, pure, Except.pure, eq_comm]

theorem run_get_bind (f : Cursor → Reading α) (c : Cursor) : (get >>= f).run c = (f c).run c :=
  rfl

/-- Looking ahead reads nothing and gives the next lexeme. -/
theorem run_peek_bind (f : Option Lexeme → Reading α) (c : Cursor) :
    (peek >>= f).run c = (f (lexeme? c.rest)).run c :=
  rfl

/-- The place of a cursor is counted from the start of the pattern. -/
theorem run_here_bind (f : Nat → Reading α) (c : Cursor) :
    (here >>= f).run c = (f (c.total - c.rest.length)).run c :=
  rfl

/-- The reader never gives a result. -/
def Fails (r : Reading α) : Prop :=
  ∀ c out, r.run c ≠ .ok out

theorem fails_throw (fault : Fault) : Fails (throw fault : Reading α) := by
  intro c out h
  cases h

theorem fails_failAt (problem : Problem) (position : Nat) :
    Fails (failAt problem position : Reading α) :=
  fails_throw _

/-- A reader that fails everywhere does so with anything behind it. -/
theorem Fails.bind_left {r : Reading β} (h : Fails r) (f : β → Reading α) :
    Fails (r >>= f) := by
  rintro c ⟨a, d⟩ hrun
  obtain ⟨b, e, hfirst, -⟩ := run_bind_eq_ok.1 hrun
  exact h c (b, e) hfirst

theorem fails_failBack (problem : Problem) (back : Nat) :
    Fails (failBack problem back : Reading α) := by
  intro c out
  rw [failBack, run_here_bind]
  exact fails_failAt _ _ _ _

/-! ### Taking lexemes -/

/-- The cursor moves to every text but a single backslash. -/
theorem run_moveTo {t : Text} (ht : t ≠ ['\\']) :
    (moveTo t).run c = .ok ((), { c with rest := t }) := by
  rw [moveTo, run_get_bind, if_neg (by simpa using ht)]
  rfl

/-- To move it does not matter where the cursor is. -/
theorem run_moveTo_rest (t u : Text) :
    (moveTo t).run { c with rest := u } = (moveTo t).run c := by
  by_cases ht : t = ['\\']
  · subst ht
    rfl
  · rw [run_moveTo ht, run_moveTo ht]

/-- Moving to a single backslash is the one move that fails. -/
theorem of_run_moveTo {t : Text} {u : Unit} (h : (moveTo t).run c = .ok (u, d)) :
    t ≠ ['\\'] ∧ d = { c with rest := t } := by
  rw [moveTo, run_get_bind] at h
  split at h
  · exact absurd h (fails_failAt _ _ _ _)
  next hne => exact ⟨by simpa using hne, run_set_eq_ok.1 h⟩

/-- At the end of the pattern the next lexeme is none, and the cursor stays. -/
theorem run_next_nil {f : Option Lexeme → Reading α} (hnil : c.rest = []) :
    (next >>= f).run c = (f none).run c := by
  rw [next, bind_assoc, run_peek_bind, hnil]
  rfl

/-- Taking a lexeme is moving behind it. -/
theorem run_next {f : Option Lexeme → Reading α} {l : Lexeme} (hl : lexeme? c.rest = some l) :
    (next >>= f).run c = (moveTo (c.rest.drop l.text.length) >>= fun _ => f (some l)).run c := by
  rw [next, bind_assoc, run_peek_bind, hl]
  dsimp only
  rw [bind_assoc, run_get_bind, bind_assoc]
  rfl

/-- Taking a lexeme leaves what is behind it. -/
theorem run_next_some {f : Option Lexeme → Reading α} {l : Lexeme}
    (hl : lexeme? c.rest = some l) (hwhole : c.rest.drop l.text.length ≠ ['\\']) :
    (next >>= f).run c = (f (some l)).run { c with rest := c.rest.drop l.text.length } := by
  rw [run_next hl, run_bind_ok (run_moveTo hwhole)]

/-- A lexeme is not taken if that leaves a backslash on its own. -/
theorem run_next_dangling {f : Option Lexeme → Reading α} {l : Lexeme}
    (hl : lexeme? c.rest = some l) (hdangling : c.rest.drop l.text.length = ['\\']) :
    (next >>= f).run c = .error (.malformed .danglingEscape (some (c.total - 1))) := by
  rw [run_next hl, hdangling]
  rfl

/-- A lexeme is read by dropping its text, and no single backslash stands behind it. -/
theorem of_run_next_some {f : Option Lexeme → Reading α} {l : Lexeme}
    (hl : lexeme? c.rest = some l) (h : (next >>= f).run c = .ok (a, d)) :
    c.rest.drop l.text.length ≠ ['\\'] ∧
      (f (some l)).run { c with rest := c.rest.drop l.text.length } = .ok (a, d) := by
  by_cases hwhole : c.rest.drop l.text.length = ['\\']
  · rw [run_next_dangling hl hwhole] at h
    cases h
  · exact ⟨hwhole, run_next_some hl hwhole ▸ h⟩

theorem run_accept_true {ch : Char} {f : Bool → Reading α}
    (hl : lexeme? c.rest = some (.plain ch)) :
    (accept ch >>= f).run c = (next >>= fun _ => f true).run c := by
  rw [accept, bind_assoc, run_peek_bind, if_pos (by simpa using hl), bind_assoc]
  rfl

/-- A character that is not the next lexeme is not accepted, and nothing is read. -/
theorem run_accept_false {ch : Char} {f : Bool → Reading α}
    (hl : lexeme? c.rest ≠ some (.plain ch)) : (accept ch >>= f).run c = (f false).run c := by
  rw [accept, bind_assoc, run_peek_bind, if_neg (by simpa using hl)]
  rfl

section Plain

variable {ch : Char} {tail : Text} (hch : ch ≠ '\\') (hrest : c.rest = ch :: tail)

include hch hrest

theorem run_peek_plain (f : Option Lexeme → Reading α) :
    (peek >>= f).run c = (f (some (.plain ch))).run c := by
  rw [run_peek_bind, hrest, lexeme?_cons hch]

theorem run_next_moveTo (f : Option Lexeme → Reading α) :
    (next >>= f).run c = (moveTo tail >>= fun _ => f (some (.plain ch))).run c := by
  rw [run_next (by rw [hrest, lexeme?_cons hch]), hrest]
  rfl

/-- A plain character is read off unless a single backslash stands behind it. -/
theorem run_next_plain (hwhole : tail ≠ ['\\']) (f : Option Lexeme → Reading α) :
    (next >>= f).run c = (f (some (.plain ch))).run { c with rest := tail } := by
  rw [run_next_moveTo hch hrest, run_bind_ok (run_moveTo hwhole)]

theorem run_accept_plain (hwhole : tail ≠ ['\\']) (f : Bool → Reading α) :
    (accept ch >>= f).run c = (f true).run { c with rest := tail } := by
  rw [run_accept_true (by rw [hrest, lexeme?_cons hch]), run_next_plain hch hrest hwhole]

end Plain

end Reading

end UtilityCss.Pattern

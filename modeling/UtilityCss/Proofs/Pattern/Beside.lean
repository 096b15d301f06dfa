import UtilityCss.Proofs.Pattern.Paired

/-!
# Patterns — two readers side by side

A pattern can be read alone and in a group that closes behind it.  The two readers go the same way:
what comes next for the first one comes next for the second, and only at the end of the first text
does the second one find what closes the group.

* `Beside`: the cursors of the two readers.  Places are left out, since text in front of the group
  moves them and only faults show them.  A bound on what is left makes readers with different fuel
  comparable.
* `Accord`: the results are related, and the cursors stay beside each other.  A reader of a part
  that a parenthesis ends may find its pattern malformed at the end of the first text, where the
  second one takes the parenthesis that closes the group and goes on (`Spent`).  Most readers do
  not: they `Agree`.
* `Accord.bind_eq` and the lemmas on lexemes follow two readers along their parts.

At the end of the first text the second one goes on with `)` or a line feed.  No part of a pattern
asks for either of them first, so the readers of the parts agree there, too
(`Beside.lexeme?_ne_of_nil`).
-/

namespace UtilityCss.Pattern

/-- What closes the group that a pattern is put in: behind a pattern that may have comments, a line
feed first. -/
def closing (comments : Bool) : Text :=
  (if comments then ['\n'] else []) ++ [')', '$']

/-- What stands behind a pattern: nothing, or what closes its group, with or without comments. -/
def behind : Option Bool → Text
  | none => []
  | some comments => closing comments

namespace Reading

variable {α β γ δ : Type}

/-! ### Cursors beside each other -/

/-- The readers have learnt the same, but for the places of conditions; the flags are given. -/
structure Alike (F F' : Flags) (c c' : Cursor) : Prop where
  flags : c.flags = F
  flags' : c'.flags = F'
  widths : c'.widths = c.widths
  names : c'.names = c.names
  lookBehind : c'.lookBehind = c.lookBehind
  conditions : c'.conditions.map Prod.fst = c.conditions.map Prod.fst

/-- Where there are at most `n` characters left for the first reader, the same are left for the
second, and what stands behind the pattern there. -/
structure Beside (F F' : Flags) (w : Option Bool) (n : Nat) (c c' : Cursor) : Prop
    extends Alike F F' c c' where
  rest : c'.rest = c.rest ++ behind w
  whole : c.rest ≠ ['\\']
  length : c.rest.length ≤ n

/-- The readers give results of which a relation holds, and the cursors stay beside each other.
Where only the first reader fails, at the end of its text, `E` holds of what the second one comes
to. -/
def Accord (F F' : Flags) (w : Option Bool) (n : Nat) (R : α → β → Prop) (E : β → Cursor → Prop)
    (r : Reading α) (r' : Reading β) : Prop :=
  Joint False (Beside F F' w n) (fun a d b d' => R a b ∧ Beside F F' w n d d') E r r'

/-- The readers give results of which a relation holds, and the cursors stay beside each other.
They fail together. -/
def Agree (F F' : Flags) (w : Option Bool) (n : Nat) (R : α → β → Prop) (r : Reading α)
    (r' : Reading β) : Prop :=
  Accord F F' w n R (fun _ _ => False) r r'

/-- The second reader is behind the end of the first text. -/
def Beyond (c : Cursor) : Prop :=
  c.rest <:+ closing true

/-- The second reader has taken the parenthesis that closes the group. -/
def Spent (c : Cursor) : Prop :=
  c.rest <:+ ['$']

variable {F F' : Flags} {w : Option Bool} {m n : Nat} {c c' d d' : Cursor}

/-- The readers have learnt something, and the same is left for them. -/
theorem Beside.learn (h : Beside F F' w n c c') (hd : Alike F F' d d') (hrest : d.rest = c.rest)
    (hrest' : d'.rest = c'.rest) : Beside F F' w n d d' :=
  ⟨hd, by rw [hrest, hrest', h.rest], by rw [hrest]; exact h.whole,
    by rw [hrest]; exact h.length⟩

theorem Beside.mono (h : Beside F F' w m c c') (hle : m ≤ n) : Beside F F' w n c c' :=
  ⟨h.toAlike, h.rest, h.whole, Nat.le_trans h.length hle⟩

theorem Beside.of_nil (h : Beside F F' w n c c') (hnil : c.rest = []) : Beside F F' w 0 c c' :=
  ⟨h.toAlike, h.rest, h.whole, Nat.le_of_eq (congrArg List.length hnil)⟩

theorem Beside.length_le (h : Beside F F' w n c c') : c.rest.length ≤ c'.rest.length := by
  rw [h.rest, List.length_append]
  exact Nat.le_add_right _ _

/-- At the end of the first text the second one has ended, too, or goes on with a closing
parenthesis or a line feed. -/
theorem Beside.lexeme?_of_nil (h : Beside F F' w n c c') (hnil : c.rest = []) :
    lexeme? c'.rest = none ∨ lexeme? c'.rest = some (.plain ')') ∨
      lexeme? c'.rest = some (.plain '\n') := by
  rw [h.rest, hnil]
  rcases w with - | - | -
  · exact .inl rfl
  · exact .inr (.inl rfl)
  · exact .inr (.inr rfl)

/-- At the end of the first text no other character comes next. -/
theorem Beside.lexeme?_ne_of_nil (h : Beside F F' w n c c') (hnil : c.rest = []) {ch : Char}
    (hclose : ch ≠ ')') (hfeed : ch ≠ '\n') : lexeme? c'.rest ≠ some (.plain ch) := by
  rcases h.lexeme?_of_nil hnil with hl | hl | hl <;> rw [hl]
  · nofun
  · simpa using hclose.symm
  · simpa using hfeed.symm

theorem Beside.lexeme?_of_some (h : Beside F F' w n c c') {l : Lexeme}
    (hl : lexeme? c.rest = some l) : lexeme? c'.rest = some l := by
  rw [h.rest]
  exact (lexeme?_eq_some hl h.whole).2 _

/-- Both cursors may take the lexeme that comes next. -/
theorem Beside.advance (h : Beside F F' w n c c') {l : Lexeme} (hl : lexeme? c.rest = some l)
    (hwhole : c.rest.drop l.text.length ≠ ['\\']) :
    ∃ m, n = m + 1 ∧ Beside F F' w m { c with rest := c.rest.drop l.text.length }
      { c' with rest := c'.rest.drop l.text.length } := by
  obtain ⟨hsplit, -⟩ := lexeme?_eq_some hl h.whole
  have hpositive : 0 < l.text.length := by cases l <;> exact Nat.succ_pos _
  have hlength := congrArg List.length hsplit
  rw [List.length_append] at hlength
  have hle := h.length
  obtain ⟨m, rfl⟩ : ∃ m, n = m + 1 := Nat.exists_eq_add_one.2 (by omega)
  refine ⟨m, rfl, ⟨h.flags, h.flags', h.widths, h.names, h.lookBehind, h.conditions⟩, ?_, hwhole,
    ?_⟩
  · change c'.rest.drop l.text.length = _
    rw [h.rest, List.drop_append_of_le_length (by omega)]
  · change (c.rest.drop l.text.length).length ≤ m
    omega

/-- The second reader does not stop in front of a backslash on its own, either. -/
theorem Beside.whole' (h : Beside F F' w n c c') : c'.rest ≠ ['\\'] := by
  rw [h.rest]
  intro heq
  rcases List.append_eq_singleton_iff.1 heq with ⟨-, hbehind⟩ | ⟨hrest, -⟩
  · rcases w with - | - | - <;> cases hbehind
  · exact h.whole hrest

theorem spent_of_eq (h : c.rest = ['$']) : Spent c :=
  ⟨[], h⟩

theorem Beyond.of_cons {ch : Char} {t : Text} (h : Beyond c) (hrest : c.rest = ch :: t) :
    ch :: t <:+ closing true := by
  rwa [Beyond, hrest] at h

theorem Spent.beyond (h : Spent c) : Beyond c :=
  h.trans (by decide)

theorem Still.spent {r : Reading α} (h : Still r) (hc : Spent c) :
    Lost (fun _ d => Spent d) (r.run c) :=
  (h c).imp fun _ d hd => by rwa [Spent, hd]

/-- The length of what is left will do as fuel for the second reader. -/
theorem Beside.lt_fuel (h : Beside F F' w n c c') :
    c.rest.length + (behind w).length < c'.rest.length + 1 := by
  rw [h.rest, List.length_append]
  exact Nat.lt_succ_self _

section Accord

variable {R : α → β → Prop} {S : γ → δ → Prop} {E : β → Cursor → Prop} {E' : δ → Cursor → Prop}
  {M : Run γ → Run δ → Prop} {r : Reading α} {r' : Reading β}

theorem accord_pure {a : α} {b : β} (h : R a b) : Accord F F' w n R E (pure a) (pure b) :=
  joint_pure fun _ _ hc => ⟨h, hc⟩

/-- After readers that agree, others go on from cursors that are beside each other. -/
theorem Agree.andThen [Lenient M] {f : α → Reading γ} {f' : β → Reading δ}
    (h : Agree F F' w n R r r') (hf : ∀ a b, R a b → Related (Beside F F' w n) M (f a) (f' b)) :
    Related (Beside F F' w n) M (r >>= f) (r' >>= f') :=
  Joint.bind h (fun a b _ _ hc => hf a b hc.1 hc.2) fun _ _ _ _ => False.elim

theorem Agree.bind_eq {r r' : Reading α} {f : α → Reading γ} {f' : α → Reading δ}
    (h : Agree F F' w n Eq r r') (hf : ∀ a, Accord F F' w n S E' (f a) (f' a)) :
    Accord F F' w n S E' (r >>= f) (r' >>= f') :=
  h.andThen fun a _ heq => heq ▸ hf a

/-- After readers that are in accord others are, if they can do with what the second reader has
when the first one has failed. -/
theorem Accord.bind_eq {r r' : Reading α} {E : α → Cursor → Prop} {f : α → Reading γ}
    {f' : α → Reading δ} (h : Accord F F' w n Eq E r r')
    (hf : ∀ a, Accord F F' w n S E' (f a) (f' a))
    (hlost : ∀ b d', E b d' → Lost E' ((f' b).run d')) :
    Accord F F' w n S E' (r >>= f) (r' >>= f') :=
  Joint.bind h (fun a _ _ _ hc => hc.1 ▸ hf a hc.2)
    fun _ hfault b d' hE => fates_of_lost (.refused hfault) (hlost b d' hE)

theorem Agree.map_eq {r r' : Reading α} (h : Agree F F' w n Eq r r') (f : α → γ) :
    Agree F F' w n Eq (f <$> r) (f <$> r') := by
  rw [← bind_pure_comp, ← bind_pure_comp]
  exact h.bind_eq fun a => accord_pure rfl

/-- A check that fails or goes on. -/
theorem accord_unless {p : Prop} [Decidable p] {r r' : Reading α} (hr : Refuses r)
    (hr' : Refuses r') {x : Reading γ} {x' : Reading δ} {f : α → Reading γ} {f' : α → Reading δ}
    (hx : Accord F F' w n S E' x x') :
    Accord F F' w n S E' (if p then r >>= f else x) (if p then r' >>= f' else x') :=
  related_ite (related_of_refuses (hr.bind_left f) (hr'.bind_left f')) hx

/-- One of two readers before the same rest. -/
theorem accord_ite_bind {p : Prop} [Decidable p] {r₁ r₂ r₁' r₂' : Reading α} {f : α → Reading γ}
    {f' : α → Reading δ} (h₁ : Agree F F' w n Eq r₁ r₁') (h₂ : Agree F F' w n Eq r₂ r₂')
    (hf : ∀ a, Accord F F' w n S E' (f a) (f' a)) :
    Accord F F' w n S E' (if p then r₁ >>= f else r₂ >>= f)
      (if p then r₁' >>= f' else r₂' >>= f') :=
  related_ite (h₁.bind_eq hf) (h₂.bind_eq hf)

/-- Readers that are in accord where fewer characters are left. -/
theorem Accord.lower (h : Accord F F' w m R E r r') (hle : m ≤ n) :
    Joint False (Beside F F' w m) (fun a d b d' => R a b ∧ Beside F F' w n d d') E r r' :=
  Joint.imp_results h fun _ _ _ _ hd => ⟨hd.1, hd.2.mono hle⟩

/-! ### Looking at the cursor -/

theorem Related.get_bind {f : Cursor → Reading γ} {f' : Cursor → Reading δ}
    (h : ∀ s s', Beside F F' w s.rest.length s s' → s.rest.length ≤ n →
      Related (Beside F F' w s.rest.length) M (f s) (f' s')) :
    Related (Beside F F' w n) M (get >>= f) (get >>= f') := by
  intro c c' hc
  have hexact : Beside F F' w c.rest.length c c' := ⟨hc.toAlike, hc.rest, hc.whole, Nat.le_refl _⟩
  exact h c c' hexact hc.length hexact

theorem Accord.get_bind {f : Cursor → Reading γ} {f' : Cursor → Reading δ}
    (h : ∀ s s', Beside F F' w s.rest.length s s' →
      Accord F F' w s.rest.length S E' (f s) (f' s')) :
    Accord F F' w n S E' (get >>= f) (get >>= f') :=
  Related.get_bind fun s s' hs hle => (h s s' hs).lower hle

theorem agree_modify {f f' : Cursor → Cursor}
    (h : ∀ c c', Beside F F' w n c c' → Beside F F' w n (f c) (f' c')) :
    Agree F F' w n Eq (modify f : Reading Unit) (modify f' : Reading Unit) :=
  fun c c' hc => .results ⟨rfl, h c c' hc⟩

theorem agree_set {s s' : Cursor} (h : Beside F F' w n s s') :
    Agree F F' w n Eq (set s : Reading PUnit) (set s' : Reading PUnit) :=
  fun _ _ _ => .results ⟨rfl, h⟩

/-! ### Lexemes -/

/-- Either nothing is left for the first reader or a lexeme comes next. -/
theorem Related.by_end {r : Reading γ} {r' : Reading δ}
    (hnil : Related (fun c c' => Beside F F' w n c c' ∧ c.rest = []) M r r')
    (hcons : ∀ l, Related (fun c c' => Beside F F' w n c c' ∧ lexeme? c.rest = some l) M r r') :
    Related (Beside F F' w n) M r r' := by
  intro c c' hc
  cases hl : lexeme? c.rest with
  | none => exact hnil ⟨hc, lexeme?_eq_none.1 hl⟩
  | some l => exact hcons l ⟨hc, hl⟩

theorem Related.peek_bind_some {l : Lexeme} {f : Option Lexeme → Reading γ}
    {f' : Option Lexeme → Reading δ}
    (h : Related (fun c c' => Beside F F' w n c c' ∧ lexeme? c.rest = some l) M (f (some l))
      (f' (some l))) :
    Related (fun c c' => Beside F F' w n c c' ∧ lexeme? c.rest = some l) M (peek >>= f)
      (peek >>= f') := by
  rintro c c' ⟨hc, hl⟩
  rw [run_peek_bind, run_peek_bind, hl, hc.lexeme?_of_some hl]
  exact h ⟨hc, hl⟩

/-- The lexeme that comes next is taken by both readers. -/
theorem Related.take_bind [Lenient M] (l : Lexeme) {f : Option Lexeme → Reading γ}
    {f' : Option Lexeme → Reading δ}
    (h : ∀ m, n = m + 1 → Related (Beside F F' w m) M (f (some l)) (f' (some l))) :
    Related (fun c c' => Beside F F' w n c c' ∧ lexeme? c.rest = some l) M (next >>= f)
      (next >>= f') := by
  rintro c c' ⟨hc, hl⟩
  by_cases hwhole : c.rest.drop l.text.length = ['\\']
  · rw [run_next_dangling hl hwhole]
    exact Lenient.dangling
  · obtain ⟨m, hm, hadvance⟩ := hc.advance hl hwhole
    rw [run_next_some hl hwhole, run_next_some (hc.lexeme?_of_some hl) hadvance.whole']
    exact h m hm hadvance

/-- A lexeme is taken, or the first text has ended. -/
theorem Related.next_bind [Lenient M] {f : Option Lexeme → Reading γ}
    {f' : Option Lexeme → Reading δ}
    (hnil : Related (fun c c' => Beside F F' w n c c' ∧ c.rest = []) M (f none) (next >>= f'))
    (hsome : ∀ l m, n = m + 1 → Related (Beside F F' w m) M (f (some l)) (f' (some l))) :
    Related (Beside F F' w n) M (next >>= f) (next >>= f') := by
  refine Related.by_end (fun c c' hc => ?_) fun l => Related.take_bind l (hsome l)
  rw [run_next_nil hc.2]
  exact hnil hc

/-- At the end of the first text, the second reader takes what closes the group, or has ended. -/
theorem Beside.of_next_nil (h : Beside F F' w n c c') (hnil : c.rest = [])
    {f' : Option Lexeme → Reading δ} {x : Run δ → Prop} (hnone : x ((f' none).run c'))
    (hclose : x ((f' (some (.plain ')'))).run { c' with rest := ['$'] }))
    (hfeed : x ((f' (some (.plain '\n'))).run { c' with rest := [')', '$'] })) :
    x ((next >>= f').run c') := by
  have hrest := h.rest
  rw [hnil, List.nil_append] at hrest
  rcases w with - | - | -
  · rwa [run_next_nil hrest]
  · rw [run_next_plain (by decide) hrest (by decide)]
    exact hclose
  · rw [run_next_plain (by decide) hrest (by decide)]
    exact hfeed

/-- A lexeme is taken that neither reader can do without, and that is not what closes the group. -/
theorem Accord.next_bind {f : Option Lexeme → Reading γ} {f' : Option Lexeme → Reading δ}
    (hnone : Refuses (f none)) (hnone' : Refuses (f' none))
    (hclose : Refuses (f' (some (.plain ')')))) (hfeed : Refuses (f' (some (.plain '\n'))))
    (hsome : ∀ l m, n = m + 1 → Accord F F' w m S E' (f (some l)) (f' (some l))) :
    Accord F F' w n S E' (next >>= f) (next >>= f') := by
  refine Related.next_bind (fun c c' hc => ?_) fun l m hm => (hsome l m hm).lower (by omega)
  exact fates_of_lost (hnone c) (.of_refused
    (hc.1.of_next_nil hc.2 (hnone' _) (hclose _) (hfeed _)))

/-- A character that does not close the group is taken by both readers or by none. -/
theorem Beside.accept_bind [Lenient M] (hc : Beside F F' w n c c') {ch : Char} (hclose : ch ≠ ')')
    (hfeed : ch ≠ '\n') {f : Bool → Reading γ} {f' : Bool → Reading δ}
    (htrue : ∀ m, n = m + 1 → Related (Beside F F' w m) M (f true) (f' true))
    (hfalse : M ((f false).run c) ((f' false).run c')) :
    M ((accept ch >>= f).run c) ((accept ch >>= f').run c') := by
  by_cases hl : lexeme? c.rest = some (.plain ch)
  · rw [run_accept_true hl, run_accept_true (hc.lexeme?_of_some hl)]
    exact Related.take_bind _ htrue ⟨hc, hl⟩
  · have hl' : lexeme? c'.rest ≠ some (.plain ch) := by
      cases h : lexeme? c.rest with
      | none => exact hc.lexeme?_ne_of_nil (lexeme?_eq_none.1 h) hclose hfeed
      | some l => rwa [hc.lexeme?_of_some h, ← h]
    rwa [run_accept_false hl, run_accept_false hl']

theorem Related.accept_bind [Lenient M] {ch : Char} (hclose : ch ≠ ')') (hfeed : ch ≠ '\n')
    {f : Bool → Reading γ} {f' : Bool → Reading δ}
    (htrue : ∀ m, n = m + 1 → Related (Beside F F' w m) M (f true) (f' true))
    (hfalse : Related (Beside F F' w n) M (f false) (f' false)) :
    Related (Beside F F' w n) M (accept ch >>= f) (accept ch >>= f') :=
  fun _ _ hc => hc.accept_bind hclose hfeed htrue (hfalse hc)

theorem Accord.accept_bind {ch : Char} (hclose : ch ≠ ')') (hfeed : ch ≠ '\n')
    {f : Bool → Reading γ} {f' : Bool → Reading δ}
    (htrue : ∀ m, n = m + 1 → Accord F F' w m S E' (f true) (f' true))
    (hfalse : Accord F F' w n S E' (f false) (f' false)) :
    Accord F F' w n S E' (accept ch >>= f) (accept ch >>= f') :=
  Related.accept_bind hclose hfeed (fun m hm => (htrue m hm).lower (by omega)) hfalse

/-- Whether a character comes next that does not close the group. -/
theorem Related.peek_bind {ch : Char} (hclose : ch ≠ ')') (hfeed : ch ≠ '\n')
    {x y : Reading γ} {x' y' : Reading δ} (hthen : Related (Beside F F' w n) M x x')
    (helse : Related (Beside F F' w n) M y y') :
    Related (Beside F F' w n) M (peek >>= fun l => if l == some (.plain ch) then x else y)
      (peek >>= fun l => if l == some (.plain ch) then x' else y') := by
  refine Related.by_end ?_ fun l => .peek_bind_some ?_
  · rintro c c' ⟨hc, hnil⟩
    rw [run_peek_bind, run_peek_bind, hnil, if_neg (by nofun),
      if_neg (by simpa using hc.lexeme?_ne_of_nil hnil hclose hfeed)]
    exact helse hc
  · split
    · exact hthen.imp (fun _ _ hc => hc.1) fun _ _ => id
    · exact helse.imp (fun _ _ hc => hc.1) fun _ _ => id

theorem agree_accept {ch : Char} (hclose : ch ≠ ')') (hfeed : ch ≠ '\n') :
    Agree F F' w n Eq (accept ch) (accept ch) := by
  rw [← bind_pure (accept ch)]
  exact Accord.accept_bind hclose hfeed (fun _ _ => accord_pure rfl) (accord_pure rfl)

end Accord

/-! ### Readers of the cursor -/

/-- Both readers may go back to where they were beside each other. -/
theorem agree_moveTo {s s' : Cursor} (h : Beside F F' w m s s') (hle : m ≤ n) :
    Agree F F' w n Eq (moveTo s.rest) (moveTo s'.rest) := by
  intro c c' hc
  have halike : Alike F F' { c with rest := s.rest } { c' with rest := s'.rest } :=
    ⟨hc.flags, hc.flags', hc.widths, hc.names, hc.lookBehind, hc.conditions⟩
  rw [run_moveTo h.whole, run_moveTo h.whole']
  exact .results ⟨rfl, (h.learn halike rfl rfl).mono hle⟩

/-- Nothing is taken where no character of the kind comes next. -/
theorem run_takeUpTo_stop {kind : Char → Bool}
    (hkind : ∀ ch, lexeme? c.rest = some (.plain ch) → kind ch = false) (k : Nat) :
    (takeUpTo kind k).run c = .ok ([], c) := by
  cases k with
  | zero => rfl
  | succ k =>
      rw [takeUpTo, run_peek_bind]
      split
      next ch hl =>
          rw [if_neg (by rw [hkind ch hl]; exact Bool.false_ne_true)]
          rfl
      next => rfl

section Kind

variable {kind : Char → Bool} (hclose : kind ')' = false) (hfeed : kind '\n' = false)

include hclose hfeed

/-- At the end of the first text no characters are taken. -/
theorem agree_takeUpTo_nil (k k' : Nat) :
    Agree F F' w 0 Eq (takeUpTo kind k) (takeUpTo kind k') := by
  intro c c' hc
  have hnil := List.eq_nil_of_length_eq_zero (Nat.le_zero.1 hc.length)
  have hstop : ∀ ch, lexeme? c'.rest = some (.plain ch) → kind ch = false := by
    intro ch hl
    rcases hc.lexeme?_of_nil hnil with hl' | hl' | hl' <;> cases hl.symm.trans hl'
    · exact hclose
    · exact hfeed
  rw [run_takeUpTo_stop (fun ch hl => by rw [hnil] at hl; cases hl), run_takeUpTo_stop hstop]
  exact .results ⟨rfl, hc⟩

/-- Characters of a kind that neither closes the group nor is a line feed, as many as are asked for
or as there are. -/
theorem agree_takeUpTo {k k' : Nat} (hk : k = k' ∨ n ≤ k ∧ n ≤ k') :
    Agree F F' w n Eq (takeUpTo kind k) (takeUpTo kind k') := by
  induction k generalizing k' n with
  | zero =>
      cases k' with
      | zero => exact accord_pure rfl
      | succ k' =>
          obtain rfl : n = 0 := by omega
          exact agree_takeUpTo_nil hclose hfeed _ _
  | succ k ih =>
      cases k' with
      | zero =>
          obtain rfl : n = 0 := by omega
          exact agree_takeUpTo_nil hclose hfeed _ _
      | succ k' =>
          refine Related.by_end ?_ fun l => ?_
          · exact Joint.imp (agree_takeUpTo_nil hclose hfeed _ _) (fun _ _ hc => hc.1.of_nil hc.2)
              (fun _ _ _ _ hd => ⟨hd.1, hd.2.mono (Nat.zero_le n)⟩) fun _ _ => id
          · rw [takeUpTo, takeUpTo]
            refine Related.peek_bind_some ?_
            cases l with
            | escaped ch => exact joint_pure fun _ _ hc => ⟨rfl, hc.1⟩
            | plain ch =>
                dsimp only
                refine related_ite ?_ (joint_pure fun _ _ hc => ⟨rfl, hc.1⟩)
                refine Related.take_bind _ fun m hm => Accord.lower ?_ (by omega : m ≤ n)
                exact (ih (by omega)).bind_eq fun t => accord_pure rfl

theorem agree_takeAll : Agree F F' w n Eq (takeAll kind) (takeAll kind) := by
  refine Accord.get_bind fun s s' hs => agree_takeUpTo hclose hfeed (.inr ⟨Nat.le_refl _, ?_⟩)
  exact hs.length_le

end Kind

/-! ### Names -/

/-- What comes next where the second reader is behind the end of the first text. -/
theorem of_suffix_closing {ch : Char} {t : Text} (h : ch :: t <:+ closing true) :
    ch ≠ '\\' ∧ t ≠ ['\\'] ∧ t <:+ closing true ∧ (ch = ')' → t = ['$']) ∧
      (ch = '\n' ∨ ch = ')' ∨ ch = '$') := by
  have hcases : ch :: t = ['\n', ')', '$'] ∨ ch :: t = [')', '$'] ∨ ch :: t = ['$'] := by
    simpa [closing, List.suffix_cons_iff] using h
  have htail : t <:+ closing true := (List.suffix_cons ch t).trans h
  rcases hcases with heq | heq | heq <;> cases heq <;> simp [htail]

theorem ne_of_suffix_closing {ch x : Char} (hx : x ∉ closing true) {t : Text}
    (h : ch :: t <:+ closing true) : ch ≠ x := by
  rintro rfl
  exact hx (h.subset List.mem_cons_self)

theorem lexeme?_ne_of_suffix {ch : Char} (hch : ch ∉ closing true) {t : Text}
    (ht : t <:+ closing true) : lexeme? t ≠ some (.plain ch) := by
  intro hl
  cases t with
  | nil => cases hl
  | cons x t =>
      rw [lexeme?_cons (of_suffix_closing ht).1] at hl
      exact ne_of_suffix_closing hch ht (by simpa using hl)

theorem Beside.beyond (h : Beside F F' w n c c') (hnil : c.rest = []) : Beyond c' := by
  rw [Beyond, h.rest, hnil, List.nil_append]
  rcases w with - | - | -
  · exact List.nil_suffix
  · exact List.suffix_cons _ _
  · exact List.suffix_refl _

/-- Behind the end of the first text, only the parenthesis that closes the group ends a name. -/
theorem lost_takeUntil {terminator : Char} (hfeed : terminator ≠ '\n') (hfinish : terminator ≠ '$')
    (what : String) {t : Text} (ht : t <:+ closing true) (hrest : c.rest = t) {k : Nat}
    (hk : t.length < k) (taken : Text) :
    Lost (fun _ d => terminator = ')' ∧ Spent d)
      ((takeUntil terminator what k taken).run c) := by
  obtain ⟨k, rfl⟩ := Nat.exists_eq_add_one.2 (Nat.zero_lt_of_lt hk)
  induction t generalizing k taken c with
  | nil =>
      rw [takeUntil, run_next_nil hrest]
      dsimp only
      split <;> exact .of_refused (refuses_failBack _ _ _)
  | cons ch t ih =>
      obtain ⟨hch, hwhole, ht', hclose, hany⟩ := of_suffix_closing ht
      rw [takeUntil, run_next_plain hch hrest hwhole]
      dsimp only
      split
      next hterm =>
          split
          · exact .of_refused (refuses_failBack _ _ _)
          · obtain rfl : ch = terminator := by simpa using hterm
            have hparen : ch = ')' := (hany.resolve_left hfeed).resolve_right hfinish
            exact lost_pure ⟨hparen, spent_of_eq (hclose hparen)⟩
      next =>
          obtain ⟨k, rfl⟩ := Nat.exists_eq_add_one.2 (Nat.zero_lt_of_lt (Nat.lt_of_succ_lt_succ hk))
          exact ih ht' rfl _ _ (Nat.lt_of_succ_lt_succ hk)

/-- A name with its terminator. -/
theorem accord_takeUntil {terminator : Char} (hfeed : terminator ≠ '\n')
    (hfinish : terminator ≠ '$') (what : String) {k k' : Nat} (hk : n < k)
    (hk' : n + (behind w).length < k') (taken : Text) :
    Accord F F' w n Eq (fun _ d => terminator = ')' ∧ Spent d) (takeUntil terminator what k taken)
      (takeUntil terminator what k' taken) := by
  induction k generalizing k' n taken with
  | zero => omega
  | succ k ih =>
      refine Related.by_end (fun c c' hc => ?_) fun l => ?_
      · refine fates_of_lost ?_ (lost_takeUntil hfeed hfinish what (hc.1.beyond hc.2) rfl
          ?_ taken)
        · rw [takeUntil, run_next_nil hc.2]
          dsimp only
          split <;> exact refuses_failBack _ _ _
        · rw [hc.1.rest, hc.2, List.nil_append]
          omega
      · obtain ⟨k', rfl⟩ := Nat.exists_eq_add_one.2 (Nat.zero_lt_of_lt hk')
        rw [takeUntil, takeUntil]
        refine Related.take_bind l fun m hm => Accord.lower ?_ (by omega : m ≤ n)
        dsimp only
        refine related_ite (related_ite (related_failBack _ _ _ _) (accord_pure rfl)) ?_
        exact ih (by omega) (by omega) _

theorem accord_name {terminator : Char} (hfeed : terminator ≠ '\n') (hfinish : terminator ≠ '$')
    (what : String) :
    Accord F F' w n Eq (fun _ d => terminator = ')' ∧ Spent d) (name terminator what)
      (name terminator what) :=
  .get_bind fun _ _ hs => accord_takeUntil hfeed hfinish _ (Nat.lt_succ_self _) hs.lt_fuel _

theorem agree_name {terminator : Char} (hfeed : terminator ≠ '\n') (hfinish : terminator ≠ '$')
    (hclose : terminator ≠ ')') (what : String) :
    Agree F F' w n Eq (name terminator what) (name terminator what) :=
  Joint.imp (accord_name hfeed hfinish what) (fun _ _ => id) (fun _ _ _ _ => id)
    fun _ _ h => hclose h.1

/-! ### Groups -/

theorem agree_groups : Agree F F' w n Eq groups groups :=
  Accord.get_bind fun _ _ hs => accord_pure (by rw [hs.widths])

theorem agree_width? (group : Nat) : Agree F F' w n Eq (width? group) (width? group) :=
  Accord.get_bind fun _ _ hs => accord_pure (by rw [hs.widths])

theorem agree_checkLookBehind (group : Nat) :
    Agree F F' w n Eq (checkLookBehind group) (checkLookBehind group) := by
  rw [checkLookBehind]
  refine Accord.get_bind fun s s' hs => ?_
  rw [hs.lookBehind]
  cases s.lookBehind with
  | none => exact accord_pure rfl
  | some first =>
      refine (agree_width? group).bind_eq fun width => ?_
      refine related_ite (related_failBack _ _ _ _) ?_
      exact related_ite (related_failBack _ _ _ _) (accord_pure rfl)

theorem agree_openGroup (name : Option Text) :
    Agree F F' w n Eq (openGroup name) (openGroup name) := by
  rw [openGroup]
  refine Accord.get_bind fun s s' hs => ?_
  have hopened : ∀ names, Beside F F' w s.rest.length
      { s with widths := s.widths.push none, names := names }
      { s' with widths := s.widths.push none, names := names } := fun _ =>
    hs.learn ⟨hs.flags, hs.flags', rfl, rfl, hs.lookBehind, hs.conditions⟩ rfl rfl
  rw [hs.widths, hs.names]
  cases name with
  | none => exact (agree_set (hopened _)).bind_eq fun _ => accord_pure rfl
  | some name =>
      dsimp only
      split
      · exact related_failBack _ _ _ _
      · exact (agree_set (hopened _)).bind_eq fun _ => accord_pure rfl

theorem agree_closeGroup (number : Nat) (body : List Item) :
    Agree F F' w n Eq (closeGroup number body) (closeGroup number body) :=
  agree_modify fun c c' hc => hc.learn
    ⟨hc.flags, hc.flags', by rw [hc.widths], hc.names, hc.lookBehind, hc.conditions⟩ rfl rfl

end Reading

end UtilityCss.Pattern

import UtilityCss.Proofs.Pattern.Runs

/-!
# Patterns — readers in pairs

Two readers are compared by what their runs come to from cursors that belong together.

* `Related`: some relation holds of the two runs.
* `Paired`: where both readers give a result, a relation holds of the results.
* `Joint`: faults are compared, too (`Fates`).  Where both readers fail, they agree whether the
  pattern is malformed.  The first one may find its pattern malformed where the second one goes on,
  and then something is known of where it is.

The second reader will have something behind the pattern of the first one, and two faults excuse
everything that the other reader does: a backslash at the end of the first pattern, which would
escape what stands behind it, and flags that come too late for the second reader.  There may be such
flags only where the proposition `L` holds.

`Joint.bind` follows two readers along their parts.  Once the first one has failed, the second one
is followed alone: `Lost` says that it finds the pattern malformed, too, or where it is.
-/

namespace UtilityCss.Pattern

/-- The fault is that of a malformed pattern. -/
def Fault.Malformed (fault : Fault) : Prop :=
  ∃ problem position, fault = .malformed problem position

theorem Fault.malformed_malformed (problem : Problem) (position : Option Nat) :
    (Fault.malformed problem position).Malformed :=
  ⟨problem, position, rfl⟩

namespace Reading

/-- What a reader comes to: a result and the cursor that is left, or a fault. -/
abbrev Run (α : Type) :=
  Except Fault (α × Cursor)

variable {α β γ δ : Type}

/-! ### Relations of runs -/

/-- From cursors of which one relation holds, another one holds of the runs. -/
def Related (P : Cursor → Cursor → Prop) (M : Run α → Run β → Prop) (r : Reading α)
    (r' : Reading β) : Prop :=
  ∀ ⦃c c'⦄, P c c' → M (r.run c) (r'.run c')

/-- A relation holds of the results and the cursors that are left, if both runs give a result. -/
def Both (Q : α → Cursor → β → Cursor → Prop) (x : Run α) (y : Run β) : Prop :=
  ∀ ⦃a d b d'⦄, x = .ok (a, d) → y = .ok (b, d') → Q a d b d'

/-- If both readers give a result on cursors of which one relation holds, another one holds of the
results and the cursors that are left. -/
def Paired (P : Cursor → Cursor → Prop) (Q : α → Cursor → β → Cursor → Prop) (r : Reading α)
    (r' : Reading β) : Prop :=
  Related P (Both Q) r r'

/-- Two runs go the same way: both give a result or both fail.  Where only the first one fails,
since its pattern is malformed, `E` holds of what the second one comes to. -/
inductive Fates (L : Prop) (Q : α → Cursor → β → Cursor → Prop) (E : β → Cursor → Prop) :
    Run α → Run β → Prop
  | results {a : α} {b : β} {d d' : Cursor} (h : Q a d b d') :
      Fates L Q E (.ok (a, d)) (.ok (b, d'))
  | faults {f f' : Fault} (h : f.Malformed ↔ f'.Malformed) : Fates L Q E (.error f) (.error f')
  | overrun {f : Fault} {b : β} {d' : Cursor} (hf : f.Malformed) (h : E b d') :
      Fates L Q E (.error f) (.ok (b, d'))
  | dangling {position : Option Nat} {y : Run β} :
      Fates L Q E (.error (.malformed .danglingEscape position)) y
  | late {x : Run α} {position : Option Nat} (h : L) :
      Fates L Q E x (.error (.malformed .lateFlags position))

/-- The readers go the same way from cursors of which a relation holds. -/
def Joint (L : Prop) (P : Cursor → Cursor → Prop) (Q : α → Cursor → β → Cursor → Prop)
    (E : β → Cursor → Prop) (r : Reading α) (r' : Reading β) : Prop :=
  Related P (Fates L Q E) r r'

/-- A relation of runs that says nothing where two readers fail alike, or where a backslash at the
end excuses what the second one does. -/
class Lenient (M : Run α → Run β → Prop) : Prop where
  faults : ∀ {f f' : Fault}, (f.Malformed ↔ f'.Malformed) → M (.error f) (.error f')
  dangling : ∀ {position : Option Nat} {y : Run β},
    M (.error (.malformed .danglingEscape position)) y

/-- A relation of runs that, if `L` holds, says nothing where flags come too late for the second
reader. -/
class Excuses (L : Prop) (M : Run α → Run β → Prop) : Prop where
  late : L → ∀ {x : Run α} {position : Option Nat}, M x (.error (.malformed .lateFlags position))

instance (M : Run α → Run β → Prop) : Excuses False M :=
  ⟨False.elim⟩

section Instances

variable (L : Prop) (Q : α → Cursor → β → Cursor → Prop) (E : β → Cursor → Prop)

instance : Lenient (Both Q) where
  faults := by
    intro _ _ _ a d b d' hx
    cases hx
  dangling := by
    intro _ _ a d b d' hx
    cases hx

instance : Excuses L (Both Q) where
  late := by
    intro _ _ _ a d b d' _ hy
    cases hy

instance : Lenient (Fates L Q E) where
  faults := .faults
  dangling := .dangling

instance : Excuses L (Fates L Q E) where
  late h := .late h

end Instances

/-! ### A reader that is followed alone -/

/-- The pattern is malformed, or `E` holds of what the run gives. -/
inductive Lost (E : α → Cursor → Prop) : Run α → Prop
  | result {a : α} {d : Cursor} (h : E a d) : Lost E (.ok (a, d))
  | refused {f : Fault} (h : f.Malformed) : Lost E (.error f)

/-- The pattern is malformed. -/
abbrev Refused (x : Run α) : Prop :=
  Lost (fun _ _ => False) x

/-- The reader finds the pattern malformed, wherever it is. -/
def Refuses (r : Reading α) : Prop :=
  ∀ c, Refused (r.run c)

section Lost

variable {E : α → Cursor → Prop} {E' : β → Cursor → Prop} {c : Cursor} {x : Run α}

/-- What holds of a value and the cursor holds of the run that reads nothing. -/
theorem lost_pure {a : α} (h : E a c) : Lost E ((pure a : Reading α).run c) :=
  .result h

theorem Lost.imp {E' : α → Cursor → Prop} (h : Lost E x) (hE : ∀ a d, E a d → E' a d) :
    Lost E' x := by
  cases h with
  | result h => exact .result (hE _ _ h)
  | refused h => exact .refused h

/-- What is said of a run that may be refused holds of its result. -/
theorem Lost.of_ok {a : α} {d : Cursor} (h : Lost E (.ok (a, d))) : E a d := by
  cases h with
  | result h => exact h

theorem Lost.of_refused (h : Refused x) : Lost E x :=
  h.imp fun _ _ => False.elim

/-- A refused run fails, and with the fault of a malformed pattern. -/
theorem Refused.exists_error (h : Refused x) : ∃ f : Fault, f.Malformed ∧ x = .error f := by
  cases h with
  | result h => exact h.elim
  | refused h => exact ⟨_, h, rfl⟩

/-- A reader is followed by another one from every place where it may leave off. -/
theorem Lost.bind {r : Reading α} {f : α → Reading β} (h : Lost E (r.run c))
    (hf : ∀ a d, E a d → Lost E' ((f a).run d)) : Lost E' ((r >>= f).run c) := by
  cases hr : r.run c with
  | ok out =>
      rw [hr] at h
      cases h with
      | result h =>
          rw [run_bind_ok hr]
          exact hf _ _ h
  | error fault =>
      rw [hr] at h
      cases h with
      | refused h =>
          rw [run_bind_error hr]
          exact .refused h

theorem Refused.bind {r : Reading α} {f : α → Reading β} (h : Refused (r.run c)) :
    Refused ((r >>= f).run c) :=
  Lost.bind h fun _ _ => False.elim

/-- Nothing is read behind a reader that refuses every pattern. -/
theorem Refuses.bind_left {r : Reading α} (h : Refuses r) (f : α → Reading β) :
    Refuses (r >>= f) :=
  fun c => (h c).bind

theorem refuses_failAt (problem : Problem) (position : Nat) :
    Refuses (failAt problem position : Reading α) :=
  fun _ => .refused (Fault.malformed_malformed _ _)

theorem refuses_failBack (problem : Problem) (back : Nat) :
    Refuses (failBack problem back : Reading α) := by
  intro c
  rw [failBack, run_here_bind]
  exact refuses_failAt _ _ _

/-- A reader that refuses every pattern gives no result, so anything may be said of it. -/
theorem Refuses.lost {r : Reading α} (h : Refuses r) : Lost E (r.run c) :=
  (h c).of_refused

end Lost

/-- The reader takes nothing, unless it finds the pattern malformed. -/
def Still (r : Reading α) : Prop :=
  ∀ c, Lost (fun _ d => d.rest = c.rest) (r.run c)

section Still

theorem still_pure (a : α) : Still (pure a) :=
  fun _ => lost_pure rfl

/-- A reader that never gives a result moves no cursor. -/
theorem Refuses.still {r : Reading α} (h : Refuses r) : Still r :=
  fun _ => h.lost

/-- Readers that leave the cursor where it is do so one after the other. -/
theorem Still.bind {r : Reading α} {f : α → Reading β} (h : Still r) (hf : ∀ a, Still (f a)) :
    Still (r >>= f) :=
  fun c => (h c).bind fun a d hd => (hf a d).imp fun _ _ he => he.trans hd

theorem still_ite {p : Prop} [Decidable p] {r s : Reading α} (hthen : Still r) (helse : Still s) :
    Still (if p then r else s) := by
  split
  · exact hthen
  · exact helse

theorem Still.get_bind {f : Cursor → Reading α} (h : ∀ s, Still (f s)) : Still (get >>= f) :=
  fun c => h c c

theorem still_modify {f : Cursor → Cursor} (h : ∀ c, (f c).rest = c.rest) :
    Still (modify f : Reading Unit) :=
  fun c => .result (h c)

/-- The check of a reference inside a look-behind reads nothing. -/
theorem still_checkLookBehind (group : Nat) : Still (checkLookBehind group) := by
  refine .get_bind fun s => ?_
  cases s.lookBehind with
  | none => exact still_pure _
  | some first =>
      refine .get_bind fun _ => still_ite (refuses_failBack _ _).still ?_
      exact still_ite (refuses_failBack _ _).still (still_pure _)

end Still

/-! ### Readers that are related -/

section Related

variable {P P' : Cursor → Cursor → Prop} {M M' : Run α → Run β → Prop} {r : Reading α}
  {r' : Reading β}

theorem Related.imp (h : Related P M r r') (hP : ∀ c c', P' c c' → P c c')
    (hM : ∀ x y, M x y → M' x y) : Related P' M' r r' :=
  fun c c' hc => hM _ _ (h (hP c c' hc))

theorem related_ite {p : Prop} [Decidable p] {s : Reading α} {s' : Reading β}
    (hthen : Related P M r r') (helse : Related P M s s') :
    Related P M (if p then r else s) (if p then r' else s') := by
  split
  · exact hthen
  · exact helse

/-- Places need not be the same. -/
theorem Related.here_bind {f : Nat → Reading α} {f' : Nat → Reading β}
    (h : ∀ position position', Related P M (f position) (f' position')) :
    Related P M (here >>= f) (here >>= f') := by
  intro c c' hc
  rw [run_here_bind, run_here_bind]
  exact h _ _ hc

/-- Faults are alike for a lenient relation if both or neither report a malformed pattern. -/
theorem related_throw [Lenient M] {f f' : Fault} (h : f.Malformed ↔ f'.Malformed) :
    Related P M (throw f) (throw f') :=
  fun _ _ _ => Lenient.faults h

theorem related_throw_bind [Lenient M] {f f' : Fault} (h : f.Malformed ↔ f'.Malformed)
    (g : γ → Reading α) (g' : δ → Reading β) :
    Related P M ((throw f : Reading γ) >>= g) ((throw f' : Reading δ) >>= g') :=
  fun _ _ _ => Lenient.faults h

/-- Both runs find the pattern malformed. -/
theorem Lenient.of_refused [Lenient M] {x : Run α} {y : Run β} (h : Refused x) (h' : Refused y) :
    M x y := by
  obtain ⟨f, hf, rfl⟩ := h.exists_error
  obtain ⟨f', hf', rfl⟩ := h'.exists_error
  exact Lenient.faults ⟨fun _ => hf', fun _ => hf⟩

/-- Two readers that refuse every pattern are related by every lenient relation. -/
theorem related_of_refuses [Lenient M] (h : Refuses r) (h' : Refuses r') : Related P M r r' :=
  fun c c' _ => Lenient.of_refused (h c) (h' c')

theorem related_failAt [Lenient M] (problem problem' : Problem) (position position' : Nat) :
    Related P M (failAt problem position) (failAt problem' position') :=
  related_of_refuses (refuses_failAt _ _) (refuses_failAt _ _)

theorem related_failBack [Lenient M] (problem problem' : Problem) (back back' : Nat) :
    Related P M (failBack problem back) (failBack problem' back') :=
  related_of_refuses (refuses_failBack _ _) (refuses_failBack _ _)

end Related

section Paired

variable {P P' : Cursor → Cursor → Prop} {Q : α → Cursor → β → Cursor → Prop}
  {S : γ → Cursor → δ → Cursor → Prop} {r : Reading α} {r' : Reading β}

/-- There is nothing to compare where the first reader gives no result. -/
theorem paired_of_fails (h : Fails r) : Paired P Q r r' :=
  fun c _ _ a d _ _ hrun _ => absurd hrun (h c (a, d))

theorem paired_pure {a : α} {b : β} (h : ∀ c c', P c c' → Q a c b c') :
    Paired P Q (pure a) (pure b) := by
  intro c c' hc a d b d' hrun hrun'
  obtain ⟨rfl, rfl⟩ := run_pure_eq_ok.1 hrun
  obtain ⟨rfl, rfl⟩ := run_pure_eq_ok.1 hrun'
  exact h _ _ hc

/-- What holds of the results of two readers is what the readers behind them start from. -/
theorem Paired.bind {f : α → Reading γ} {f' : β → Reading δ} (h : Paired P Q r r')
    (hf : ∀ a b, Paired (fun c c' => Q a c b c') S (f a) (f' b)) :
    Paired P S (r >>= f) (r' >>= f') := by
  intro c c' hc x d y d' hrun hrun'
  obtain ⟨a, e, hfirst, hnext⟩ := run_bind_eq_ok.1 hrun
  obtain ⟨b, e', hfirst', hnext'⟩ := run_bind_eq_ok.1 hrun'
  exact hf a b (h hc hfirst hfirst') hnext hnext'

end Paired

section Joint

variable {L : Prop} {P P' : Cursor → Cursor → Prop} {Q : α → Cursor → β → Cursor → Prop}
  {E : β → Cursor → Prop} {M : Run γ → Run δ → Prop} {r : Reading α} {r' : Reading β}

theorem Fates.imp {Q' : α → Cursor → β → Cursor → Prop} {E' : β → Cursor → Prop} {x : Run α}
    {y : Run β} (h : Fates L Q E x y) (hQ : ∀ a d b d', Q a d b d' → Q' a d b d')
    (hE : ∀ b d', E b d' → E' b d') : Fates L Q' E' x y := by
  cases h with
  | results h => exact .results (hQ _ _ _ _ h)
  | faults h => exact .faults h
  | overrun hf h => exact .overrun hf (hE _ _ h)
  | dangling => exact .dangling
  | late h => exact .late h

/-- Where the first run is refused, it is enough that the second one is lost. -/
theorem fates_of_lost {x : Run α} {y : Run β} (h : Refused x) (h' : Lost E y) :
    Fates L Q E x y := by
  obtain ⟨f, hf, rfl⟩ := h.exists_error
  cases h' with
  | result h => exact .overrun hf h
  | refused hf' => exact .faults ⟨fun _ => hf', fun _ => hf⟩

theorem Joint.imp {Q' : α → Cursor → β → Cursor → Prop} {E' : β → Cursor → Prop}
    (h : Joint L P Q E r r') (hP : ∀ c c', P' c c' → P c c')
    (hQ : ∀ a d b d', Q a d b d' → Q' a d b d') (hE : ∀ b d', E b d' → E' b d') :
    Joint L P' Q' E' r r' :=
  Related.imp h hP fun _ _ hxy => hxy.imp hQ hE

/-- What is known of the results of two readers may be weakened alone. -/
theorem Joint.imp_results {Q' : α → Cursor → β → Cursor → Prop} (h : Joint L P Q E r r')
    (hQ : ∀ a d b d', Q a d b d' → Q' a d b d') : Joint L P Q' E r r' :=
  h.imp (fun _ _ => id) hQ fun _ _ => id

/-- Readers that go the same way are related where both give a result. -/
theorem Joint.paired (h : Joint L P Q E r r') : Paired P Q r r' := by
  intro c c' hc a d b d' hrun hrun'
  have hfates := h hc
  rw [hrun, hrun'] at hfates
  cases hfates with
  | results h => exact h

/-- Two readers that read nothing go the same way. -/
theorem joint_pure {a : α} {b : β} (h : ∀ c c', P c c' → Q a c b c') :
    Joint L P Q E (pure a) (pure b) :=
  fun _ _ hc => .results (h _ _ hc)

/-- Readers that go the same way are followed along their parts, and the second one alone where
the first one has failed. -/
theorem Joint.bind [Lenient M] [Excuses L M] {f : α → Reading γ} {f' : β → Reading δ}
    (h : Joint L P Q E r r')
    (hf : ∀ a b, Related (fun c c' => Q a c b c') M (f a) (f' b))
    (hlost : ∀ ⦃fault : Fault⦄, fault.Malformed → ∀ b d', E b d' →
      M (.error fault) ((f' b).run d')) :
    Related P M (r >>= f) (r' >>= f') := by
  intro c c' hc
  have hfates := h hc
  rw [StateT.run_bind, StateT.run_bind]
  generalize r.run c = x at hfates
  generalize r'.run c' = y at hfates
  cases hfates with
  | results h => exact hf _ _ h
  | faults h => exact Lenient.faults h
  | overrun hfault h => exact hlost hfault _ _ h
  | dangling => exact Lenient.dangling
  | late h => exact Excuses.late h

end Joint

end Reading

end UtilityCss.Pattern

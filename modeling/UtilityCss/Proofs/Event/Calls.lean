import UtilityCss.Event.Bus

/-!
# Events — the calls of listeners

Who is called when an event is sent: listeners put themselves down before they are called (`calls`).
What a listener does to the state does not depend on the note, so `calls` says who would be called
by `emit`.

* `emit_eq_callAll`: listeners that leave the bus alone are called as they stood at the start.
* `calls_spec`: they are called one after the other, up to one that fails.
* `called_eq_recipients`: listeners that do nothing at all are all called.
-/

namespace UtilityCss.Event.Bus

variable {ι κ α σ ε : Type}

/-- Listeners that put themselves down before they are called. -/
def noted (call : ι → α → σ → Option ε × σ) (listener : ι) (event : α) (s : σ × List ι) :
    Option ε × (σ × List ι) :=
  let (failure, after) := call listener event s.1
  (failure, (after, s.2 ++ [listener]))

theorem callAll_concat (call : ι → σ → Option ε × σ) (ls ms : List ι) (s : σ) :
    callAll call (ls ++ ms) s =
      match callAll call ls s with
      | (none, s) => callAll call ms s
      | failed => failed := by
  induction ls generalizing s with
  | nil => rfl
  | cons l ls ih =>
      rw [List.cons_append, callAll, callAll]
      split
      next => exact ih _
      next hfailed =>
          split
          next after hcall => exact absurd hcall (hfailed after)
          next => rfl

/-- Listeners that put themselves down do what they do otherwise.  They are called one after the
other, up to one that fails. -/
theorem callAll_noted (call : ι → σ → Option ε × σ) (event : α) (ls log : List ι) (s : σ) :
    ∃ called, callAll (noted (fun l _ => call l) · event) ls (s, log) =
        ((callAll call ls s).1, (callAll call ls s).2, log ++ called) ∧
      called <+: ls ∧ ((callAll call ls s).1 = none → called = ls) ∧ (called = [] → ls = []) := by
  induction ls generalizing s log with
  | nil => exact ⟨[], by simp [callAll], List.nil_prefix, fun _ => rfl, fun _ => rfl⟩
  | cons l ls ih =>
      cases hcall : call l s with
      | mk failure after =>
          cases failure with
          | none =>
              obtain ⟨called, heq, hstart, hall, -⟩ := ih (log ++ [l]) after
              refine ⟨l :: called, ?_, List.cons_prefix_cons.2 ⟨rfl, hstart⟩, ?_, by simp⟩
              · simp [callAll, noted, hcall, heq]
              · simpa [callAll, hcall] using hall
          | some e =>
              refine ⟨[l], ?_, by simp, ?_, by simp⟩
              · simp [callAll, noted, hcall]
              · simp [callAll, hcall]

theorem callAll_of_quiet (ls : List ι) (s : σ) :
    callAll (fun _ s => ((none : Option ε), s)) ls s = (none, s) := by
  induction ls with
  | nil => rfl
  | cons l ls ih => exact ih

variable {bus : σ → Bus ι κ} {call : ι → α → σ → Option ε × σ} {event : α}

theorem bus_callAll (hkeeps : ∀ l s, bus (call l event s).2 = bus s) (ls : List ι) (s : σ) :
    bus (callAll (call · event) ls s).2 = bus s := by
  induction ls generalizing s with
  | nil => rfl
  | cons l ls ih =>
      rw [callAll]
      split
      next after hcall => rw [ih, ← hkeeps l s, hcall]
      next => exact hkeeps l s

variable [DecidableEq κ] [Kinded α κ]

/-- The listeners that are called when an event is sent, in the order of the calls. -/
def calls (bus : σ → Bus ι κ) (call : ι → α → σ → Option ε × σ) (event : α) (s : σ) : List ι :=
  (emit (fun s : σ × List ι => bus s.1) (noted call) event (s, [])).2.2

/-- The listeners that are called when an event is sent and nothing comes of the calls. -/
def called (b : Bus ι κ) (event : α) : List ι :=
  calls id (fun _ _ b => ((none : Option Empty), b)) event b

/-- Listeners that leave the bus alone are called as they stood at the start. -/
theorem emit_eq_callAll (hkeeps : ∀ l s, bus (call l event s).2 = bus s) (s : σ) :
    emit bus call event s =
      callAll (call · event) ((bus s).recipients (Kinded.kindOf event)) s := by
  have hbus := bus_callAll hkeeps (bus s).general s
  rw [emit, recipients, callAll_concat]
  cases hfirst : callAll (call · event) (bus s).general s with
  | mk failure after =>
      rw [hfirst] at hbus
      cases failure with
      | none => simp only [hbus]
      | some e => rfl

/-- **The calls** of listeners that leave the bus alone are those that the bus holds at the start,
up to one that fails. -/
theorem calls_spec (hkeeps : ∀ l s, bus (call l event s).2 = bus s) (s : σ) :
    calls bus call event s <+: (bus s).recipients (Kinded.kindOf event) ∧
      ((emit bus call event s).1 = none →
        calls bus call event s = (bus s).recipients (Kinded.kindOf event)) ∧
      (calls bus call event s = [] → (bus s).recipients (Kinded.kindOf event) = []) := by
  obtain ⟨called, heq, hcalled⟩ :=
    callAll_noted (call · event) event ((bus s).recipients (Kinded.kindOf event)) [] s
  have hcalls : calls bus call event s = called := by
    rw [calls, emit_eq_callAll fun l s => hkeeps l s.1]
    exact congrArg (·.2.2) heq
  rw [hcalls, emit_eq_callAll hkeeps]
  exact hcalled

theorem called_eq_recipients (b : Bus ι κ) (event : α) :
    b.called event = b.recipients (Kinded.kindOf event) := by
  have hquiet : (emit id (fun _ _ b => ((none : Option Empty), b)) event b).1 = none := by
    rw [emit_eq_callAll fun _ _ => rfl, callAll_of_quiet]
  exact (calls_spec (fun _ _ => rfl) b).2.1 hquiet

end UtilityCss.Event.Bus

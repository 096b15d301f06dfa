import UtilityCss.Proofs.Event.Registrations

/-!
# Events — who gets an event

The registrations that survive a history are kept in a ledger, each with its place in the history
(`surviving`).  A registration goes to the end of the ledger; taking a listener out strikes the
earliest registration of that listener that is for the same events.

**Delivery** (`delivery_run`).  After any history, an event goes to the surviving registrations for
all events and then to those for its kind, each once and in the order of registration, as long as no
listener changes the bus; a listener that fails ends the calls.  To take a listener out tells
whether a registration was struck, and a kind has listeners exactly if one of its events calls
someone.

* `within_perform`: what one operation does to the listeners of one scope.
* `within_run`: the bus holds what the ledger says.  This is what the history is needed for: the bus
  forgets which of several registrations of one listener it still holds.
-/

namespace UtilityCss.Event.Bus

variable {ι κ : Type} [DecidableEq κ]

/-! ### Scopes -/

/-- What a registration is for: all events, or those of one kind. -/
inductive Scope (κ : Type) where
  | general
  | special (kind : κ)
  deriving DecidableEq, Repr

/-- The listeners of a scope, in the order of registration. -/
def within (b : Bus ι κ) : Scope κ → List ι
  | .general => b.general
  | .special kind => b.listeners kind

theorem recipients_eq_within (b : Bus ι κ) (kind : κ) :
    b.recipients kind = b.within .general ++ b.within (.special kind) :=
  rfl

namespace Op

/-- What the registration is for that an operation makes or takes back. -/
def scope : Op ι κ → Scope κ
  | .subscribe kind _ | .unsubscribe kind _ | .off (.special kind _) => .special kind
  | .onAll _ | .off (.general _) => .general

/-- The listener that an operation registers or takes out. -/
def listener : Op ι κ → ι
  | .subscribe _ l | .unsubscribe _ l | .off (.special _ l) | .onAll l | .off (.general l) => l

/-- An operation registers its listener, and does not take it out. -/
def registers : Op ι κ → Bool
  | .subscribe _ _ | .onAll _ => true
  | .unsubscribe _ _ | .off _ => false

end Op

theorem lookup_append (special : List (κ × List ι)) (kind k : κ) (listener : ι) :
    ((append special kind listener).lookup k).getD [] =
      if k = kind then (special.lookup kind).getD [] ++ [listener]
      else (special.lookup k).getD [] := by
  induction special with
  | nil => by_cases hk : k = kind <;> simp [append, List.lookup_cons, hk, beq_false_of_ne]
  | cons entry special ih =>
      obtain ⟨k', ls⟩ := entry
      rw [append]
      by_cases hk' : k' = kind
      · subst hk'
        by_cases hk : k = k' <;> simp [List.lookup_cons, hk, beq_false_of_ne]
      · rw [if_neg (by simpa using hk'), List.lookup_cons, List.lookup_cons, List.lookup_cons,
          beq_false_of_ne (Ne.symm hk')]
        by_cases hk : k = k'
        · subst hk
          simp [hk']
        · simpa [beq_false_of_ne hk] using ih

theorem hasListeners_iff {b : Bus ι κ} {kind : κ} :
    b.hasListeners kind = true ↔ b.recipients kind ≠ [] := by
  rw [hasListeners, recipients]
  cases b.general <;> simp

variable [DecidableEq ι]

/-- **One operation** adds its listener at the end of its scope, or takes the earliest registration
of it out there, and leaves all other scopes as they are. -/
theorem within_perform (b : Bus ι κ) (op : Op ι κ) (scope : Scope κ) :
    (b.perform op).within scope =
      if scope = op.scope then
        if op.registers then b.within scope ++ [op.listener]
        else (b.within scope).erase op.listener
      else b.within scope := by
  have hout (kind : κ) (listener : ι) : (b.unsubscribe kind listener).2.within scope =
      if scope = .special kind then (b.within scope).erase listener else b.within scope := by
    cases scope with
    | general =>
        rw [if_neg (by simp), Bus.unsubscribe]
        split <;> rfl
    | special k =>
        simp only [within, Scope.special.injEq, b.listeners_unsubscribe]
        split
        next hk => rw [hk]
        next => rfl
  cases op with
  | subscribe kind listener =>
      cases scope with
      | general => rfl
      | special k =>
          simp only [within, Op.scope, Op.registers, Op.listener, Scope.special.injEq,
            if_true]
          refine (lookup_append b.special kind k listener).trans ?_
          split
          next hk => rw [hk]; rfl
          next => rfl
  | onAll listener => cases scope <;> rfl
  | unsubscribe kind listener => exact hout kind listener
  | off handle =>
      cases handle with
      | special kind listener => exact hout kind listener
      | general listener => cases scope <;> rfl

/-! ### The ledger -/

/-- A registration: its place among the operations, what it is for and whom it calls. -/
structure Registration (ι κ : Type) where
  place : Nat
  scope : Scope κ
  listener : ι
  deriving DecidableEq, Repr

/-- A registration of this listener for this scope. -/
def Registration.isOf (r : Registration ι κ) (scope : Scope κ) (listener : ι) : Bool :=
  r.scope = scope && r.listener = listener

/-- The ledger after an operation: a registration goes to its end, and taking a listener out strikes
the earliest registration of it for the same scope. -/
def record (ledger : List (Registration ι κ)) (place : Nat) (op : Op ι κ) :
    List (Registration ι κ) :=
  if op.registers then ledger ++ [⟨place, op.scope, op.listener⟩]
  else ledger.eraseP (·.isOf op.scope op.listener)

/-- The registrations that survive operations on an empty bus, in the order of registration. -/
def surviving (ops : List (Op ι κ)) : List (Registration ι κ) :=
  ops.zipIdx.foldl (fun ledger entry => record ledger entry.2 entry.1) []

/-- The registrations for a scope. -/
def inScope (ledger : List (Registration ι κ)) (scope : Scope κ) : List (Registration ι κ) :=
  ledger.filter (·.scope = scope)

/-- The registrations that an event of a kind reaches, in the order of the calls. -/
def reached (ledger : List (Registration ι κ)) (kind : κ) : List (Registration ι κ) :=
  inScope ledger .general ++ inScope ledger (.special kind)

theorem surviving_concat (ops : List (Op ι κ)) (op : Op ι κ) :
    surviving (ops ++ [op]) = record (surviving ops) ops.length op := by
  simp [surviving, List.zipIdx_append]

theorem run_concat (ops : List (Op ι κ)) (op : Op ι κ) :
    run (ops ++ [op]) = (run ops).perform op := by
  simp [run]

theorem record_sublist {ledger : List (Registration ι κ)} {place : Nat} {op : Op ι κ} :
    (record ledger place op).Sublist (ledger ++ [⟨place, op.scope, op.listener⟩]) := by
  rw [record]
  split
  · exact List.Sublist.refl _
  · exact (List.eraseP_sublist).trans (List.sublist_append_left _ _)

/-- A surviving registration was made by the operation at its place. -/
theorem exists_of_mem_surviving {ops : List (Op ι κ)} {r : Registration ι κ}
    (hr : r ∈ surviving ops) : ∃ op, ops[r.place]? = some op ∧ op.registers ∧ op.scope = r.scope ∧
      op.listener = r.listener := by
  induction ops using List.reverseRecOn with
  | nil => cases hr
  | append_singleton ops op ih =>
      have hold (hmem : r ∈ surviving ops) : ∃ made, (ops ++ [op])[r.place]? = some made ∧
          made.registers ∧ made.scope = r.scope ∧ made.listener = r.listener := by
        obtain ⟨made, hplace, hmade⟩ := ih hmem
        have hlt : r.place < ops.length := (List.getElem?_eq_some_iff.1 hplace).1
        exact ⟨made, by rwa [List.getElem?_append_left hlt], hmade⟩
      rw [surviving_concat, record] at hr
      split at hr
      next hregisters =>
          obtain hmem | hnew := List.mem_append.1 hr
          · exact hold hmem
          · obtain rfl := List.mem_singleton.1 hnew
            exact ⟨op, by simp, hregisters, rfl, rfl⟩
      next => exact hold (List.mem_of_mem_eraseP hr)

/-- The ledger is in the order of registration, and no two registrations have one place. -/
theorem surviving_pairwise (ops : List (Op ι κ)) :
    (surviving ops).Pairwise (·.place < ·.place) := by
  induction ops using List.reverseRecOn with
  | nil => exact List.Pairwise.nil
  | append_singleton ops op ih =>
      rw [surviving_concat]
      refine List.Pairwise.sublist record_sublist (List.pairwise_append.2 ⟨ih, by simp, ?_⟩)
      intro r hr new hnew
      obtain rfl := List.mem_singleton.1 hnew
      obtain ⟨made, hplace, -⟩ := exists_of_mem_surviving hr
      exact (List.getElem?_eq_some_iff.1 hplace).1

theorem nodup_surviving (ops : List (Op ι κ)) : (surviving ops).Nodup :=
  (surviving_pairwise ops).imp fun hlt heq => by simp [heq] at hlt

/-- Striking a registration takes the earliest of its listener out of its scope. -/
theorem map_inScope_eraseP (ledger : List (Registration ι κ)) (scope : Scope κ) (listener : ι) :
    (inScope (ledger.eraseP (·.isOf scope listener)) scope).map (·.listener) =
      ((inScope ledger scope).map (·.listener)).erase listener := by
  rw [List.erase_eq_eraseP, List.eraseP_map, inScope, inScope, List.eraseP_filter]
  congr 3
  funext r
  simp [Registration.isOf, Bool.and_comm, Bool.beq_eq_decide_eq, eq_comm]

/-- An operation leaves the registrations for other scopes as they are. -/
theorem inScope_record_of_ne (ledger : List (Registration ι κ)) (place : Nat) {op : Op ι κ}
    {scope : Scope κ} (hscope : op.scope ≠ scope) :
    inScope (record ledger place op) scope = inScope ledger scope := by
  rw [record]
  split
  · simp [inScope, hscope]
  · obtain hsame | ⟨r, before, after, -, hof, hledger, herased⟩ :=
      List.exists_or_eq_self_of_eraseP (·.isOf op.scope op.listener) ledger
    · rw [hsame]
    · have hother : r.scope ≠ scope := by
        simp only [Registration.isOf, Bool.and_eq_true, decide_eq_true_eq] at hof
        rwa [hof.1]
      rw [herased, hledger]
      simp [inScope, hother]

/-- **The bus holds what the ledger says.** -/
theorem within_run (ops : List (Op ι κ)) (scope : Scope κ) :
    (run ops).within scope = (inScope (surviving ops) scope).map (·.listener) := by
  induction ops using List.reverseRecOn with
  | nil => cases scope <;> rfl
  | append_singleton ops op ih =>
      rw [run_concat, within_perform, ih, surviving_concat]
      split
      next hscope =>
          rw [record, hscope]
          split
          · simp [inScope]
          · exact (map_inScope_eraseP (surviving ops) op.scope op.listener).symm
      next hscope => rw [inScope_record_of_ne _ _ (Ne.symm hscope)]

theorem recipients_run (ops : List (Op ι κ)) (kind : κ) :
    (run ops).recipients kind = (reached (surviving ops) kind).map (·.listener) := by
  rw [recipients_eq_within, within_run, within_run, reached, List.map_append]

/-- An operation for other events leaves the registrations as they are that an event reaches. -/
theorem reached_surviving_concat {ops : List (Op ι κ)} {op : Op ι κ} {kind : κ}
    (hgeneral : op.scope ≠ .general) (hspecial : op.scope ≠ .special kind) :
    reached (surviving (ops ++ [op])) kind = reached (surviving ops) kind := by
  rw [surviving_concat, reached, inScope_record_of_ne _ _ hgeneral,
    inScope_record_of_ne _ _ hspecial, reached]

theorem surviving_unsubscribe (ops : List (Op ι κ)) (kind : κ) (listener : ι) :
    surviving (ops ++ [.unsubscribe kind listener]) =
      (surviving ops).eraseP (·.isOf (.special kind) listener) :=
  surviving_concat ops _

/-- Taking a listener for a kind out tells whether a registration is struck. -/
theorem unsubscribe_run_iff (ops : List (Op ι κ)) (kind : κ) (listener : ι) :
    ((run ops).unsubscribe kind listener).1 = true ↔
      ∃ r ∈ surviving ops, r ∉ surviving (ops ++ [.unsubscribe kind listener]) := by
  have hfound : ((run ops).unsubscribe kind listener).1 = true ↔
      ∃ r ∈ surviving ops, r.isOf (.special kind) listener := by
    have hlisteners : (run ops).listeners kind = _ := within_run ops (.special kind)
    rw [Bus.unsubscribe, hlisteners]
    simp only [inScope, List.contains_eq_mem, List.mem_map, List.mem_filter, decide_eq_true_eq,
      and_assoc, Registration.isOf, Bool.and_eq_true]
    split
    next h => exact iff_of_true rfl h
    next h => exact iff_of_false (by simp) h
  rw [hfound, surviving_unsubscribe]
  constructor
  · rintro ⟨r, hr, hof⟩
    obtain ⟨struck, before, after, -, -, hledger, herased⟩ :=
      List.exists_of_eraseP (p := (·.isOf (.special kind) listener)) hr hof
    have hnodup := nodup_surviving ops
    rw [hledger] at hnodup
    refine ⟨struck, by simp [hledger], ?_⟩
    rw [herased]
    exact (List.nodup_cons.1 (List.perm_middle.nodup_iff.1 hnodup)).1
  · rintro ⟨r, hr, hstruck⟩
    by_contra hnone
    push Not at hnone
    rw [List.eraseP_of_forall_not hnone] at hstruck
    exact hstruck hr

/-! ### Delivery -/

/-- **Delivery.**  After any operations, whatever the listeners do besides, the calls that an event
makes are those of the surviving registrations that it reaches, in the order of registration and
each once; a listener that fails ends them.  Operations for other events do not change which these
are.  To take a listener out tells whether a registration is struck, and the bus knows whether the
event would call anyone. -/
theorem delivery_run {α σ ε : Type} [Kinded α κ] (ops : List (Op ι κ)) (bus : σ → Bus ι κ)
    (call : ι → α → σ → Option ε × σ) (event : α) (s : σ) (hbus : bus s = run ops)
    (hkeeps : ∀ l s, bus (call l event s).2 = bus s) :
    let kind := Kinded.kindOf event
    let due := (reached (surviving ops) kind).map (·.listener)
    ((surviving ops).Pairwise (·.place < ·.place) ∧
      ∀ r ∈ surviving ops, ∃ op, ops[r.place]? = some op ∧ op.registers ∧ op.scope = r.scope ∧
        op.listener = r.listener) ∧
    (calls bus call event s <+: due ∧
      ((emit bus call event s).1 = none → calls bus call event s = due)) ∧
    (∀ op : Op ι κ, op.scope ≠ .general → op.scope ≠ .special kind →
      reached (surviving (ops ++ [op])) kind = reached (surviving ops) kind) ∧
    (∀ k listener, ((run ops).unsubscribe k listener).1 = true ↔
      ∃ r ∈ surviving ops, r ∉ surviving (ops ++ [.unsubscribe k listener])) ∧
    ((run ops).hasListeners kind = true ↔ calls bus call event s ≠ []) := by
  intro kind due
  have hdue : (run ops).recipients kind = due := recipients_run ops kind
  obtain ⟨hstart, hall, hnone⟩ := calls_spec hkeeps s
  rw [hbus, hdue] at hstart hall hnone
  refine ⟨⟨surviving_pairwise ops, fun r => exists_of_mem_surviving⟩, ?_,
    fun op => reached_surviving_concat, unsubscribe_run_iff ops, ?_⟩
  · exact ⟨hstart, hall⟩
  · have hempty : calls bus call event s = [] ↔ (run ops).recipients kind = [] := by
      rw [hdue]
      exact ⟨hnone, fun h => List.prefix_nil.1 (h ▸ hstart)⟩
    rw [Ne, hempty, hasListeners_iff]

/-- A listener is registered twice for a kind, with another one between, and is taken out once: the
later registration survives, and is called after the other. -/
def repeatedOps : List (Op Nat Kind) :=
  [.subscribe .cacheHit 0, .onAll 1, .subscribe .cacheHit 2, .subscribe .cacheHit 0,
    .subscribe .cacheMiss 3, .off (.special .cacheHit 0), .onAll 0]

/-- The bus after these operations, and nothing put down. -/
def repeatedState : Bus Nat × List Nat :=
  (run repeatedOps, [])

/-- A listener puts its call down and leaves the bus alone. -/
def tally (listener : Nat) (_ : Event) (s : Bus Nat × List Nat) :
    Option Empty × (Bus Nat × List Nat) :=
  (none, (s.1, listener :: s.2))

theorem delivery_run_repeated :
    repeatedState.1 = run repeatedOps ∧
      (∀ l s, (tally l (.cacheHit []) s).2.1 = s.1) ∧
      reached (surviving repeatedOps) .cacheHit =
        [⟨1, .general, 1⟩, ⟨6, .general, 0⟩, ⟨2, .special .cacheHit, 2⟩,
          ⟨3, .special .cacheHit, 0⟩] ∧
      calls Prod.fst tally (.cacheHit []) repeatedState = [1, 0, 2, 0] := by
  have hreached : reached (surviving repeatedOps) .cacheHit =
      [⟨1, .general, 1⟩, ⟨6, .general, 0⟩, ⟨2, .special .cacheHit, 2⟩,
        ⟨3, .special .cacheHit, 0⟩] := by
    decide
  obtain ⟨-, ⟨-, hcalls⟩, -⟩ := delivery_run repeatedOps Prod.fst tally (.cacheHit []) repeatedState
    rfl fun _ _ => rfl
  refine ⟨rfl, fun _ _ => rfl, hreached, ?_⟩
  rw [hcalls rfl]
  exact congrArg (·.map (·.listener)) hreached

end UtilityCss.Event.Bus

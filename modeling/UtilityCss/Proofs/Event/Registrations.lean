import Mathlib.Data.List.Induction
import UtilityCss.Proofs.Event.Calls

/-!
# Events — registrations that are taken back

A registration gives back a handle, and the handle takes the listener out again.  It knows the
listener and the kind, and nothing of the registration that it was given for: of several
registrations of one listener, each handle takes out whichever is the earliest.

**Taking back twice** (`off_again_iff`).  After any registrations, to take a listener out a second
time changes who gets an event exactly if there was more than one registration of it.  With two of
them the second call takes out the other one (`not_always_idempotent`); with at most one it leaves
the bus as it is.

* `listeners_unsubscribe`: what taking a listener out does to the listeners for a kind.  It needs
  the kinds to be distinct, since a list that gets empty is taken away.
-/

namespace UtilityCss.Event.Bus

variable {ι κ : Type} [DecidableEq ι] [DecidableEq κ]

/-! ### Taking a listener out -/

/-- With distinct kinds, a list that gets empty leaves none of its kind behind. -/
theorem lookup_takeOut {special : List (κ × List ι)} (h : (special.map Prod.fst).Nodup)
    (kind k : κ) (listener : ι) :
    ((takeOut special kind listener).lookup k).getD [] =
      if k = kind then ((special.lookup kind).getD []).erase listener
      else (special.lookup k).getD [] := by
  induction special with
  | nil => simp [takeOut]
  | cons entry special ih =>
      obtain ⟨k', ls⟩ := entry
      rw [List.map_cons, List.nodup_cons] at h
      rw [takeOut]
      by_cases hk' : k' = kind
      · subst hk'
        have hnone : special.lookup k' = none := List.lookup_eq_none_iff.2 fun p hp => by
          refine bne_iff_ne.2 fun heq => h.1 ?_
          exact List.mem_map.2 ⟨p, hp, heq.symm⟩
        simp only [beq_self_eq_true, if_true]
        split
        next hempty =>
            by_cases hk : k = k'
            · subst hk
              simp [hnone, List.isEmpty_iff.1 hempty]
            · simp [List.lookup_cons, hk, beq_false_of_ne hk]
        next =>
            by_cases hk : k = k'
            · simp [hk]
            · simp [List.lookup_cons, hk, beq_false_of_ne hk]
      · rw [if_neg (by simpa using hk'), List.lookup_cons, List.lookup_cons, List.lookup_cons,
          beq_false_of_ne (Ne.symm hk')]
        by_cases hk : k = k'
        · subst hk
          simp [hk']
        · simpa [beq_false_of_ne hk] using ih h.2

/-- Taking a listener for a kind out takes out its earliest registration for that kind. -/
theorem listeners_unsubscribe (b : Bus ι κ) (kind k : κ) (listener : ι) :
    (b.unsubscribe kind listener).2.listeners k =
      if k = kind then (b.listeners kind).erase listener else b.listeners k := by
  rw [Bus.unsubscribe]
  split
  · exact lookup_takeOut b.distinct kind k listener
  next habsent =>
      split
      next hk => rw [hk, List.erase_of_not_mem (by simpa using habsent)]
      next => rfl

/-! ### Operations -/

/-- The operations that change who is registered. -/
inductive Op (ι κ : Type) where
  | subscribe (kind : κ) (listener : ι)
  | onAll (listener : ι)
  | unsubscribe (kind : κ) (listener : ι)
  /-- The call of a handle. -/
  | off (handle : Handle ι κ)

/-- The bus after an operation. -/
def perform (b : Bus ι κ) : Op ι κ → Bus ι κ
  | .subscribe kind listener => b.subscribe kind listener
  | .onAll listener => b.onAll listener
  | .unsubscribe kind listener => (b.unsubscribe kind listener).2
  | .off handle => (b.off handle).2

/-- The bus after operations on an empty one. -/
def run (ops : List (Op ι κ)) : Bus ι κ :=
  ops.foldl perform {}

/-! ### Taking back twice -/

/-- How many registrations there are of the listener of a handle, where the handle takes it out. -/
def registrations (b : Bus ι κ) : Handle ι κ → Nat
  | .special kind listener => (b.listeners kind).count listener
  | .general listener => b.general.count listener

/-- A handle whose listener is not registered leaves the bus as it is. -/
theorem off_of_registrations_eq_zero {b : Bus ι κ} {h : Handle ι κ}
    (hnone : b.registrations h = 0) : (b.off h).2 = b := by
  cases h with
  | special kind listener =>
      have habsent : listener ∉ b.listeners kind := List.count_eq_zero.1 hnone
      simp [off, unsubscribe, habsent]
  | general listener =>
      have habsent : listener ∉ b.general := List.count_eq_zero.1 hnone
      simp [off, offAll, List.erase_of_not_mem habsent]

/-- The call of a handle takes one registration away, if there is one. -/
theorem registrations_off (b : Bus ι κ) (h : Handle ι κ) :
    (b.off h).2.registrations h = b.registrations h - 1 := by
  cases h with
  | special kind listener =>
      have hlisteners : ((b.off (.special kind listener)).2).listeners kind =
          (b.listeners kind).erase listener := by
        rw [off, b.listeners_unsubscribe, if_pos rfl]
      rw [registrations, hlisteners, List.count_erase_self, registrations]
  | general listener => exact List.count_erase_self

/-- The call of a handle whose listener is registered makes the listeners for some kind fewer. -/
theorem exists_recipients_off_ne [Inhabited κ] (b : Bus ι κ) {h : Handle ι κ}
    (hsome : b.registrations h ≠ 0) :
    ∃ kind, (b.off h).2.recipients kind ≠ b.recipients kind := by
  cases h with
  | special kind listener =>
      have hmem : listener ∈ b.listeners kind := by
        rwa [registrations, Ne, List.count_eq_zero, not_not] at hsome
      refine ⟨kind, fun heq => ?_⟩
      have hgeneral : (b.off (.special kind listener)).2.general = b.general := by
        change (b.unsubscribe kind listener).2.general = b.general
        rw [Bus.unsubscribe]
        split <;> rfl
      rw [recipients, recipients, hgeneral, off, b.listeners_unsubscribe, if_pos rfl] at heq
      have hlength := congrArg List.length (List.append_cancel_left heq)
      have hpos := List.length_pos_of_mem hmem
      rw [List.length_erase_of_mem hmem] at hlength
      omega
  | general listener =>
      have hmem : listener ∈ b.general := by
        rwa [registrations, Ne, List.count_eq_zero, not_not] at hsome
      refine ⟨default, fun heq => ?_⟩
      have hlength := congrArg List.length (List.append_cancel_right heq)
      have hpos := List.length_pos_of_mem hmem
      rw [off, offAll, List.length_erase_of_mem hmem] at hlength
      omega

/-- **Taking back twice.**  Whatever has been registered and taken back before, and whatever handle
is called: its second call leaves the bus as it is if there was at most one registration of its
listener before the first one.  That is the only case in which the same listeners are called for
every event, and the same kinds have listeners, as after the first call. -/
theorem off_again_iff {α : Type} [Kinded α κ] [Inhabited κ] (ops : List (Op ι κ))
    (h : Handle ι κ) :
    let once := ((run ops).off h).2
    let twice := (once.off h).2
    ((run ops).registrations h ≤ 1 → twice = once) ∧
    ((∀ event : α, twice.called event = once.called event) ∧
      (∀ kind, twice.hasListeners kind = once.hasListeners kind) ↔
        (run ops).registrations h ≤ 1) := by
  intro once twice
  have hleft : once.registrations h = (run ops).registrations h - 1 := registrations_off _ h
  have hsame : (run ops).registrations h ≤ 1 → twice = once := fun hfew =>
    off_of_registrations_eq_zero (by omega)
  refine ⟨hsame, fun ⟨hcalled, _⟩ => ?_, fun hfew => ?_⟩
  · by_contra hmany
    obtain ⟨kind, hne⟩ := exists_recipients_off_ne once (h := h) (by omega)
    obtain ⟨event, rfl⟩ := Kinded.exists_kindOf (α := α) kind
    apply hne
    rw [← called_eq_recipients, ← called_eq_recipients]
    exact hcalled event
  · rw [hsame hfew]
    exact ⟨fun _ => rfl, fun _ => rfl⟩

/-- A listener is registered twice for a kind, and the first handle is called twice: no registration
is left. -/
theorem not_always_idempotent :
    ¬ ∀ (ops : List (Op Nat Kind)) (h : Handle Nat),
      let once := ((run ops).off h).2
      let twice := (once.off h).2
      (∀ event : Event, twice.called event = once.called event) ∧
        ∀ kind, twice.hasListeners kind = once.hasListeners kind := by
  intro hall
  have hsame := (hall [.subscribe .cacheHit 0, .subscribe .cacheHit 0] (.special .cacheHit 0)).2
    .cacheHit
  exact absurd hsame (by decide)

end UtilityCss.Event.Bus

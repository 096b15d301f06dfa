import UtilityCss.Event.Basic

/-!
# Events — the bus

A bus holds listeners, some for all events and some for the events of one kind, whatever the events
and their kinds are.  An event goes first to the listeners for all events and then to those for its
kind, each in the order of registration.  A listener that is registered twice is called twice;
taking it out takes out its earliest registration.
-/

namespace UtilityCss.Event

/-- The listeners, in the order of registration. -/
structure Bus (ι : Type) (κ : Type := Kind) where
  /-- Listeners for all events. -/
  general : List ι := []
  /-- Listeners for the events of a kind. -/
  special : List (κ × List ι) := []
  /-- No list is empty. -/
  filled : ∀ entry ∈ special, entry.2 ≠ [] := by simp
  /-- The kinds are distinct. -/
  distinct : (special.map Prod.fst).Nodup := by simp

namespace Bus

variable {ι κ : Type} [DecidableEq κ]

/-- The listeners for a kind alone. -/
def listeners (b : Bus ι κ) (kind : κ) : List ι :=
  (b.special.lookup kind).getD []

/-! ### Lists of listeners -/

/-- Adds a listener for a kind to lists of listeners. -/
def append (special : List (κ × List ι)) (kind : κ) (listener : ι) : List (κ × List ι) :=
  match special with
  | [] => [(kind, [listener])]
  | (k, ls) :: rest =>
    if k == kind then (k, ls ++ [listener]) :: rest else (k, ls) :: append rest kind listener

theorem keys_append (special : List (κ × List ι)) (kind : κ) (listener : ι) :
    (append special kind listener).map Prod.fst =
      if kind ∈ special.map Prod.fst then special.map Prod.fst
      else special.map Prod.fst ++ [kind] := by
  induction special with
  | nil => rfl
  | cons entry special ih =>
      obtain ⟨k, ls⟩ := entry
      rw [append]
      by_cases hk : k = kind
      · simp [hk]
      · rw [if_neg (by simpa using hk), List.map_cons, List.map_cons, ih]
        simp only [List.mem_cons, Ne.symm hk, false_or]
        split <;> rfl

theorem nodup_append {special : List (κ × List ι)} (h : (special.map Prod.fst).Nodup) (kind : κ)
    (listener : ι) : ((append special kind listener).map Prod.fst).Nodup := by
  rw [keys_append]
  split
  · exact h
  next hnew =>
      refine List.nodup_append.2 ⟨h, by simp, fun k hk k' hk' heq => hnew ?_⟩
      rwa [← List.mem_singleton.1 hk', ← heq]

theorem filled_append {special : List (κ × List ι)} (h : ∀ entry ∈ special, entry.2 ≠ [])
    (kind : κ) (listener : ι) : ∀ entry ∈ append special kind listener, entry.2 ≠ [] := by
  induction special with
  | nil => simp [append]
  | cons entry special ih =>
      obtain ⟨k, ls⟩ := entry
      rw [List.forall_mem_cons] at h
      rw [append]
      split
      · exact List.forall_mem_cons.2 ⟨by simp, h.2⟩
      · exact List.forall_mem_cons.2 ⟨h.1, ih h.2⟩

section

variable [BEq ι]

/-- Takes the earliest registration of a listener out of the list for a kind, and the list with it
when it gets empty. -/
def takeOut (special : List (κ × List ι)) (kind : κ) (listener : ι) : List (κ × List ι) :=
  match special with
  | [] => []
  | (k, ls) :: rest =>
    if k == kind then
      let left := ls.erase listener
      if left.isEmpty then rest else (k, left) :: rest
    else (k, ls) :: takeOut rest kind listener

theorem keys_takeOut (special : List (κ × List ι)) (kind : κ) (listener : ι) :
    ((takeOut special kind listener).map Prod.fst).Sublist (special.map Prod.fst) := by
  induction special with
  | nil => exact List.Sublist.refl _
  | cons entry special ih =>
      obtain ⟨k, ls⟩ := entry
      rw [takeOut]
      split
      · dsimp only
        split
        · exact List.sublist_cons_self _ _
        · exact List.Sublist.refl _
      · exact ih.cons_cons k

theorem filled_takeOut {special : List (κ × List ι)} (h : ∀ entry ∈ special, entry.2 ≠ [])
    (kind : κ) (listener : ι) : ∀ entry ∈ takeOut special kind listener, entry.2 ≠ [] := by
  induction special with
  | nil => nofun
  | cons entry special ih =>
      obtain ⟨k, ls⟩ := entry
      rw [List.forall_mem_cons] at h
      rw [takeOut]
      split
      · dsimp only
        split
        · exact h.2
        next hleft => exact List.forall_mem_cons.2 ⟨by simpa using hleft, h.2⟩
      · exact List.forall_mem_cons.2 ⟨h.1, ih h.2⟩

end

/-! ### Registering -/

/-- Registers a listener for a kind. -/
def subscribe (b : Bus ι κ) (kind : κ) (listener : ι) : Bus ι κ where
  general := b.general
  special := append b.special kind listener
  filled := filled_append b.filled kind listener
  distinct := nodup_append b.distinct kind listener

/-- Registers a listener for all events. -/
def onAll (b : Bus ι κ) (listener : ι) : Bus ι κ :=
  { b with general := b.general ++ [listener] }

section

variable [BEq ι]

/-- Takes a listener for a kind out; whether it was there. -/
def unsubscribe (b : Bus ι κ) (kind : κ) (listener : ι) : Bool × Bus ι κ :=
  if (b.listeners kind).contains listener then
    (true,
      { general := b.general
        special := takeOut b.special kind listener
        filled := filled_takeOut b.filled kind listener
        distinct := (keys_takeOut b.special kind listener).nodup b.distinct })
  else (false, b)

/-- Takes a listener for all events out, if it is there. -/
def offAll (b : Bus ι κ) (listener : ι) : Bus ι κ :=
  { b with general := b.general.erase listener }

end

/-- Whether an event of a kind would go to any listener. -/
def hasListeners (b : Bus ι κ) (kind : κ) : Bool :=
  !b.general.isEmpty || !(b.listeners kind).isEmpty

/-- The listeners that an event of a kind goes to if none of them changes the bus. -/
def recipients (b : Bus ι κ) (kind : κ) : List ι :=
  b.general ++ b.listeners kind

/-- What a registration gives back, to take the listener out again. -/
inductive Handle (ι : Type) (κ : Type := Kind) where
  | special (kind : κ) (listener : ι)
  | general (listener : ι)

/-- Takes the listener of a handle out.  For one of a kind it tells whether it was there. -/
def off [BEq ι] (b : Bus ι κ) : Handle ι κ → Option Bool × Bus ι κ
  | .special kind listener =>
    let (found, b) := b.unsubscribe kind listener
    (some found, b)
  | .general listener => (none, b.offAll listener)

/-! ### Delivery -/

/-- Calls listeners one after the other, up to the first that fails. -/
def callAll {σ ε : Type} (call : ι → σ → Option ε × σ) : List ι → σ → Option ε × σ
  | [], s => (none, s)
  | listener :: rest, s =>
    match call listener s with
    | (none, s) => callAll call rest s
    | failed => failed

/-- Sends an event to the listeners of a bus that is part of a state.  A listener may change the
state, and the bus with it: who is called is settled when the calls for all events begin, and again
when those for the kind do. -/
def emit {α σ ε : Type} [Kinded α κ] (bus : σ → Bus ι κ) (call : ι → α → σ → Option ε × σ)
    (event : α) (s : σ) : Option ε × σ :=
  match callAll (call · event) (bus s).general s with
  | (none, s) => callAll (call · event) ((bus s).listeners (Kinded.kindOf event)) s
  | failed => failed

end Bus

end UtilityCss.Event

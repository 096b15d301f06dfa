import UtilityCss.Text.Basic

/-!
# Events

What a compiler reports to its listeners while it works.
-/

namespace UtilityCss

/-- An event. -/
inductive Event where
  /-- The style sheet of a class string was in the cache. -/
  | cacheHit (className : Text)
  /-- It was not. -/
  | cacheMiss (className : Text)
  /-- No rule claims the utility of a token. -/
  | tokenUnresolved (token utility : Text)
  /-- A style sheet has been made for class strings. -/
  | cssGenerated (classes : List Text) (css : Text)
  deriving DecidableEq, Repr

namespace Event

/-- The kinds of events. -/
inductive Kind where
  | cacheHit
  | cacheMiss
  | tokenUnresolved
  | cssGenerated
  deriving DecidableEq, Repr

/-- The kind of an event. -/
def kind : Event → Kind
  | .cacheHit _ => .cacheHit
  | .cacheMiss _ => .cacheMiss
  | .tokenUnresolved _ _ => .tokenUnresolved
  | .cssGenerated _ _ => .cssGenerated

/-- The events that a bus delivers: each has a kind, and there are events of every kind. -/
class Kinded (α : Type) (κ : outParam Type) where
  kindOf : α → κ
  exists_kindOf (kind : κ) : ∃ event, kindOf event = kind

instance : Kinded Event Kind where
  kindOf := kind
  exists_kindOf
    | .cacheHit => ⟨.cacheHit [], rfl⟩
    | .cacheMiss => ⟨.cacheMiss [], rfl⟩
    | .tokenUnresolved => ⟨.tokenUnresolved [] [], rfl⟩
    | .cssGenerated => ⟨.cssGenerated [] [], rfl⟩

end Event

end UtilityCss

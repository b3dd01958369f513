set_option autoImplicit false

/-! # Transitions

What an operation on a state does: the state after it, the events it fires in their order, and its
result. -/

namespace EvmScope

/-- The outcome of an operation on a state. -/
structure Transition (σ ε α : Type) where
  /-- The state after the operation. -/
  state : σ
  /-- The events that were fired, the first one first. -/
  events : List ε
  result : α

namespace Transition

variable {σ τ ε φ α β : Type}

/-- Nothing happens. -/
def stay (state : σ) (result : α) : Transition σ ε α := ⟨state, [], result⟩

/-- See the state and the events as part of larger ones. -/
def lift (t : Transition σ ε α) (embed : σ → τ) (wrap : ε → φ) : Transition τ φ α :=
  ⟨embed t.state, t.events.map wrap, t.result⟩

/-- Read the result in another way. -/
def mapResult (t : Transition σ ε α) (f : α → β) : Transition σ ε β :=
  ⟨t.state, t.events, f t.result⟩

end Transition

end EvmScope

import Accounts.Operation

/-!
# Parts of a state

A slot shows where in a state of type `σ` a value of type `α` is kept. Operations on the part
become operations on the whole.
-/

namespace Accounts

structure Slot (σ α : Type) where
  get : σ → α
  set : α → σ → σ

namespace Slot

variable {σ α : Type}

/-- What is set is what is got, and nothing else depends on the value that was there. -/
structure Lawful (p : Slot σ α) : Prop where
  get_set : ∀ a s, p.get (p.set a s) = a
  set_get : ∀ s, p.set (p.get s) s = s
  set_set : ∀ a b s, p.set a (p.set b s) = p.set a s

/-- The whole of a state. -/
def whole : Slot α α where
  get := id
  set a _ := a

theorem whole_lawful : (whole : Slot α α).Lawful :=
  ⟨fun _ _ => rfl, fun _ => rfl, fun _ _ _ => rfl⟩

/-- The value in the slot. -/
def read {ε : Type} (p : Slot σ α) : Operation σ ε α := do
  return p.get (← Operation.read)

def write {ε : Type} (p : Slot σ α) (a : α) : Operation σ ε Unit := do
  Operation.write (p.set a (← Operation.read))

/-- An operation on the part, as one on the whole. -/
def lift {ε β : Type} (p : Slot σ α) (x : Operation α ε β) : Operation σ ε β := fun m s =>
  let o := x m (p.get s)
  ⟨o.result, o.signals, p.set o.state s⟩

end Slot

end Accounts

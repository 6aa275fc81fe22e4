import Accounts.Delegate.Data
import Accounts.Signal

/-!
# What subscribers do

A subscriber answers a call with a script of steps: it can look at the state of its surroundings
and change it, register more subscribers, make calls of its own, and fail.
-/

namespace Accounts

/-- The steps of a subscriber whose surroundings are in a state of type `τ`. -/
inductive Script (τ : Type)
  | finish
  | fail (fault : Fault)
  | act (step : τ → List Signal × τ) (next : τ → Script τ)
  | register (domain action : String) (handler : Data → Script τ) (next : Script τ)
  | call (data : Data) (next : Except DelegateError Unit → Script τ)

/-- What runs when a call comes in. -/
abbrev Handler (τ : Type) := Data → Script τ

namespace Script

variable {τ : Type}

/-- Takes a note and goes on. -/
def note (text : String) (next : Script τ) : Script τ :=
  .act (fun s => ([.note text], s)) fun _ => next

end Script

end Accounts

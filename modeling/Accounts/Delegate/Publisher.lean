import Accounts.Delegate.Registry
import Accounts.Slot
import Accounts.Wire.Events

/-!
# Publishers

Where the business announces its events. An event has been published when every subscriber has
handled it; the failure of a subscriber is that of the publisher.
-/

namespace Accounts

/-- Publishers of type `π`, which work on a state of type `σ`. -/
class Publisher (σ : outParam Type) (π : Type) where
  publish : π → Event → Operation σ DelegateError Unit

/-- A way to publish events. -/
inductive Outlet (σ τ : Type)
  /-- Over a delegate that is kept in the state, together with what its subscribers work on. -/
  | delegate (exchange : Slot σ (Exchange τ))
  /-- Not at all: every event fails at a subscriber of this domain. -/
  | failing (domain : String) (fault : Fault)

namespace Outlet

variable {σ τ : Type}

def publish (event : Event) : Outlet σ τ → Operation σ DelegateError Unit
  | .delegate exchange => exchange.lift (Delegate.call event.data)
  | .failing domain fault => Operation.fail (.handler domain event.action fault)

instance : Publisher σ (Outlet σ τ) where
  publish outlet event := outlet.publish event

end Outlet

end Accounts

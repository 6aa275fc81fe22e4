import Accounts.Store.Storer
import Accounts.UserError

/-!
# The business with users

The operations that callers see. The core offers them and so does every layer around it, so that
a caller cannot tell how many layers there are.
-/

namespace Accounts

/-- The operations of businesses of type `β`, on a state of type `σ`. -/
class Business (σ : outParam Type) (β : Type) where
  /-- The same business, with its store inside of a transaction. -/
  newWithTx : β → TxHandle → Operation σ UserError β
  create : β → Uuid → NewUser → Operation σ UserError User
  /-- Changes the caller's copy of a user and stores it. -/
  update : β → Uuid → User → UserUpdate → Operation σ UserError User
  /-- Deletes a user and tells the other domains. -/
  delete : β → Uuid → User → Operation σ UserError Unit
  query : β → Filter → OrderBy → Page → Operation σ UserError (List User)
  count : β → Filter → Operation σ UserError Nat
  byId : β → Uuid → Operation σ UserError User
  byEmail : β → Email → Operation σ UserError User
  /-- An unknown address and a wrong password fail alike. -/
  authenticate : β → Email → String → Operation σ UserError User

end Accounts

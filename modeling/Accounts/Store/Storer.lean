import Accounts.Config
import Accounts.Filter
import Accounts.Operation
import Accounts.Store.Error

/-!
# Stores

What the business asks of a store of users. A store can be bound to a transaction; whoever
opened the transaction ends it.
-/

namespace Accounts

/-- A transaction, as it is handed around. -/
inductive TxHandle
  /-- The transaction with this number on the database with this number. -/
  | memory (database tx : Nat)
  /-- A transaction of some other system. -/
  | foreign
  deriving DecidableEq, Repr

/-- The operations of stores of type `ρ`, whose rows are in a state of type `σ`. -/
class Storer (σ : outParam Type) (ρ : Type) where
  /-- The same store, but inside of a transaction. -/
  newWithTx : ρ → TxHandle → Operation σ StoreError ρ
  create : ρ → User → Operation σ StoreError Unit
  update : ρ → User → Operation σ StoreError Unit
  delete : ρ → User → Operation σ StoreError Unit
  query : ρ → Filter → OrderBy → Page → Operation σ StoreError (List User)
  count : ρ → Filter → Operation σ StoreError Nat
  byId : ρ → Uuid → Operation σ StoreError User
  byEmail : ρ → Email → Operation σ StoreError User

end Accounts

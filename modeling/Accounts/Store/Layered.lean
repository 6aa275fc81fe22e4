import Accounts.Store.Storer

/-!
# Layers around stores

A layer can take a note of every call and pass it on, or refuse every call.
-/

namespace Accounts

/-- A store of type `ρ` with layers around it. -/
inductive LayeredStore (ρ : Type)
  | base (store : ρ)
  | logged (tag : String) (inner : LayeredStore ρ)
  | failing (error : StoreError)
  deriving Repr

namespace LayeredStore

variable {σ ρ : Type} [Storer σ ρ]

/-- Makes a call of the innermost store through all the layers. -/
def call {α : Type} (method : String) (run : ρ → Operation σ StoreError α) :
    LayeredStore ρ → Operation σ StoreError α
  | .base store => run store
  | .logged tag inner => do
    Operation.note (tag ++ ":" ++ method)
    inner.call method run
  | .failing error => Operation.fail error

/-- Binds the innermost store; the layers stay around it. -/
def newWithTx (handle : TxHandle) : LayeredStore ρ → Operation σ StoreError (LayeredStore ρ)
  | .base store => return .base (← Storer.newWithTx store handle)
  | .logged tag inner => do
    Operation.note (tag ++ ":new_with_tx")
    return .logged tag (← inner.newWithTx handle)
  | .failing error => Operation.fail error

instance : Storer σ (LayeredStore ρ) where
  newWithTx store handle := store.newWithTx handle
  create store user := store.call "create" (Storer.create · user)
  update store user := store.call "update" (Storer.update · user)
  delete store user := store.call "delete" (Storer.delete · user)
  query store filter orderBy page := store.call "query" (Storer.query · filter orderBy page)
  count store filter := store.call "count" (Storer.count · filter)
  byId store id := store.call "query_by_id" (Storer.byId · id)
  byEmail store email := store.call "query_by_email" (Storer.byEmail · email)

end LayeredStore

end Accounts

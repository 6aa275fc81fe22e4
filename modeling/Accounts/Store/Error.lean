import Accounts.Fault

/-!
# Errors of stores and transactions

Every error has a text of its own and the texts of its causes, and the text of an error that has
a cause ends in that of the cause.
-/

namespace Accounts

inductive TxError
  | completed
  /-- The staged writes no longer fit the shared rows. -/
  | conflict (reason : String)
  | backend (fault : Fault)
  deriving DecidableEq, Repr

namespace TxError

def message : TxError → String
  | .completed => "transaction already completed"
  | .conflict reason => "transaction conflict: " ++ reason
  | .backend fault => "transaction backend: " ++ fault.text

def causes : TxError → List String
  | .backend fault => fault.chain
  | _ => []

end TxError

inductive StoreError
  | notFound
  | uniqueEmail
  | tx (error : TxError)
  | backend (fault : Fault)
  deriving DecidableEq, Repr

namespace StoreError

def message : StoreError → String
  | .notFound => "user not found"
  | .uniqueEmail => "email is not unique"
  | .tx error => "transaction: " ++ error.message
  | .backend fault => "storage: " ++ fault.text

def causes : StoreError → List String
  | .tx error => error.message :: error.causes
  | .backend fault => fault.chain
  | _ => []

/-- A failure of the store itself, which nothing caused. -/
def ofText (text : String) : StoreError :=
  .backend (.ofText text)

end StoreError

end Accounts

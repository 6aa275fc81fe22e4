import Accounts.Slot
import Accounts.Store.Database
import Accounts.Store.Storer

/-!
# Stores in memory

A store in memory reads and writes a database that is kept in a slot of the state, either its
shared rows or those of a transaction.
-/

namespace Accounts

structure MemoryStore (σ : Type) where
  /-- The number of the database, by which its transactions are known. -/
  number : Nat
  database : Slot σ Database
  scope : Scope

namespace MemoryStore

variable {σ : Type}

/-- The store of the shared rows of a database. -/
def shared (number : Nat) (database : Slot σ Database) : MemoryStore σ :=
  ⟨number, database, .shared⟩

/-- The rows that the store shows. -/
def rows (store : MemoryStore σ) : Operation σ StoreError Table := do
  Operation.ofExcept ((← store.database.read).visible store.scope)

def change (store : MemoryStore σ) (check : Table → Except StoreError Change) :
    Operation σ StoreError Unit := do
  let d ← store.database.read
  store.database.write (← Operation.ofExcept (d.change check store.scope))

/-- A store can be bound to the transactions of its own database, bound or ended as it may be. -/
def newWithTx (store : MemoryStore σ) : TxHandle → Except StoreError (MemoryStore σ)
  | .foreign => .error (.ofText "unsupported transaction handle")
  | .memory database tx =>
    if database = store.number then .ok { store with scope := .inside tx }
    else .error (.ofText "transaction belongs to a different store")

def query (store : MemoryStore σ) (filter : Filter) (orderBy : OrderBy) (page : Page) :
    Operation σ StoreError (List User) := do
  let users ← Operation.ofExcept (Listing.select (← store.rows) filter orderBy page)
  Operation.emit (.debug "memory store query" [("rows", toString users.length)])
  return users

/-- The row that was looked for. -/
def found : Option User → Operation σ StoreError User
  | some user => return user
  | none => Operation.fail .notFound

instance : Storer σ (MemoryStore σ) where
  newWithTx store handle := Operation.ofExcept (store.newWithTx handle)
  create store user := store.change (Change.create user)
  update store user := store.change (Change.update user)
  delete store user := store.change (Change.delete user)
  query := query
  count store filter := return Listing.count (← store.rows) filter
  byId store id := do found ((← store.rows).find? id)
  byEmail store email := do found (Table.byEmail? (← store.rows) email)

/-- Opens a transaction on a database under a number of its own. -/
def begin {ε : Type} (database : Slot σ Database) (tx : Nat) : Operation σ ε Unit := do
  database.write ((← database.read).begin tx)

/-- Ends a transaction in one of two ways, and reports how many rows it wrote. -/
def finish (database : Slot σ Database) (how : String)
    (finish : Database → Except TxError Nat × Database) : Operation σ TxError Unit := do
  let (result, d) := finish (← database.read)
  database.write d
  let rows ← Operation.ofExcept result
  Operation.emit (.debug ("memory tx " ++ how) [("rows", toString rows)])

def commit (database : Slot σ Database) (tx : Nat) : Operation σ TxError Unit :=
  finish database "commit" (·.commit tx)

def rollback (database : Slot σ Database) (tx : Nat) : Operation σ TxError Unit :=
  finish database "rollback" (·.rollback tx)

end MemoryStore

namespace TxHandle

variable {σ : Type}

/-- Commits a transaction on one of many databases. Those of other systems always succeed. -/
def commit (database : Nat → Slot σ Database) : TxHandle → Operation σ TxError Unit
  | .memory number tx => MemoryStore.commit (database number) tx
  | .foreign => return ()

def rollback (database : Nat → Slot σ Database) : TxHandle → Operation σ TxError Unit
  | .memory number tx => MemoryStore.rollback (database number) tx
  | .foreign => return ()

end TxHandle

end Accounts

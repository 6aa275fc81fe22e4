import Accounts.Store.Listing

/-!
# Databases with optimistic transactions

A database holds shared rows and transactions with staged writes. Inside of a transaction its
writes lie over the shared rows. A commit applies all of them or, if a row has changed since the
transaction first wrote to it or an address would occur twice, none. Either way it ends the
transaction.
-/

namespace Accounts

/-- What a transaction has written to one id. -/
structure Staged where
  /-- The shared row when the transaction first wrote to the id. -/
  base : Option User
  /-- The row as the transaction left it. -/
  row : Option User
  deriving DecidableEq, Repr

abbrev Writes := Keyed Uuid Staged

/-- Where the operations of a store take place. -/
inductive Scope
  | shared
  | inside (tx : Nat)
  deriving DecidableEq, Repr

/-- A write to one row. -/
inductive Change
  | put (user : User)
  | remove (id : Uuid)
  deriving DecidableEq, Repr

namespace Change

def id : Change → Uuid
  | .put user => user.id
  | .remove id => id

def row : Change → Option User
  | .put user => some user
  | .remove _ => none

end Change

/-- Whether another row than that of `except` has an address. -/
def Table.emailTaken (rows : Table) (email : Email) (except : Uuid) : Bool :=
  rows.values.any fun u => u.id ≠ except ∧ u.email = email

def Table.byEmail? (rows : Table) (email : Email) : Option User :=
  rows.values.find? (·.email = email)

/-- The rows with the writes of a transaction over them. -/
def Table.overlay (rows : Table) (writes : Writes) : Table :=
  writes.entries.foldl (fun rows (id, staged) => rows.assign id staged.row) rows

namespace Change

/-- An id and an address are used once. -/
def create (user : User) (rows : Table) : Except StoreError Change :=
  if rows.contains user.id then .error (.ofText ("duplicate user id: " ++ user.id.text))
  else if Table.emailTaken rows user.email user.id then .error .uniqueEmail
  else .ok (.put user)

def update (user : User) (rows : Table) : Except StoreError Change :=
  if !rows.contains user.id then .error .notFound
  else if Table.emailTaken rows user.email user.id then .error .uniqueEmail
  else .ok (.put user)

def delete (user : User) (rows : Table) : Except StoreError Change :=
  if !rows.contains user.id then .error .notFound
  else .ok (.remove user.id)

end Change

namespace Writes

/-- Adds a change; the base of an id that has been written to before stays. -/
def stage (writes : Writes) (rows : Table) (change : Change) : Writes :=
  let base := match writes.find? change.id with
    | some staged => staged.base
    | none => rows.find? change.id
  writes.insert change.id ⟨base, change.row⟩

/-- An id whose shared row is not what it was when the transaction first wrote to it. -/
def staleId? (writes : Writes) (rows : Table) : Option Uuid :=
  (writes.entries.find? fun (id, staged) => rows.find? id ≠ staged.base).map (·.1)

/-- The address of a staged row that another row has too, once all writes are applied. -/
def sharedEmail? (writes : Writes) (rows : Table) : Option Email :=
  let merged := Table.overlay rows writes
  writes.entries.findSome? fun (id, staged) =>
    staged.row.bind fun user =>
      if Table.emailTaken merged user.email id then some user.email else none

/-- Why the writes cannot be applied to the rows. -/
def conflict? (writes : Writes) (rows : Table) : Option String :=
  match writes.staleId? rows with
  | some id => some ("user " ++ id.text ++ " changed after the transaction read it")
  | none =>
    (writes.sharedEmail? rows).map fun email => "email " ++ email.address ++ " is not unique"

end Writes

/-- The shared rows, and the transactions by their numbers, with their writes if they have not
ended. -/
structure Database where
  table : Table
  txs : Keyed Nat (Option Writes)

namespace Database

def empty : Database :=
  ⟨.empty, .empty⟩

instance : Inhabited Database := ⟨empty⟩

/-- The writes of a transaction that has been opened and has not ended. -/
def writes? (d : Database) (tx : Nat) : Option Writes :=
  (d.txs.find? tx).join

/-- The rows that a scope shows. -/
def visible (d : Database) : Scope → Except StoreError Table
  | .shared => .ok d.table
  | .inside tx =>
    match d.writes? tx with
    | some writes => .ok (Table.overlay d.table writes)
    | none => .error (.tx .completed)

/-- Writes the change that `check` allows in view of the visible rows. -/
def change (d : Database) (check : Table → Except StoreError Change) :
    Scope → Except StoreError Database
  | .shared => do
    let change ← check d.table
    return { d with table := d.table.assign change.id change.row }
  | .inside tx =>
    match d.writes? tx with
    | some writes => do
      let change ← check (Table.overlay d.table writes)
      return { d with txs := d.txs.insert tx (some (writes.stage d.table change)) }
    | none => .error (.tx .completed)

/-- Opens a transaction under a number of its own. A number that has been used before stays what
it is. -/
def begin (d : Database) (tx : Nat) : Database :=
  if d.txs.contains tx then d else { d with txs := d.txs.insert tx (some .empty) }

/-- Marks a transaction as ended. -/
def finish (d : Database) (tx : Nat) : Database :=
  { d with txs := d.txs.insert tx none }

/-- Ends a transaction with its writes applied, and says how many these were. -/
def commit (d : Database) (tx : Nat) : Except TxError Nat × Database :=
  match d.writes? tx with
  | none => (.error .completed, d)
  | some writes =>
    match writes.conflict? d.table with
    | some reason => (.error (.conflict reason), d.finish tx)
    | none => (.ok writes.size, { d.finish tx with table := Table.overlay d.table writes })

/-- Ends a transaction without its writes, and says how many these were. -/
def rollback (d : Database) (tx : Nat) : Except TxError Nat × Database :=
  match d.writes? tx with
  | none => (.error .completed, d)
  | some writes => (.ok writes.size, d.finish tx)

end Database

end Accounts

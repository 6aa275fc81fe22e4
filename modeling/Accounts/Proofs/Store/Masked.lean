import Accounts.Proofs.Alike
import Accounts.Proofs.Store.History

/-!
# Rows without their hashes

Masked rows, writes and databases are the same but for the password hashes, of which none is left.
Nothing that a store does depends on a hash: what it does to masked rows is what it does to the
rows, masked.
-/

namespace Accounts

def User.masked (u : User) : User :=
  { u with passwordHash := "" }

def Table.masked (rows : Table) : Table :=
  rows.mapValues User.masked

def Staged.masked (staged : Staged) : Staged :=
  ⟨staged.base.map User.masked, staged.row.map User.masked⟩

def Writes.masked (writes : Writes) : Writes :=
  writes.mapValues Staged.masked

def Database.masked (d : Database) : Database :=
  ⟨d.table.masked, d.txs.mapValues (Option.map Writes.masked)⟩

def Change.masked : Change → Change
  | .put user => .put user.masked
  | .remove id => .remove id

def Edit.masked : Edit → Edit
  | .create user => .create user.masked
  | .update user => .update user.masked
  | .delete user => .delete user.masked

def Answer.masked : Answer → Answer
  | .done => .done
  | .users list => .users (list.map User.masked)
  | .count number => .count number
  | .user u => .user u.masked

@[simp] theorem User.masked_id (u : User) : u.masked.id = u.id := rfl

@[simp] theorem User.masked_email (u : User) : u.masked.email = u.email := rfl

theorem User.id_eq_of_masked {u u' : User} (h : u.masked = u'.masked) : u.id = u'.id := by
  simpa using congrArg User.id h

@[simp] theorem Change.masked_id (change : Change) : change.masked.id = change.id := by
  cases change <;> rfl

theorem Change.masked_row (change : Change) : change.masked.row = change.row.map User.masked := by
  cases change <;> rfl

-- ---------------------------------------------------------------------------
-- Rows
-- ---------------------------------------------------------------------------

namespace Table

theorem find?_masked (rows : Table) (id : Uuid) :
    rows.masked.find? id = (rows.find? id).map User.masked :=
  Keyed.find?_mapValues ..

theorem contains_masked (rows : Table) (id : Uuid) : rows.masked.contains id = rows.contains id :=
  Keyed.contains_mapValues ..

theorem values_masked (rows : Table) : rows.masked.values = rows.values.map User.masked :=
  Keyed.values_mapValues ..

theorem emailTaken_masked (rows : Table) (email : Email) (except : Uuid) :
    rows.masked.emailTaken email except = rows.emailTaken email except := by
  rw [emailTaken, values_masked, List.any_map]
  rfl

theorem byEmail?_masked (rows : Table) (email : Email) :
    rows.masked.byEmail? email = (rows.byEmail? email).map User.masked := by
  rw [byEmail?, values_masked, List.find?_map]
  rfl

theorem overlay_masked (rows : Table) (writes : Writes) :
    (rows.overlay writes).masked = rows.masked.overlay writes.masked := by
  have hfold : ∀ (entries : List (Uuid × Staged)) (rows : Table),
      masked (entries.foldl (fun rows entry => rows.assign entry.1 entry.2.row) rows) =
        (entries.map fun entry => (entry.1, entry.2.masked)).foldl
          (fun rows entry => rows.assign entry.1 entry.2.row) rows.masked := by
    intro entries
    induction entries with
    | nil => exact fun _ => rfl
    | cons entry rest ih =>
      intro rows
      rw [List.foldl_cons, ih, masked, Keyed.mapValues_assign]
      rfl
  exact hfold writes.entries rows

end Table

namespace Change

variable (user : User) (rows : Table)

theorem create_masked : create user.masked rows.masked = (create user rows).map masked := by
  rw [create, User.masked_id, User.masked_email, Table.contains_masked, Table.emailTaken_masked,
    create]
  split
  · rfl
  · split <;> rfl

theorem update_masked : update user.masked rows.masked = (update user rows).map masked := by
  rw [update, User.masked_id, User.masked_email, Table.contains_masked, Table.emailTaken_masked,
    update]
  split
  · rfl
  · split <;> rfl

theorem delete_masked : delete user.masked rows.masked = (delete user rows).map masked := by
  rw [delete, User.masked_id, Table.contains_masked, delete]
  split <;> rfl

end Change

theorem Edit.check_masked (e : Edit) (rows : Table) :
    e.masked.check rows.masked = (e.check rows).map Change.masked := by
  cases e with
  | create user => exact Change.create_masked user rows
  | update user => exact Change.update_masked user rows
  | delete user => exact Change.delete_masked user rows

-- ---------------------------------------------------------------------------
-- Databases
-- ---------------------------------------------------------------------------

theorem Writes.stage_masked (writes : Writes) (rows : Table) (change : Change) :
    (writes.stage rows change).masked = writes.masked.stage rows.masked change.masked := by
  rw [stage, masked, Keyed.mapValues_insert, stage, Change.masked_id, Change.masked_row,
    masked, Keyed.find?_mapValues, Table.find?_masked]
  cases writes.find? change.id <;> rfl

namespace Database

variable (d : Database) (scope : Scope)

theorem writes?_masked (tx : Nat) : d.masked.writes? tx = (d.writes? tx).map Writes.masked := by
  rw [writes?, masked, Keyed.find?_mapValues, writes?]
  obtain _ | _ | _ := d.txs.find? tx <;> rfl

theorem visible_masked : d.masked.visible scope = (d.visible scope).map Table.masked := by
  cases scope with
  | shared => rfl
  | inside tx =>
    rw [visible, writes?_masked, visible]
    cases d.writes? tx with
    | none => rfl
    | some writes => exact congrArg Except.ok (Table.overlay_masked ..).symm

theorem change_masked (e : Edit) :
    d.masked.change e.masked.check scope = (d.change e.check scope).map masked := by
  cases scope with
  | shared =>
    have hcheck : e.masked.check d.masked.table = (e.check d.table).map Change.masked :=
      Edit.check_masked e d.table
    rw [change, hcheck, change]
    cases e.check d.table with
    | error error => rfl
    | ok made =>
      have htable : Table.masked (d.table.assign made.id made.row) =
          d.table.masked.assign made.id (made.row.map User.masked) :=
        Keyed.mapValues_assign ..
      simp only [Except.map, bind, Except.bind, pure, Except.pure, Change.masked_id,
        Change.masked_row, masked, htable]
  | inside tx =>
    rw [change, writes?_masked, change]
    cases d.writes? tx with
    | none => rfl
    | some writes =>
      have hcheck : e.masked.check (d.masked.table.overlay writes.masked) =
          (e.check (d.table.overlay writes)).map Change.masked := by
        rw [← Edit.check_masked, Table.overlay_masked]
        rfl
      simp only [Option.map_some, hcheck]
      cases e.check (d.table.overlay writes) with
      | error error => rfl
      | ok made =>
        simp only [Except.map, bind, Except.bind, pure, Except.pure, masked,
          Keyed.mapValues_insert, Option.map_some, Writes.stage_masked]

end Database

-- ---------------------------------------------------------------------------
-- Readings
-- ---------------------------------------------------------------------------

namespace Listing

variable (rows : Table) (filter : Filter)

theorem sorted_masked (field : SortField) (direction : Direction) :
    sorted rows.masked filter field direction =
      (sorted rows filter field direction).map User.masked := by
  rw [sorted, Table.values_masked, List.filter_map, sorted, List.map_mergeSort]
  · rfl
  · intro a _ b _
    cases field <;> rfl

theorem page_map (users : List User) (p : Page) :
    page (users.map User.masked) p = (page users p).map User.masked := by
  rw [page, page, List.map_take, List.map_drop]

theorem select_masked (orderBy : OrderBy) (p : Page) :
    select rows.masked filter orderBy p =
      (select rows filter orderBy p).map (List.map User.masked) := by
  rw [select, select]
  cases SortField.ofName? orderBy.field with
  | none => rfl
  | some field =>
    dsimp only
    rw [sorted_masked, page_map]
    rfl

theorem count_masked : count rows.masked filter = count rows filter := by
  rw [count, Table.values_masked, List.countP_map]
  rfl

end Listing

end Accounts

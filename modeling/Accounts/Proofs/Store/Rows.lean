import Accounts.Proofs.Keyed
import Accounts.Store.Database

/-!
# Rows and the changes to them

What the checks of an edit and the merge of staged writes mean for the rows under every id. A
table is in order if every row stands under its own id and no two rows have the same address.
Edits that pass their checks keep it so, and a merge does if no address is then shared.
-/

namespace Accounts

/-- Every row stands under its own id. -/
def OwnIds (view : Uuid → Option User) : Prop :=
  ∀ ⦃id u⦄, view id = some u → u.id = id

/-- No two rows have the same address. -/
def UniqueEmails (view : Uuid → Option User) : Prop :=
  ∀ ⦃i j u v⦄, view i = some u → view j = some v → u.email = v.email → i = j

/-- What a store is asked to write. -/
inductive Edit
  | create (user : User)
  | update (user : User)
  | delete (user : User)
  deriving DecidableEq, Repr

namespace Edit

/-- The change that is made if nothing speaks against it. -/
def change : Edit → Change
  | .create user => .put user
  | .update user => .put user
  | .delete user => .remove user.id

def check : Edit → Table → Except StoreError Change
  | .create user => Change.create user
  | .update user => Change.update user
  | .delete user => Change.delete user

def id (e : Edit) : Uuid :=
  e.change.id

/-- The row that is left under the id. -/
def row (e : Edit) : Option User :=
  e.change.row

end Edit

-- ---------------------------------------------------------------------------
-- Addresses
-- ---------------------------------------------------------------------------

namespace Table

variable {rows rows' : Table}

theorem emailTaken_same (h : rows.Same rows') (email : Email) (except : Uuid) :
    rows.emailTaken email except = rows'.emailTaken email except :=
  h.values_perm.any_eq

/-- In a table whose rows stand under their own ids. -/
theorem emailTaken_iff (h : OwnIds rows.find?) {email : Email} {except : Uuid} :
    rows.emailTaken email except = true ↔
      ∃ id u, rows.find? id = some u ∧ id ≠ except ∧ u.email = email := by
  simp only [Table.emailTaken, List.any_eq_true, Keyed.mem_values_iff, decide_eq_true_eq]
  constructor
  · rintro ⟨u, ⟨id, hu⟩, hne, he⟩
    exact ⟨id, u, hu, h hu ▸ hne, he⟩
  · rintro ⟨id, u, hu, hne, he⟩
    exact ⟨u, ⟨id, hu⟩, (h hu).symm ▸ hne, he⟩

end Table

-- ---------------------------------------------------------------------------
-- Edits
-- ---------------------------------------------------------------------------

theorem Change.id_of_row {change : Change} {u : User} (h : change.row = some u) :
    u.id = change.id := by
  cases change with
  | put user =>
    cases h
    rfl
  | remove id => cases h

namespace Edit

variable {e : Edit} {rows rows' : Table}

theorem id_of_row {u : User} (h : e.row = some u) : u.id = e.id :=
  Change.id_of_row h

/-- A check depends on what is found in the table only. -/
theorem check_same (h : rows.Same rows') (e : Edit) : e.check rows = e.check rows' := by
  cases e with
  | create user =>
    simp only [check, Change.create, h.contains, Table.emailTaken_same h]
  | update user =>
    simp only [check, Change.update, h.contains, Table.emailTaken_same h]
  | delete user => simp only [check, Change.delete, h.contains]

/-- An edit that passes its check makes its change, and gives no row an address that another
row has. -/
theorem check_ok {change : Change} (h : e.check rows = .ok change) :
    change = e.change ∧ ∀ u, e.row = some u → rows.emailTaken u.email u.id = false := by
  cases e with
  | create user =>
    simp only [check, Change.create] at h
    split at h
    · cases h
    · split at h
      · cases h
      · rename_i ht
        cases h
        refine ⟨rfl, ?_⟩
        rintro u ⟨⟩
        exact Bool.eq_false_iff.mpr ht
  | update user =>
    simp only [check, Change.update] at h
    split at h
    · cases h
    · split at h
      · cases h
      · rename_i ht
        cases h
        refine ⟨rfl, ?_⟩
        rintro u ⟨⟩
        exact Bool.eq_false_iff.mpr ht
  | delete user =>
    simp only [check, Change.delete] at h
    split at h
    · cases h
    · cases h
      refine ⟨rfl, ?_⟩
      rintro u ⟨⟩

/-- Only what is there can be updated or deleted. -/
theorem mem_of_check {change : Change} (h : e.check rows = .ok change)
    (hn : ∀ user, e ≠ .create user) : ∃ row, rows.find? e.id = some row := by
  cases e with
  | create user => exact absurd rfl (hn user)
  | update user =>
    simp only [check, Change.update] at h
    split at h
    · cases h
    · rename_i hc
      rw [Bool.not_eq_true', Bool.not_eq_false] at hc
      exact Keyed.contains_iff.mp hc
  | delete user =>
    simp only [check, Change.delete] at h
    split at h
    · cases h
    · rename_i hc
      rw [Bool.not_eq_true', Bool.not_eq_false] at hc
      exact Keyed.contains_iff.mp hc

end Edit

-- ---------------------------------------------------------------------------
-- Assignments
-- ---------------------------------------------------------------------------

section
variable {rows : Table} {id : Uuid} {row : Option User}

theorem OwnIds.assign (h : OwnIds rows.find?) (hr : ∀ u, row = some u → u.id = id) :
    OwnIds (rows.assign id row).find? := by
  intro i u hu
  rw [Keyed.find?_assign] at hu
  split at hu
  · rename_i hi
    exact (hr u hu).trans hi
  · exact h hu

theorem UniqueEmails.assign (ho : OwnIds rows.find?) (h : UniqueEmails rows.find?)
    (hr : ∀ u, row = some u → u.id = id)
    (hf : ∀ u, row = some u → rows.emailTaken u.email u.id = false) :
    UniqueEmails (rows.assign id row).find? := by
  -- a row under another id does not have the address of the new one
  have hother : ∀ {j u v}, row = some u → id ≠ j → rows.find? j = some v → u.email ≠ v.email := by
    intro j u v hu hj hv he
    refine Bool.eq_false_iff.mp (hf u hu) ((Table.emailTaken_iff ho).mpr ⟨j, v, hv, ?_, he.symm⟩)
    rw [hr u hu]
    exact Ne.symm hj
  intro i j u v hu hv he
  rw [Keyed.find?_assign] at hu hv
  split at hu <;> split at hv
  · rename_i hi hj
    exact hi.symm.trans hj
  · rename_i hi hj
    exact absurd he (hother hu hj hv)
  · rename_i hi hj
    exact absurd he.symm (hother hv hi hu)
  · exact h hu hv he

end

end Accounts

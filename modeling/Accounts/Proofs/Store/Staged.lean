import Accounts.Proofs.Store.Rows

/-!
# Staged writes over shared rows

A transaction sees its own writes over the shared rows, so that staging a change does to what it
sees what the change would do to the rows themselves. The writes can be applied if the shared
rows under their ids are still the bases of the writes and the merged table shares no address.
-/

namespace Accounts

/-- The row that staged writes leave under an id. -/
def Writes.row? (writes : Writes) (id : Uuid) : Option User :=
  (writes.find? id).bind (·.row)

/-- The shared rows under the written ids are still those that the writes were based on. -/
def Writes.Fresh (writes : Writes) (rows : Table) : Prop :=
  ∀ ⦃id staged⦄, writes.find? id = some staged → rows.find? id = staged.base

section
variable {rows rows' : Table} {writes : Writes} {change : Change}

-- ---------------------------------------------------------------------------
-- What a transaction sees
-- ---------------------------------------------------------------------------

theorem Table.find?_overlay (rows : Table) (writes : Writes) (id : Uuid) :
    (rows.overlay writes).find? id =
      (writes.find? id).elim (rows.find? id) (·.row) :=
  Keyed.find?_foldl_assign Staged.row writes.entries writes.nodup rows id

theorem Table.find?_overlay_written {id : Uuid} {staged : Staged}
    (h : writes.find? id = some staged) : (rows.overlay writes).find? id = staged.row := by
  rw [Table.find?_overlay, h, Option.elim_some]

theorem Table.find?_overlay_untouched {id : Uuid} (h : writes.find? id = none) :
    (rows.overlay writes).find? id = rows.find? id := by
  rw [Table.find?_overlay, h, Option.elim_none]

theorem Table.overlay_empty (rows : Table) : (rows.overlay .empty).Same rows :=
  fun _ => rfl

theorem Table.overlay_same (h : rows.Same rows') (writes : Writes) :
    (rows.overlay writes).Same (rows'.overlay writes) := by
  intro id
  rw [Table.find?_overlay, Table.find?_overlay, h id]

theorem OwnIds.overlay (h : OwnIds rows.find?) (hw : OwnIds writes.row?) :
    OwnIds (rows.overlay writes).find? := by
  intro id u hu
  cases hs : writes.find? id with
  | none =>
    rw [Table.find?_overlay_untouched hs] at hu
    exact h hu
  | some staged =>
    rw [Table.find?_overlay_written hs] at hu
    exact hw (by simp [Writes.row?, hs, hu])

-- ---------------------------------------------------------------------------
-- Staging
-- ---------------------------------------------------------------------------

theorem Writes.find?_stage (writes : Writes) (rows : Table) (change : Change) (id : Uuid) :
    (writes.stage rows change).find? id =
      if change.id = id then
        some ⟨((writes.find? id).map (·.base)).getD (rows.find? id), change.row⟩
      else writes.find? id := by
  rw [Writes.stage, Keyed.find?_insert]
  split
  · rename_i h
    subst h
    cases writes.find? change.id <;> rfl
  · rfl

theorem OwnIds.stage (hw : OwnIds writes.row?) (rows : Table) (change : Change) :
    OwnIds (writes.stage rows change).row? := by
  intro id u hu
  rw [Writes.row?, Writes.find?_stage] at hu
  split at hu
  · rename_i h
    exact (Change.id_of_row hu).trans h
  · exact hw hu

/-- Staging a change does to what the transaction sees what the change does to a table. -/
theorem Table.overlay_stage (rows base : Table) (writes : Writes) (change : Change) :
    (rows.overlay (writes.stage base change)).Same
      ((rows.overlay writes).assign change.id change.row) := by
  intro id
  rw [Keyed.find?_assign, Table.find?_overlay, Writes.find?_stage]
  split
  · rfl
  · rw [Table.find?_overlay]

theorem Writes.Fresh.empty (rows : Table) : Writes.Fresh .empty rows := by
  intro id staged h
  cases h

theorem Writes.Fresh.same (h : writes.Fresh rows) (hs : rows'.Same rows) : writes.Fresh rows' :=
  fun id _ hw => (hs id).trans (h hw)

/-- What is staged from the shared rows as they are is based on them. -/
theorem Writes.Fresh.stage (h : writes.Fresh rows) (change : Change) :
    (writes.stage rows change).Fresh rows := by
  intro id staged hw
  rw [Writes.find?_stage] at hw
  split at hw
  · cases hw
    cases hb : writes.find? id with
    | none => rfl
    | some staged => simpa using h hb
  · exact h hw

-- ---------------------------------------------------------------------------
-- Merging
-- ---------------------------------------------------------------------------

theorem Writes.staleId?_eq_none_iff : writes.staleId? rows = none ↔ writes.Fresh rows := by
  simp only [Writes.staleId?, Option.map_eq_none_iff, List.find?_eq_none, decide_eq_true_eq,
    not_not, Prod.forall, ← Keyed.find?_eq_some_iff, Writes.Fresh]

theorem Writes.sharedEmail?_eq_none_iff : writes.sharedEmail? rows = none ↔
    ∀ ⦃id staged u⦄, writes.find? id = some staged → staged.row = some u →
      (rows.overlay writes).emailTaken u.email id = false := by
  simp only [Writes.sharedEmail?, List.findSome?_eq_none_iff, Prod.forall,
    ← Keyed.find?_eq_some_iff, Option.bind_eq_none_iff, ite_eq_right_iff, reduceCtorEq, imp_false,
    Bool.not_eq_true]
  exact ⟨fun h id staged u hs => h id staged hs u, fun h id staged hs u => h hs⟩

/-- A merge shares no address if no address of a written row is shared, since the other rows
shared none before. -/
theorem Writes.sharedEmail?_eq_none_iff_unique (ho : OwnIds rows.find?)
    (hu : UniqueEmails rows.find?) (hw : OwnIds writes.row?) :
    writes.sharedEmail? rows = none ↔ UniqueEmails (rows.overlay writes).find? := by
  have hm := ho.overlay hw
  rw [Writes.sharedEmail?_eq_none_iff]
  constructor
  · intro h
    -- the row under a written id has an address of its own
    have hown : ∀ {i j u v staged}, writes.find? i = some staged →
        (rows.overlay writes).find? i = some u →
        (rows.overlay writes).find? j = some v → u.email = v.email → i = j := by
      intro i j u v staged hi hui hvj he
      rw [Table.find?_overlay_written hi] at hui
      by_contra hij
      exact Bool.eq_false_iff.mp (h hi hui)
        ((Table.emailTaken_iff hm).mpr ⟨j, v, hvj, Ne.symm hij, he.symm⟩)
    intro i j u v hui hvj he
    cases hi : writes.find? i with
    | some staged => exact hown hi hui hvj he
    | none =>
      cases hj : writes.find? j with
      | some staged => exact (hown hj hvj hui he.symm).symm
      | none =>
        rw [Table.find?_overlay_untouched hi] at hui
        rw [Table.find?_overlay_untouched hj] at hvj
        exact hu hui hvj he
  · intro h id staged u hs hr
    rw [Bool.eq_false_iff]
    intro ht
    obtain ⟨j, v, hv, hne, he⟩ := (Table.emailTaken_iff hm).mp ht
    exact hne (h hv ((Table.find?_overlay_written hs).trans hr) he)

theorem Writes.conflict?_eq_none_iff (ho : OwnIds rows.find?) (hu : UniqueEmails rows.find?)
    (hw : OwnIds writes.row?) :
    writes.conflict? rows = none ↔
      writes.Fresh rows ∧ UniqueEmails (rows.overlay writes).find? := by
  rw [← Writes.staleId?_eq_none_iff, ← Writes.sharedEmail?_eq_none_iff_unique ho hu hw,
    Writes.conflict?]
  cases writes.staleId? rows with
  | some id => simp
  | none => simp

end

end Accounts

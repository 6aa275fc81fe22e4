import Accounts.Proofs.Store.Integrity

/-!
# Where rows come from

Rows get into a database by edits only, and ids by creates. An id that is missing in the shared
rows gets there by a create, or by the commit of a transaction that had found it missing too: the
writes of a transaction that had found a row there no longer fit.
-/

namespace Accounts

namespace Database

/-- The row is shared or staged. -/
def Holds (d : Database) (u : User) : Prop :=
  (∃ id, d.table.find? id = some u) ∨
    ∃ tx writes id, d.writes? tx = some writes ∧ writes.row? id = some u

/-- There is a shared row or a staged write under the id. -/
def Mentions (d : Database) (id : Uuid) : Prop :=
  (∃ u, d.table.find? id = some u) ∨
    ∃ tx writes staged, d.writes? tx = some writes ∧ writes.find? id = some staged

/-- The transaction has written to the id, and when it first did there was no shared row. -/
def Brings (d : Database) (tx : Nat) (id : Uuid) : Prop :=
  ∃ writes staged, d.writes? tx = some writes ∧ writes.find? id = some staged ∧
    staged.base = none

variable {d : Database} {id : Uuid} {u : User}

theorem Brings.mentions {tx : Nat} (h : d.Brings tx id) : d.Mentions id := by
  obtain ⟨writes, staged, hw, hs, -⟩ := h
  exact .inr ⟨tx, writes, staged, hw, hs⟩

theorem not_holds_empty (u : User) : ¬ empty.Holds u := by
  rintro (⟨id, h⟩ | ⟨tx, writes, id, h, -⟩) <;> cases h

theorem not_mentions_empty (id : Uuid) : ¬ empty.Mentions id := by
  rintro (⟨u, h⟩ | ⟨tx, writes, staged, h, -⟩) <;> cases h

theorem holds_overlay {tx : Nat} {writes : Writes} (hw : d.writes? tx = some writes)
    (hu : (d.table.overlay writes).find? id = some u) : d.Holds u := by
  cases hs : writes.find? id with
  | none => exact .inl ⟨id, (Table.find?_overlay_untouched hs).symm.trans hu⟩
  | some staged =>
    refine .inr ⟨tx, writes, id, hw, ?_⟩
    rw [Writes.row?, hs]
    exact (Table.find?_overlay_written hs).symm.trans hu

theorem mentions_overlay {tx : Nat} {writes : Writes} (hw : d.writes? tx = some writes)
    (hu : (d.table.overlay writes).find? id = some u) : d.Mentions id := by
  cases hs : writes.find? id with
  | none => exact .inl ⟨u, (Table.find?_overlay_untouched hs).symm.trans hu⟩
  | some staged => exact .inr ⟨tx, writes, staged, hw, hs⟩

theorem holds_of_visible {scope : Scope} {rows : Table} (hv : d.visible scope = .ok rows)
    (hu : rows.find? id = some u) : d.Holds u := by
  cases scope with
  | shared =>
    cases hv
    exact .inl ⟨id, hu⟩
  | inside tx =>
    rw [visible] at hv
    split at hv
    · rename_i writes hw
      cases hv
      exact holds_overlay hw hu
    · cases hv

end Database

section
variable {d d' : Database} {step : Step} {result : Except StepError Answer}

/-- What can become of the shared rows: nothing, an edit of them, or a merge. -/
theorem Effect.table_cases (he : Effect d step result d') :
    d'.table = d.table ∨
      (∃ e, step = .call .shared (.edit e) ∧ e.check d.table = .ok e.change ∧
        d'.table = d.table.assign e.id e.row) ∨
      ∃ tx writes, step = .commit tx ∧ d.writes? tx = some writes ∧
        writes.conflict? d.table = none ∧ d'.table = d.table.overlay writes ∧
        d'.writes? tx = none := by
  cases he with
  | edited hc => exact .inr (.inl ⟨_, rfl, hc, rfl⟩)
  | committed hw hc =>
    exact .inr (.inr ⟨_, _, rfl, hw, hc, rfl, (d.writes?_insert ..).trans (if_pos rfl)⟩)
  | _ => exact .inl rfl

theorem Database.writes?_finish {tx t : Nat} {writes : Writes} (rows : Table)
    (h : ({ d.finish t with table := rows } : Database).writes? tx = some writes) :
    d.writes? tx = some writes := by
  have h : (if t = tx then none else d.writes? tx) = some writes :=
    (Database.writes?_insert d t none tx).symm.trans h
  split at h
  · cases h
  · exact h

/-- What can have become of the writes of a transaction that is still open: nothing, they are
its first, or an edit has been added to them. -/
theorem Effect.writes_cases (he : Effect d step result d') {tx : Nat} {writes : Writes}
    (hw : d'.writes? tx = some writes) :
    d.writes? tx = some writes ∨ writes = .empty ∨
      ∃ e old, step = .call (.inside tx) (.edit e) ∧ d.writes? tx = some old ∧
        e.check (d.table.overlay old) = .ok e.change ∧ writes = old.stage d.table e.change := by
  cases he with
  | edited | beganBefore | bound | read | refused => exact .inl hw
  | began =>
    rw [Database.writes?_insert] at hw
    split at hw
    · cases hw
      exact .inr (.inl rfl)
    · exact .inl hw
  | staged hold hc =>
    rw [Database.writes?_insert] at hw
    split at hw
    · rename_i ht
      cases hw
      subst ht
      exact .inr (.inr ⟨_, _, rfl, hold, hc, rfl⟩)
    · exact .inl hw
  | committed => exact .inl (Database.writes?_finish _ hw)
  | conflicted => exact .inl (Database.writes?_finish d.table hw)
  | rolledBack => exact .inl (Database.writes?_finish d.table hw)

-- ---------------------------------------------------------------------------
-- What a step brings in
-- ---------------------------------------------------------------------------

/-- A row that has come in is the row of an edit. -/
theorem Effect.holds (he : Effect d step result d') {u : User} (hu : d'.Holds u) :
    d.Holds u ∨ ∃ scope e, step = .call scope (.edit e) ∧ e.row = some u := by
  obtain ⟨id, hu⟩ | ⟨tx, writes, id, hw, hu⟩ := hu
  · obtain ht | ⟨e, hs, -, ht⟩ | ⟨tx, writes, -, hw, -, ht, -⟩ := he.table_cases
    · rw [ht] at hu
      exact .inl (.inl ⟨id, hu⟩)
    · rw [ht, Keyed.find?_assign] at hu
      split at hu
      · exact .inr ⟨_, e, hs, hu⟩
      · exact .inl (.inl ⟨id, hu⟩)
    · rw [ht] at hu
      exact .inl (Database.holds_overlay hw hu)
  · obtain hw | rfl | ⟨e, old, hs, hold, -, rfl⟩ := he.writes_cases hw
    · exact .inl (.inr ⟨tx, writes, id, hw, hu⟩)
    · cases hu
    · rw [Writes.row?, Writes.find?_stage] at hu
      split at hu
      · exact .inr ⟨_, e, hs, hu⟩
      · exact .inl (.inr ⟨tx, old, id, hold, hu⟩)

/-- An id that has come in is that of a new user. -/
theorem Effect.mentions (he : Effect d step result d') {id : Uuid} (hm : d'.Mentions id) :
    d.Mentions id ∨
      ∃ scope user, step = .call scope (.edit (.create user)) ∧ user.id = id := by
  -- what is updated or deleted has been there before
  have hedit : ∀ {scope e rows}, step = .call scope (.edit e) → e.id = id →
      e.check rows = .ok e.change → (∀ u, rows.find? id = some u → d.Mentions id) →
      d.Mentions id ∨
        ∃ scope user, step = .call scope (.edit (.create user)) ∧ user.id = id := by
    intro scope e rows hs hid hc hrows
    cases e with
    | create user => exact .inr ⟨scope, user, hs, hid⟩
    | update | delete =>
      obtain ⟨row, hrow⟩ := Edit.mem_of_check hc (by simp)
      rw [hid] at hrow
      exact .inl (hrows row hrow)
  obtain ⟨u, hu⟩ | ⟨tx, writes, staged, hw, hst⟩ := hm
  · obtain ht | ⟨e, hs, hc, ht⟩ | ⟨tx, writes, -, hw, -, ht, -⟩ := he.table_cases
    · rw [ht] at hu
      exact .inl (.inl ⟨u, hu⟩)
    · rw [ht, Keyed.find?_assign] at hu
      split at hu
      · rename_i hid
        exact hedit hs hid hc fun u hu => .inl ⟨u, hu⟩
      · exact .inl (.inl ⟨u, hu⟩)
    · rw [ht] at hu
      exact .inl (Database.mentions_overlay hw hu)
  · obtain hw | rfl | ⟨e, old, hs, hold, hc, rfl⟩ := he.writes_cases hw
    · exact .inl (.inr ⟨tx, writes, staged, hw, hst⟩)
    · cases hst
    · rw [Writes.find?_stage] at hst
      split at hst
      · rename_i hid
        exact hedit hs hid hc fun u hu => Database.mentions_overlay hold hu
      · exact .inl (.inr ⟨tx, old, staged, hold, hst⟩)

/-- A transaction that writes to a missing id for the first time creates a user. -/
theorem Effect.brings (he : Effect d step result d') {tx : Nat} {id : Uuid}
    (hb : d'.Brings tx id) :
    d.Brings tx id ∨ d.table.find? id = none ∧
      ∃ user, step = .call (.inside tx) (.edit (.create user)) ∧ user.id = id := by
  obtain ⟨writes, staged, hw, hst, hbase⟩ := hb
  obtain hw | rfl | ⟨e, old, hs, hold, hc, rfl⟩ := he.writes_cases hw
  · exact .inl ⟨writes, staged, hw, hst, hbase⟩
  · cases hst
  · rw [Writes.find?_stage] at hst
    split at hst
    · rename_i hid
      cases hst
      cases hf : old.find? id with
      | some first =>
        rw [hf] at hbase
        exact .inl ⟨old, first, hold, hf, hbase⟩
      | none =>
        rw [hf] at hbase
        have hmissing : (d.table.overlay old).find? id = none :=
          (Table.find?_overlay_untouched hf).trans hbase
        refine .inr ⟨hbase, ?_⟩
        cases e with
        | create user => exact ⟨user, hs, hid⟩
        | update | delete =>
          obtain ⟨row, hrow⟩ := Edit.mem_of_check hc (by simp)
          cases hmissing.symm.trans ((congrArg _ hid).symm.trans hrow)
    · exact .inl ⟨old, staged, hold, hst, hbase⟩

/-- An id that was missing in the shared rows is created there, or committed by a transaction
that has found it missing. -/
theorem Effect.arrives (he : Effect d step result d') (hd : d.Sound) {id : Uuid} {u : User}
    (hn : d.table.find? id = none) (hu : d'.table.find? id = some u) :
    (∃ user, step = .call .shared (.edit (.create user)) ∧ user.id = id) ∨
      ∃ tx, step = .commit tx ∧ d.Brings tx id ∧ d'.writes? tx = none := by
  obtain ht | ⟨e, hs, hc, ht⟩ | ⟨tx, writes, hs, hw, hc, ht, hend⟩ := he.table_cases
  · rw [ht, hn] at hu
    cases hu
  · rw [ht, Keyed.find?_assign] at hu
    split at hu
    · rename_i hid
      cases e with
      | create user => exact .inl ⟨user, hs, hid⟩
      | update | delete =>
        obtain ⟨row, hrow⟩ := Edit.mem_of_check hc (by simp)
        cases hn.symm.trans ((congrArg _ hid).symm.trans hrow)
    · rw [hn] at hu
      cases hu
  · obtain ⟨hfresh, -⟩ :=
      (Writes.conflict?_eq_none_iff hd.ownIds hd.uniqueEmails (hd.staged hw)).mp hc
    cases hst : writes.find? id with
    | none =>
      rw [ht, Table.find?_overlay_untouched hst, hn] at hu
      cases hu
    | some staged =>
      exact .inr ⟨tx, hs, ⟨writes, staged, hw, hst, (hfresh hst).symm.trans hn⟩, hend⟩

end

end Accounts

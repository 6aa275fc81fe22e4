import Accounts.Proofs.Store.History

/-!
# Databases in order

In every database that a history leaves behind, each shared or staged row stands under its own id
and no two shared rows have the same address. An edit is checked against the rows that its scope
sees, and the rows that a transaction sees may well share an address once others have changed the
shared ones; it is the check of the commit that keeps them apart.
-/

namespace Accounts

namespace Database

variable {d d' : Database}

structure Sound (d : Database) : Prop where
  ownIds : OwnIds d.table.find?
  uniqueEmails : UniqueEmails d.table.find?
  staged : ∀ ⦃tx writes⦄, d.writes? tx = some writes → OwnIds writes.row?

theorem writes?_insert (d : Database) (tx : Nat) (status : Option Writes) (t : Nat) :
    ({ d with txs := d.txs.insert tx status } : Database).writes? t =
      if tx = t then status else d.writes? t := by
  simp only [writes?, Keyed.find?_insert]
  split <;> rfl

theorem sound_empty : empty.Sound where
  ownIds := by intro id u h; cases h
  uniqueEmails := by intro i j u v h; cases h
  staged := by intro tx writes h; cases h

/-- Giving a transaction writes of rows under their own ids, or none at all. -/
theorem Sound.insert (h : d.Sound) (tx : Nat) {status : Option Writes}
    (hs : ∀ writes, status = some writes → OwnIds writes.row?) :
    ({ d with txs := d.txs.insert tx status } : Database).Sound where
  ownIds := h.ownIds
  uniqueEmails := h.uniqueEmails
  staged := by
    intro t writes hw
    rw [writes?_insert] at hw
    split at hw
    · exact hs writes hw
    · exact h.staged hw

theorem Sound.finish (h : d.Sound) (tx : Nat) : (d.finish tx).Sound :=
  h.insert tx (by rintro writes ⟨⟩)

theorem Sound.edit (h : d.Sound) {e : Edit} (hc : e.check d.table = .ok e.change) :
    ({ d with table := d.table.assign e.id e.row } : Database).Sound where
  ownIds := h.ownIds.assign fun _ => Edit.id_of_row
  uniqueEmails := h.uniqueEmails.assign h.ownIds (fun _ => Edit.id_of_row) (Edit.check_ok hc).2
  staged := h.staged

theorem Sound.merge (h : d.Sound) {writes : Writes} (hw : OwnIds writes.row?)
    (hc : writes.conflict? d.table = none) :
    ({ d with table := d.table.overlay writes } : Database).Sound where
  ownIds := h.ownIds.overlay hw
  uniqueEmails := ((Writes.conflict?_eq_none_iff h.ownIds h.uniqueEmails hw).mp hc).2
  staged := h.staged

end Database

theorem Effect.sound {d d' : Database} {step : Step} {result : Except StepError Answer}
    (he : Effect d step result d') (h : d.Sound) : d'.Sound := by
  cases he with
  | began hn =>
    refine h.insert _ ?_
    rintro writes ⟨⟩ id u hu
    cases hu
  | beganBefore => exact h
  | bound => exact h
  | read => exact h
  | refused => exact h
  | edited hc => exact h.edit hc
  | staged hw hc =>
    refine h.insert _ ?_
    rintro writes ⟨⟩
    exact (h.staged hw).stage _ _
  | committed hw hc => exact (h.merge (h.staged hw) hc).finish _
  | conflicted => exact h.finish _
  | rolledBack => exact h.finish _

namespace Database

theorem Sound.after {d : Database} (hd : d.Sound) (h : History) : (d.after h).Sound := by
  induction h generalizing d with
  | nil => exact hd
  | cons entry rest ih => exact ih ((Step.effect entry.2 entry.1 d).sound hd)

theorem sound_after_empty (h : History) : (empty.after h).Sound :=
  sound_empty.after h

/-- After every history of an empty database, however its steps interleave. -/
theorem rows_in_order (h : History) :
    let d := empty.after h
    (∀ id u, d.table.find? id = some u → u.id = id) ∧
      (∀ tx writes id staged u, d.writes? tx = some writes → writes.find? id = some staged →
        staged.row = some u → u.id = id) ∧
      ∀ i j u v, d.table.find? i = some u → d.table.find? j = some v → u.email = v.email →
        i = j := by
  have hd := sound_after_empty h
  refine ⟨fun id u => @hd.ownIds id u, ?_, fun i j u v => @hd.uniqueEmails i j u v⟩
  intro tx writes id staged u hw hs hr
  refine hd.staged hw ?_
  rw [Writes.row?, hs, Option.bind_some, hr]

end Database

end Accounts

import Accounts.Proofs.Store.Integrity
import Mathlib.Data.List.Induction

/-!
# When a commit succeeds

A commit is judged by the history alone. Of every id that the transaction has written to, the
history tells the shared row at the first write and the row of the last one; the commit succeeds
if the shared rows are still the former and the latter put in their places share no address.
-/

namespace Accounts

/-- A write of a transaction that has succeeded. -/
structure Touch where
  id : Uuid
  /-- The shared row when the write was made. -/
  shared : Option User
  /-- The row that was written; none if the row was deleted. -/
  row : Option User
  deriving DecidableEq, Repr

/-- The write that a step made in a transaction. -/
def Occurrence.touch? (tx : Nat) (o : Occurrence) : Option Touch :=
  match o.step, o.outcome.result with
  | .call (.inside t) (.edit e), .ok _ =>
    if t = tx then some ⟨e.id, o.before.table.find? e.id, e.row⟩ else none
  | _, _ => none

namespace Touch

/-- All writes of a transaction in their order. -/
def all (tx : Nat) (trace : List Occurrence) : List Touch :=
  trace.filterMap (Occurrence.touch? tx)

/-- The shared row when an id was written to for the first time. -/
def base? (touches : List Touch) (id : Uuid) : Option (Option User) :=
  (touches.find? (·.id = id)).map (·.shared)

/-- The row that was written to an id last. -/
def net? (touches : List Touch) (id : Uuid) : Option (Option User) :=
  (touches.reverse.find? (·.id = id)).map (·.row)

/-- A table with the rows that were written last in their places. -/
def merged (touches : List Touch) (rows : Table) (id : Uuid) : Option User :=
  (net? touches id).getD (rows.find? id)

theorem all_concat (tx : Nat) (trace : List Occurrence) (o : Occurrence) :
    all tx (trace ++ [o]) = all tx trace ++ (o.touch? tx).toList := by
  rw [all, List.filterMap_append]
  cases ho : o.touch? tx <;> simp [all, ho]

theorem base?_concat (touches : List Touch) (t : Touch) (id : Uuid) :
    base? (touches ++ [t]) id =
      if t.id = id then some ((base? touches id).getD t.shared) else base? touches id := by
  simp only [base?, List.find?_append]
  cases touches.find? (·.id = id) <;> by_cases h : t.id = id <;> simp [h]

theorem net?_concat (touches : List Touch) (t : Touch) (id : Uuid) :
    net? (touches ++ [t]) id = if t.id = id then some t.row else net? touches id := by
  by_cases h : t.id = id <;> simp [net?, h]

end Touch

open Touch (base? net?)

-- ---------------------------------------------------------------------------
-- Staged writes tell the history
-- ---------------------------------------------------------------------------

/-- What is staged under every id, as far as these writes tell. -/
structure Writes.Records (writes : Writes) (touches : List Touch) : Prop where
  base : ∀ id, (writes.find? id).map (·.base) = base? touches id
  row : ∀ id, (writes.find? id).map (·.row) = net? touches id

theorem Writes.records_empty : Writes.Records .empty [] :=
  ⟨fun _ => rfl, fun _ => rfl⟩

theorem Writes.Records.stage {writes : Writes} {touches : List Touch} (h : writes.Records touches)
    (rows : Table) (e : Edit) :
    (writes.stage rows e.change).Records (touches ++ [⟨e.id, rows.find? e.id, e.row⟩]) where
  base id := by
    rw [Writes.find?_stage, Touch.base?_concat, ← h.base]
    split
    · rename_i hid
      have he : e.id = id := hid
      simp [he]
    · rename_i hid
      exact (if_neg hid).symm
  row id := by
    rw [Writes.find?_stage, Touch.net?_concat, ← h.row]
    split
    · rename_i hid
      exact (if_pos hid).symm
    · rename_i hid
      exact (if_neg hid).symm

section
variable {writes : Writes} {touches : List Touch}

theorem Writes.Records.find?_overlay (h : writes.Records touches) (rows : Table) :
    (rows.overlay writes).find? = Touch.merged touches rows := by
  funext id
  rw [Touch.merged, ← h.row, Table.find?_overlay]
  cases writes.find? id <;> rfl

theorem Writes.Records.fresh_iff (h : writes.Records touches) {rows : Table} :
    writes.Fresh rows ↔ ∀ id base, base? touches id = some base → rows.find? id = base := by
  constructor
  · intro hf id base hb
    rw [← h.base] at hb
    obtain ⟨staged, hs, rfl⟩ := Option.map_eq_some_iff.mp hb
    exact hf hs
  · intro hb id staged hs
    exact hb id staged.base (by rw [← h.base, hs, Option.map_some])

end

/-- The state of a transaction fits the writes that it has made: before it is opened it has made
none, and while it is open they are what is staged. -/
structure Database.Records (d : Database) (tx : Nat) (touches : List Touch) : Prop where
  unopened : d.txs.find? tx = none → touches = []
  opened : ∀ writes, d.writes? tx = some writes → writes.Records touches

theorem Database.records_empty (tx : Nat) : empty.Records tx [] where
  unopened _ := rfl
  opened := by rintro writes ⟨⟩

section
variable {d d' : Database} {tx : Nat} {touches : List Touch}

/-- Nothing but the status of the transaction counts. -/
theorem Database.Records.congr (h : d.Records tx touches) (ht : d'.txs.find? tx = d.txs.find? tx) :
    d'.Records tx touches where
  unopened hn := h.unopened (ht ▸ hn)
  opened writes hw := h.opened writes (by rwa [Database.writes?, ← ht])

theorem Database.Records.withTable (h : d.Records tx touches) (rows : Table) :
    ({ d with table := rows } : Database).Records tx touches :=
  h.congr rfl

theorem Database.Records.insert (h : d.Records tx touches) (t : Nat) (status : Option Writes)
    (hs : t = tx → ∀ writes, status = some writes → writes.Records touches) :
    ({ d with txs := d.txs.insert t status } : Database).Records tx touches := by
  by_cases ht : t = tx
  · subst ht
    refine ⟨?_, ?_⟩
    · intro hn
      simp [Keyed.find?_insert] at hn
    · intro writes hw
      rw [Database.writes?_insert, if_pos rfl] at hw
      exact hs rfl writes hw
  · exact h.congr (by simp [Keyed.find?_insert, ht])

theorem Database.Records.finish (h : d.Records tx touches) (t : Nat) :
    (d.finish t).Records tx touches :=
  h.insert t none (by rintro - writes ⟨⟩)

/-- A step that is no write of the transaction leaves the list of its writes as it was. -/
theorem Database.Records.still (h : d.Records tx touches) {o : Occurrence}
    (ho : o.touch? tx = none) : d.Records tx (touches ++ (o.touch? tx).toList) := by
  rwa [ho, Option.toList_none, List.append_nil]

/-- What is staged next, if it is staged in this transaction. -/
theorem Database.Records.stage (h : d.Records tx touches) {writes : Writes}
    (hw : d.writes? tx = some writes) (e : Edit) :
    ({ d with txs := d.txs.insert tx (some (writes.stage d.table e.change)) } : Database).Records
      tx (touches ++ [⟨e.id, d.table.find? e.id, e.row⟩]) where
  unopened hn := by simp [Keyed.find?_insert] at hn
  opened writes' hw' := by
    rw [Database.writes?_insert, if_pos rfl] at hw'
    cases hw'
    exact (h.opened writes hw).stage d.table e

theorem Occurrence.touch?_error (step : Step) (error : StepError) (signals : List Signal) :
    touch? tx ⟨d, step, ⟨.error error, signals, d'⟩⟩ = none := by
  unfold touch?
  split
  · rename_i h
    cases h
  · rfl

theorem Database.Records.step (h : d.Records tx touches) (step : Step) (m : Moment) :
    (step.run m d).state.Records tx
      (touches ++ (Occurrence.touch? tx ⟨d, step, step.run m d⟩).toList) := by
  have he := Step.effect step m d
  generalize step.run m d = o at he ⊢
  obtain ⟨result, signals, d'⟩ := o
  dsimp only at he ⊢
  cases he with
  | @began t hn =>
    refine (h.insert t (some .empty) ?_).still rfl
    rintro rfl writes ⟨⟩
    rw [h.unopened hn]
    exact Writes.records_empty
  | beganBefore => exact h.still rfl
  | bound => exact h.still rfl
  | @read scope => cases scope <;> exact h.still rfl
  | refused => exact h.still (Occurrence.touch?_error _ _ _)
  | edited => exact (h.withTable _).still rfl
  | @staged t e writes hw hc =>
    by_cases ht : t = tx
    · subst ht
      simpa [Occurrence.touch?] using h.stage hw e
    · refine (h.insert t _ (absurd · ht)).still ?_
      simp [Occurrence.touch?, ht]
  | @committed t => exact ((h.finish t).withTable _).still rfl
  | @conflicted t => exact (h.finish t).still rfl
  | @rolledBack t => exact (h.finish t).still rfl

end

/-- After every history, what a transaction has staged is what it has written. -/
theorem Database.records_after (h : History) (tx : Nat) :
    (empty.after h).Records tx (Touch.all tx (empty.trace h)) := by
  induction h using List.reverseRecOn with
  | nil => exact Database.records_empty tx
  | append_singleton h entry ih =>
    rw [Database.after_concat, Database.trace_concat, Touch.all_concat]
    exact ih.step entry.2 entry.1

/-- A commit of a transaction that is open. It goes through if every id that the transaction has
written to is found as it was at the first write, and if the table with the last writes in their
places shares no address; this is then the table. Else nothing is applied. Either way the
transaction has ended and the others have not noticed. -/
theorem Database.commit_succeeds_iff (h : History) (tx : Nat) (m : Moment)
    (hopen : ((empty.after h).writes? tx).isSome) :
    let d := empty.after h
    let touches := Touch.all tx (empty.trace h)
    let commit := (Step.commit tx).run m d
    (commit.result = .ok .done ↔
      (∀ id base, Touch.base? touches id = some base → d.table.find? id = base) ∧
        ∀ i j u v, Touch.merged touches d.table i = some u →
          Touch.merged touches d.table j = some v → u.email = v.email → i = j) ∧
    (commit.result = .ok .done →
      ∀ id, commit.state.table.find? id = Touch.merged touches d.table id) ∧
    (commit.result ≠ .ok .done →
      (∃ reason, commit.result = .error (.tx (.conflict reason))) ∧
        commit.state.table = d.table) ∧
    commit.state.txs.find? tx = some none ∧
    ∀ t, t ≠ tx → commit.state.txs.find? t = d.txs.find? t := by
  intro d touches commit
  obtain ⟨writes, hw⟩ := Option.isSome_iff_exists.mp hopen
  have hd : d.Sound := sound_after_empty h
  have hr : writes.Records touches := (records_after h tx).opened writes hw
  have hiff := Writes.conflict?_eq_none_iff hd.ownIds hd.uniqueEmails (hd.staged hw)
  rw [hr.fresh_iff, hr.find?_overlay] at hiff
  have hdone : (d.finish tx).txs.find? tx = some none := by
    simp [finish, Keyed.find?_insert]
  have hothers : ∀ t, t ≠ tx → commit.state.txs.find? t = d.txs.find? t := by
    intro t ht
    exact (Step.effect (.commit tx) m d).txs_other (Ne.symm ht)
  cases hc : writes.conflict? d.table with
  | none =>
    have hrun := Step.run_commit_applied (m := m) hw hc
    have hunique := hiff.mp hc
    rw [show commit = _ from hrun] at hothers ⊢
    refine ⟨⟨fun _ => ⟨hunique.1, fun i j u v => @hunique.2 i j u v⟩, fun _ => rfl⟩, ?_, ?_, hdone,
      hothers⟩
    · intro _ id
      exact congrFun (hr.find?_overlay d.table) id
    · intro hne
      exact absurd rfl hne
  | some reason =>
    have hrun := Step.run_commit_conflict (m := m) hw hc
    rw [show commit = _ from hrun] at hothers ⊢
    refine ⟨⟨?_, ?_⟩, ?_, fun _ => ⟨⟨reason, rfl⟩, rfl⟩, hdone, hothers⟩
    · rintro ⟨⟩
    · rintro ⟨hb, hu⟩
      have hn := hiff.mpr ⟨hb, hu⟩
      rw [hc] at hn
      cases hn
    · rintro ⟨⟩

/-- A row that a transaction deletes and creates again keeps the base of the deletion, and its
last address is what the commit leaves. -/
theorem Database.commit_of_recreated_row :
    let h := Sample.history
      [.call .shared (.edit (.create (Sample.user 1 "ada@old.org"))), .begin 7,
        .call (.inside 7) (.edit (.delete (Sample.user 1 "ada@old.org"))),
        .call .shared (.edit (.create (Sample.user 2 "bob@old.org"))),
        .call (.inside 7) (.edit (.create (Sample.user 1 "ada@new.org"))),
        .call (.inside 7) (.edit (.update (Sample.user 1 "ada@newer.org")))]
    let d := empty.after h
    let commit := (Step.commit 7).run Sample.moment d
    (d.writes? 7).isSome ∧ commit.result = .ok .done ∧
      ∀ id, commit.state.table.find? id =
        Touch.merged (Touch.all 7 (empty.trace h)) d.table id := by
  intro h d commit
  have hopen : (d.writes? 7).isSome := by decide
  have hdone : commit.result = .ok .done := by decide
  obtain ⟨-, hmerged, -⟩ := commit_succeeds_iff h 7 Sample.moment hopen
  exact ⟨hopen, hdone, hmerged hdone⟩

end Accounts

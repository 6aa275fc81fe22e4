import Accounts.Proofs.Store.History

/-!
# Transactions that have ended

A transaction is ended by a commit, whether this goes through or meets a conflict, or by a
rollback. No step brings it back: from then on all that is asked of it fails, before anything
else is looked at and without a trace.
-/

namespace Accounts

/-- The step has ended a transaction. -/
inductive Occurrence.Ends (tx : Nat) (o : Occurrence) : Prop
  | committed (hs : o.step = .commit tx) (hr : o.outcome.result = .ok .done)
  | conflicted {reason : String} (hs : o.step = .commit tx)
    (hr : o.outcome.result = .error (.tx (.conflict reason)))
  | rolledBack (hs : o.step = .rollback tx) (hr : o.outcome.result = .ok .done)

def Database.Ended (d : Database) (tx : Nat) : Prop :=
  d.txs.find? tx = some none

section
variable {d d' : Database} {tx : Nat} {m : Moment}

-- ---------------------------------------------------------------------------
-- How a transaction ends
-- ---------------------------------------------------------------------------

theorem Database.finish_ended (d : Database) (tx : Nat) : (d.finish tx).Ended tx := by
  rw [Ended, finish, Keyed.find?_insert, if_pos rfl]

/-- A commit leaves a transaction open in no case. -/
theorem Step.ended_of_commit
    (h : ((commit tx).run m d).result ≠ .error (.tx .completed)) :
    ((commit tx).run m d).state.Ended tx := by
  cases hw : d.writes? tx with
  | none =>
    rw [run_commit, Database.commit, hw] at h
    exact absurd rfl h
  | some writes =>
    cases hc : writes.conflict? d.table with
    | none =>
      rw [run_commit_applied hw hc]
      exact d.finish_ended tx
    | some reason =>
      rw [run_commit_conflict hw hc]
      exact d.finish_ended tx

theorem Step.ended_of_rollback
    (h : ((rollback tx).run m d).result ≠ .error (.tx .completed)) :
    ((rollback tx).run m d).state.Ended tx := by
  rw [run_rollback, Database.rollback] at h ⊢
  cases hw : d.writes? tx with
  | none =>
    rw [hw] at h
    exact absurd rfl h
  | some writes => exact d.finish_ended tx

theorem Occurrence.Ends.ended {step : Step} (h : Ends tx ⟨d, step, step.run m d⟩) :
    (step.run m d).state.Ended tx := by
  cases h with
  | committed hs hr =>
    cases hs
    exact Step.ended_of_commit fun hc => nomatch hc.symm.trans hr
  | conflicted hs hr =>
    cases hs
    exact Step.ended_of_commit fun hc => nomatch hc.symm.trans hr
  | rolledBack hs hr =>
    cases hs
    exact Step.ended_of_rollback fun hc => nomatch hc.symm.trans hr

-- ---------------------------------------------------------------------------
-- It stays so
-- ---------------------------------------------------------------------------

theorem Database.Ended.writes? (h : d.Ended tx) : d.writes? tx = none := by
  rw [Database.writes?, h, Option.join_some]

/-- What another transaction is given, or that this one is ended again. -/
theorem Database.Ended.insert (h : d.Ended tx) (t : Nat) {status : Option Writes}
    (hs : t = tx → status = none) :
    ({ d with txs := d.txs.insert t status } : Database).Ended tx := by
  rw [Ended, Keyed.find?_insert]
  split
  · rename_i ht
    rw [hs ht]
  · exact h

/-- A number that has been used is not opened again, and only what is open is written to. -/
theorem Effect.ended {step : Step} {result : Except StepError Answer}
    (he : Effect d step result d') (h : d.Ended tx) : d'.Ended tx := by
  cases he with
  | @began t hn =>
    refine h.insert t ?_
    rintro rfl
    cases hn.symm.trans h
  | beganBefore => exact h
  | bound => exact h
  | read => exact h
  | refused => exact h
  | edited => exact h
  | @staged t e writes hw =>
    refine h.insert t ?_
    rintro rfl
    cases hw.symm.trans h.writes?
  | @committed t => exact h.insert t fun _ => rfl
  | @conflicted t => exact h.insert t fun _ => rfl
  | @rolledBack t => exact h.insert t fun _ => rfl

theorem Database.Ended.after (hd : d.Ended tx) (h : History) : (d.after h).Ended tx := by
  induction h generalizing d with
  | nil => exact hd
  | cons entry rest ih => exact ih ((Step.effect entry.2 entry.1 d).ended hd)

/-- Wherever in a history a transaction was ended, it is so behind it. -/
theorem Database.ended_of_mem_trace {o : Occurrence} (ho : o.Ends tx) {h : History}
    (hm : o ∈ d.trace h) : (d.after h).Ended tx := by
  induction h generalizing d with
  | nil => cases hm
  | cons entry rest ih =>
    rw [trace, List.mem_cons] at hm
    obtain rfl | hm := hm
    · exact ho.ended.after rest
    · exact ih hm

-- ---------------------------------------------------------------------------
-- What is left to ask
-- ---------------------------------------------------------------------------

namespace Database.Ended

theorem visible (h : d.Ended tx) : d.visible (.inside tx) = .error (.tx .completed) := by
  rw [Database.visible, h.writes?]

/-- No check is made. -/
theorem change (h : d.Ended tx) (check : Table → Except StoreError Change) :
    d.change check (.inside tx) = .error (.tx .completed) := by
  rw [Database.change, h.writes?]

theorem commit (h : d.Ended tx) : d.commit tx = (.error .completed, d) := by
  rw [Database.commit, h.writes?]

theorem rollback (h : d.Ended tx) : d.rollback tx = (.error .completed, d) := by
  rw [Database.rollback, h.writes?]

end Database.Ended

end

namespace MemoryStore

variable {σ : Type} {m : Moment} {s : σ} {tx : Nat}

theorem call_ended {store : MemoryStore σ} (hs : store.scope = .inside tx)
    (h : (store.database.get s).Ended tx) (request : Call) :
    request.on store m s = ⟨.error (.tx .completed), [], s⟩ := by
  cases request with
  | edit e => rw [edit_run, hs, h.change]
  | read r => rw [read_run, hs, h.visible]

section
variable {p : Slot σ Database} (hp : p.Lawful) (h : (p.get s).Ended tx)
include hp h

theorem commit_ended : commit p tx m s = ⟨.error .completed, [], s⟩ := by
  simp only [commit, finish_run, h.commit, hp.set_get]

theorem rollback_ended : rollback p tx m s = ⟨.error .completed, [], s⟩ := by
  simp only [rollback, finish_run, h.rollback, hp.set_get]

end

/-- What a binding gives works inside of the transaction, in the same database. -/
theorem of_newWithTx {base store : MemoryStore σ}
    (h : (Storer.newWithTx base (.memory base.number tx) m s).result = .ok store) :
    store = { base with scope := .inside tx } := by
  simp only [Storer.newWithTx, MemoryStore.newWithTx, if_true] at h
  cases h
  rfl

end MemoryStore

end Accounts

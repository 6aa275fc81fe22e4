import Accounts.Proofs.Store.Staged
import Accounts.Store.Memory

/-!
# Histories of a store in memory

A history is a list of steps on one database: transactions are opened, bound and ended, and
calls are made of the store of the shared rows or of stores that are bound to transactions. The
steps are the operations of stores themselves; `run_edit`, `run_commit` and their companions say
what they come to, and `Effect` lists all that a step can do.
-/

namespace Accounts

/-- What a store is asked about its rows. -/
inductive Reading
  | list (filter : Filter) (orderBy : OrderBy) (page : Page)
  | count (filter : Filter)
  | byId (id : Uuid)
  | byEmail (email : Email)
  deriving DecidableEq, Repr

inductive Call
  | edit (edit : Edit)
  | read (reading : Reading)
  deriving DecidableEq, Repr

/-- What comes back of a step that does not fail. -/
inductive Answer
  | done
  | users (users : List User)
  | count (number : Nat)
  | user (user : User)
  deriving DecidableEq, Repr

section
variable {σ ρ : Type} [Storer σ ρ]

def Edit.on (store : ρ) : Edit → Operation σ StoreError Unit
  | .create user => Storer.create store user
  | .update user => Storer.update store user
  | .delete user => Storer.delete store user

def Reading.on (store : ρ) : Reading → Operation σ StoreError Answer
  | .list filter orderBy page => return .users (← Storer.query store filter orderBy page)
  | .count filter => return .count (← Storer.count store filter)
  | .byId id => return .user (← Storer.byId store id)
  | .byEmail email => return .user (← Storer.byEmail store email)

/-- A call of a store. -/
def Call.on (store : ρ) : Call → Operation σ StoreError Answer
  | .edit e => do
    e.on store
    return .done
  | .read r => r.on store

end

inductive Step
  /-- Opens a transaction. -/
  | begin (tx : Nat)
  /-- Binds the store to a transaction. -/
  | bind (tx : Nat)
  | call (scope : Scope) (call : Call)
  | commit (tx : Nat)
  | rollback (tx : Nat)
  deriving DecidableEq, Repr

inductive StepError
  | store (error : StoreError)
  | tx (error : TxError)
  deriving DecidableEq, Repr

namespace Step

/-- The store of a scope: that of the shared rows, or the same one bound to a transaction. -/
def store : Scope → Operation Database StoreError (MemoryStore Database)
  | .shared => return .shared 0 .whole
  | .inside tx => Storer.newWithTx (MemoryStore.shared 0 Slot.whole) (.memory 0 tx)

def run : Step → Operation Database StepError Answer
  | .begin tx => do
    MemoryStore.begin .whole tx
    return .done
  | .bind tx => Operation.mapError .store do
    let _ ← store (.inside tx)
    return .done
  | .call scope request => Operation.mapError .store do request.on (← store scope)
  | .commit tx => Operation.mapError .tx do
    MemoryStore.commit .whole tx
    return .done
  | .rollback tx => Operation.mapError .tx do
    MemoryStore.rollback .whole tx
    return .done

/-- The step is taken through a transaction. -/
def Through (tx : Nat) : Step → Prop
  | .begin t => t = tx
  | .bind t => t = tx
  | .call scope _ => scope = .inside tx
  | .commit t => t = tx
  | .rollback t => t = tx

instance (tx : Nat) : DecidablePred (Through tx)
  | .begin t => inferInstanceAs (Decidable (t = tx))
  | .bind t => inferInstanceAs (Decidable (t = tx))
  | .call scope _ => inferInstanceAs (Decidable (scope = .inside tx))
  | .commit t => inferInstanceAs (Decidable (t = tx))
  | .rollback t => inferInstanceAs (Decidable (t = tx))

end Step

/-- Steps in the order in which they are taken, each at a moment. -/
abbrev History := List (Moment × Step)

/-- A step that has been taken: what it found, and what came of it. -/
structure Occurrence where
  before : Database
  step : Step
  outcome : Outcome Database StepError Answer

namespace Database

/-- The database after all steps of a history. -/
def after (d : Database) : History → Database
  | [] => d
  | (m, step) :: rest => (step.run m d).state.after rest

/-- The steps of a history as they are taken. -/
def trace (d : Database) : History → List Occurrence
  | [] => []
  | (m, step) :: rest => ⟨d, step, step.run m d⟩ :: (step.run m d).state.trace rest

theorem after_append (d : Database) (h h' : History) :
    d.after (h ++ h') = (d.after h).after h' := by
  induction h generalizing d with
  | nil => rfl
  | cons entry rest ih => exact ih _

theorem trace_append (d : Database) (h h' : History) :
    d.trace (h ++ h') = d.trace h ++ (d.after h).trace h' := by
  induction h generalizing d with
  | nil => rfl
  | cons entry rest ih => exact congrArg (_ :: ·) (ih _)

theorem after_concat (d : Database) (h : History) (m : Moment) (step : Step) :
    d.after (h ++ [(m, step)]) = (step.run m (d.after h)).state :=
  d.after_append h _

theorem trace_concat (d : Database) (h : History) (m : Moment) (step : Step) :
    d.trace (h ++ [(m, step)]) = d.trace h ++ [⟨d.after h, step, step.run m (d.after h)⟩] :=
  d.trace_append h _

end Database

-- ---------------------------------------------------------------------------
-- Calls of stores in memory
-- ---------------------------------------------------------------------------

namespace Reading

/-- The answer in view of the visible rows. -/
def answer (rows : Table) : Reading → Except StoreError Answer
  | .list filter orderBy page => (Listing.select rows filter orderBy page).map .users
  | .count filter => .ok (.count (Listing.count rows filter))
  | .byId id => ((rows.find? id).map Answer.user).elim (.error .notFound) .ok
  | .byEmail email => ((rows.byEmail? email).map Answer.user).elim (.error .notFound) .ok

/-- What the reading shows of itself: how many rows were listed. -/
def signals (rows : Table) : Reading → List Signal
  | .list filter orderBy page =>
    match Listing.select rows filter orderBy page with
    | .ok users => [.debug "memory store query" [("rows", toString users.length)]]
    | .error _ => []
  | _ => []

end Reading

namespace MemoryStore

variable {σ : Type} {m : Moment} {s : σ}

theorem rows_run (store : MemoryStore σ) :
    store.rows m s = ⟨(store.database.get s).visible store.scope, [], s⟩ := by
  simp only [rows, Slot.read, Operation.bind_run, Operation.bind, Operation.read_run,
    Operation.pure_run]
  cases (store.database.get s).visible store.scope <;> rfl

theorem change_run (store : MemoryStore σ) (check : Table → Except StoreError Change) :
    store.change check m s =
      match (store.database.get s).change check store.scope with
      | .ok d => ⟨.ok (), [], store.database.set d s⟩
      | .error e => ⟨.error e, [], s⟩ := by
  simp only [change, Slot.read, Slot.write, Operation.bind_run, Operation.bind,
    Operation.read_run, Operation.pure_run]
  cases (store.database.get s).change check store.scope <;> rfl

theorem edit_run (store : MemoryStore σ) (e : Edit) :
    (Call.edit e).on store m s =
      match (store.database.get s).change e.check store.scope with
      | .ok d => ⟨.ok .done, [], store.database.set d s⟩
      | .error error => ⟨.error error, [], s⟩ := by
  have he : e.on store = store.change e.check := by cases e <;> rfl
  simp only [Call.on, he, Operation.bind_run, Operation.bind, change_run]
  cases (store.database.get s).change e.check store.scope <;> rfl

theorem found_run (u : Option User) :
    found u m s = ⟨u.elim (.error .notFound) .ok, [], s⟩ := by
  cases u <;> rfl

theorem read_run (store : MemoryStore σ) (r : Reading) :
    (Call.read r).on store m s =
      match (store.database.get s).visible store.scope with
      | .ok rows => ⟨r.answer rows, r.signals rows, s⟩
      | .error error => ⟨.error error, [], s⟩ := by
  cases r with
  | list filter orderBy page =>
    simp only [Call.on, Reading.on, Storer.query, query, Operation.bind_run, Operation.bind,
      rows_run]
    cases (store.database.get s).visible store.scope with
    | error error => rfl
    | ok rows =>
      simp only [Reading.answer, Reading.signals]
      cases Listing.select rows filter orderBy page <;> rfl
  | count filter =>
    simp only [Call.on, Reading.on, Storer.count, Operation.bind_run, Operation.bind, rows_run]
    cases (store.database.get s).visible store.scope <;> rfl
  | byId id =>
    simp only [Call.on, Reading.on, Storer.byId, Operation.bind_run, Operation.bind, rows_run]
    cases (store.database.get s).visible store.scope with
    | error error => rfl
    | ok rows =>
      simp only [found_run, Reading.answer]
      cases rows.find? id <;> rfl
  | byEmail email =>
    simp only [Call.on, Reading.on, Storer.byEmail, Operation.bind_run, Operation.bind, rows_run]
    cases (store.database.get s).visible store.scope with
    | error error => rfl
    | ok rows =>
      simp only [found_run, Reading.answer]
      cases rows.byEmail? email <;> rfl

/-- What the end of a transaction shows of itself: how many rows it wrote. -/
def ended (how : String) (rows : Nat) : Signal :=
  .debug ("memory tx " ++ how) [("rows", toString rows)]

theorem finish_run (p : Slot σ Database) (how : String)
    (f : Database → Except TxError Nat × Database) :
    finish p how f m s =
      match f (p.get s) with
      | (.ok rows, d) => ⟨.ok (), [ended how rows], p.set d s⟩
      | (.error error, d) => ⟨.error error, [], p.set d s⟩ := by
  simp only [finish, Slot.read, Slot.write, Operation.bind_run, Operation.bind,
    Operation.read_run, Operation.write_run, Operation.pure_run]
  obtain ⟨_ | _, d⟩ := f (p.get s) <;> rfl

end MemoryStore

-- ---------------------------------------------------------------------------
-- Steps
-- ---------------------------------------------------------------------------

namespace Step

variable {m : Moment} {d : Database}

/-- A store can be bound whatever has become of the transaction. -/
theorem store_run (scope : Scope) : store scope m d = ⟨.ok ⟨0, .whole, scope⟩, [], d⟩ := by
  cases scope <;> rfl

theorem run_begin (tx : Nat) : (begin tx).run m d = ⟨.ok .done, [], d.begin tx⟩ := rfl

theorem run_bind (tx : Nat) : (bind tx).run m d = ⟨.ok .done, [], d⟩ := rfl

theorem run_edit (scope : Scope) (e : Edit) :
    (call scope (.edit e)).run m d =
      match d.change e.check scope with
      | .ok d' => ⟨.ok .done, [], d'⟩
      | .error error => ⟨.error (.store error), [], d⟩ := by
  simp only [run, Operation.mapError, Operation.bind_run, Operation.bind, store_run,
    MemoryStore.edit_run, Slot.whole, id]
  cases d.change e.check scope <;> rfl

theorem run_read (scope : Scope) (r : Reading) :
    (call scope (.read r)).run m d =
      match d.visible scope with
      | .ok rows => ⟨(r.answer rows).mapError .store, r.signals rows, d⟩
      | .error error => ⟨.error (.store error), [], d⟩ := by
  simp only [run, Operation.mapError, Operation.bind_run, Operation.bind, store_run,
    MemoryStore.read_run, Slot.whole, id]
  cases d.visible scope <;> rfl

theorem run_read_state (scope : Scope) (r : Reading) :
    ((call scope (.read r)).run m d).state = d := by
  rw [run_read]
  cases d.visible scope <;> rfl

theorem run_commit (tx : Nat) :
    (commit tx).run m d =
      match d.commit tx with
      | (.ok rows, d') => ⟨.ok .done, [MemoryStore.ended "commit" rows], d'⟩
      | (.error error, d') => ⟨.error (.tx error), [], d'⟩ := by
  simp only [run, MemoryStore.commit, Operation.mapError, Operation.bind_run, Operation.bind,
    MemoryStore.finish_run, Slot.whole, id]
  obtain ⟨_ | _, d'⟩ := d.commit tx <;> rfl

section
variable {tx : Nat} {writes : Writes} (hw : d.writes? tx = some writes)
include hw

theorem run_commit_applied (hc : writes.conflict? d.table = none) :
    (commit tx).run m d = ⟨.ok .done, [MemoryStore.ended "commit" writes.size],
      { d.finish tx with table := d.table.overlay writes }⟩ := by
  simp only [run_commit, Database.commit, hw, hc]

theorem run_commit_conflict {reason : String} (hc : writes.conflict? d.table = some reason) :
    (commit tx).run m d = ⟨.error (.tx (.conflict reason)), [], d.finish tx⟩ := by
  simp only [run_commit, Database.commit, hw, hc]

end

theorem run_rollback (tx : Nat) :
    (rollback tx).run m d =
      match d.rollback tx with
      | (.ok rows, d') => ⟨.ok .done, [MemoryStore.ended "rollback" rows], d'⟩
      | (.error error, d') => ⟨.error (.tx error), [], d'⟩ := by
  simp only [run, MemoryStore.rollback, Operation.mapError, Operation.bind_run, Operation.bind,
    MemoryStore.finish_run, Slot.whole, id]
  obtain ⟨_ | _, d'⟩ := d.rollback tx <;> rfl

end Step

/-- What a step can do to a database: each case says what it takes, what comes back and what is
left. -/
inductive Effect (d : Database) : Step → Except StepError Answer → Database → Prop
  | began {tx : Nat} (h : d.txs.find? tx = none) :
    Effect d (.begin tx) (.ok .done) { d with txs := d.txs.insert tx (some .empty) }
  | beganBefore {tx : Nat} {status : Option Writes} (h : d.txs.find? tx = some status) :
    Effect d (.begin tx) (.ok .done) d
  | bound {tx : Nat} : Effect d (.bind tx) (.ok .done) d
  | read {scope : Scope} {r : Reading} {result : Except StepError Answer} :
    Effect d (.call scope (.read r)) result d
  | refused {step : Step} {error : StepError} : Effect d step (.error error) d
  | edited {e : Edit} (h : e.check d.table = .ok e.change) :
    Effect d (.call .shared (.edit e)) (.ok .done)
      { d with table := d.table.assign e.id e.row }
  | staged {tx : Nat} {e : Edit} {writes : Writes} (hw : d.writes? tx = some writes)
    (h : e.check (d.table.overlay writes) = .ok e.change) :
    Effect d (.call (.inside tx) (.edit e)) (.ok .done)
      { d with txs := d.txs.insert tx (some (writes.stage d.table e.change)) }
  | committed {tx : Nat} {writes : Writes} (hw : d.writes? tx = some writes)
    (h : writes.conflict? d.table = none) :
    Effect d (.commit tx) (.ok .done)
      { d.finish tx with table := d.table.overlay writes }
  | conflicted {tx : Nat} {writes : Writes} {reason : String} (hw : d.writes? tx = some writes)
    (h : writes.conflict? d.table = some reason) :
    Effect d (.commit tx) (.error (.tx (.conflict reason))) (d.finish tx)
  | rolledBack {tx : Nat} {writes : Writes} (hw : d.writes? tx = some writes) :
    Effect d (.rollback tx) (.ok .done) (d.finish tx)

namespace Step

variable {m : Moment} {d : Database}

theorem effect_begin (tx : Nat) :
    Effect d (begin tx) ((begin tx).run m d).result ((begin tx).run m d).state := by
  rw [run_begin, Database.begin]
  split
  · rename_i h
    obtain ⟨status, hs⟩ := Keyed.contains_iff.mp h
    exact .beganBefore hs
  · rename_i h
    exact .began (Keyed.contains_eq_false_iff.mp (by simpa using h))

theorem effect_edit (scope : Scope) (e : Edit) :
    Effect d (call scope (.edit e)) ((call scope (.edit e)).run m d).result
      ((call scope (.edit e)).run m d).state := by
  rw [run_edit]
  cases scope with
  | shared =>
    simp only [Database.change]
    cases hc : e.check d.table with
    | error error => exact .refused
    | ok change =>
      obtain ⟨rfl, -⟩ := Edit.check_ok hc
      exact .edited hc
  | inside tx =>
    simp only [Database.change]
    cases hw : d.writes? tx with
    | none => exact .refused
    | some writes =>
      cases hc : e.check (d.table.overlay writes) with
      | error error =>
        simp only [hc]
        exact .refused
      | ok change =>
        obtain ⟨rfl, -⟩ := Edit.check_ok hc
        simp only [hc]
        exact .staged hw hc

theorem effect_commit (tx : Nat) :
    Effect d (commit tx) ((commit tx).run m d).result ((commit tx).run m d).state := by
  cases hw : d.writes? tx with
  | none =>
    rw [run_commit, Database.commit, hw]
    exact .refused
  | some writes =>
    cases hc : writes.conflict? d.table with
    | none =>
      rw [run_commit_applied hw hc]
      exact .committed hw hc
    | some reason =>
      rw [run_commit_conflict hw hc]
      exact .conflicted hw hc

theorem effect_rollback (tx : Nat) :
    Effect d (rollback tx) ((rollback tx).run m d).result ((rollback tx).run m d).state := by
  rw [run_rollback, Database.rollback]
  cases hw : d.writes? tx with
  | none => exact .refused
  | some writes => exact .rolledBack hw

/-- Every step does one of the things that a step can do. -/
theorem effect (step : Step) (m : Moment) (d : Database) :
    Effect d step (step.run m d).result (step.run m d).state := by
  cases step with
  | begin tx => exact effect_begin tx
  | bind tx =>
    rw [run_bind]
    exact .bound
  | call scope request =>
    cases request with
    | edit e => exact effect_edit scope e
    | read r =>
      rw [run_read_state]
      exact .read
  | commit tx => exact effect_commit tx
  | rollback tx => exact effect_rollback tx

end Step

/-- A step touches no transaction but the one that it is taken through. -/
theorem Effect.txs_other {d d' : Database} {step : Step} {result : Except StepError Answer}
    (he : Effect d step result d') {tx : Nat} (hs : ¬ step.Through tx) :
    d'.txs.find? tx = d.txs.find? tx := by
  cases he with
  | began => exact (Keyed.find?_insert ..).trans (if_neg hs)
  | beganBefore => rfl
  | bound => rfl
  | read => rfl
  | refused => rfl
  | edited => rfl
  | @staged t =>
    have ht : t ≠ tx := fun ht => hs (by rw [Step.Through, ht])
    exact (Keyed.find?_insert ..).trans (if_neg ht)
  | committed => exact (Keyed.find?_insert ..).trans (if_neg hs)
  | conflicted => exact (Keyed.find?_insert ..).trans (if_neg hs)
  | rolledBack => exact (Keyed.find?_insert ..).trans (if_neg hs)

-- ---------------------------------------------------------------------------
-- Small histories
-- ---------------------------------------------------------------------------

namespace Sample

def moment : Moment :=
  ⟨⟨0⟩, ⟨0⟩, ⟨List.replicate 16 0, by decide⟩, none⟩

def user (id : Nat) (address : String) : User where
  id := ⟨BitVec.ofNat 128 id⟩
  name := ""
  email := ⟨address⟩
  passwordHash := "hash"
  roles := [.user]
  department := none
  enabled := true
  created := ⟨0⟩
  updated := ⟨0⟩

/-- Steps that are all taken at one moment. -/
def history (steps : List Step) : History :=
  steps.map (moment, ·)

end Sample

end Accounts

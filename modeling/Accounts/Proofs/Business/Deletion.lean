import Accounts.Proofs.Business.Course
import Accounts.Proofs.Delegate.Calls
import Accounts.Proofs.Store.Shown
import Accounts.Proofs.Wire.Announcement
import Accounts.World

/-!
# Deletions and those who hear of them

A deletion takes the row first and announces it afterwards, over a delegate. If a subscriber
fails, so does the deletion, but the row stays away; inside of a transaction it can be brought
back by a rollback.
-/

namespace Accounts

/-- The shared rows are as they were, since no write of the transaction has reached them. -/
theorem MemoryStore.rollback_open {σ : Type} {m : Moment} {s : σ} {p : Slot σ Database}
    (hp : p.Lawful) {tx : Nat} {rows : Table} (hv : (p.get s).visible (.inside tx) = .ok rows) :
    let back := rollback p tx m s
    back.result = .ok () ∧ (p.get back.state).table = (p.get s).table := by
  obtain ⟨writes, hw, -⟩ := Database.visible_inside hv
  simp only [rollback, finish_run, Database.rollback, hw, hp.get_set]
  exact ⟨trivial, rfl⟩

theorem MemoryStore.change_notes {σ : Type} {m : Moment} {s : σ} (store : MemoryStore σ)
    (check : Table → Except StoreError Change) : (store.change check).notes m s = [] := by
  rw [Operation.notes, change_run]
  cases (store.database.get s).change check store.scope <;> rfl

namespace Service

variable {σ π : Type} [Publisher σ π] (core : Service (MemoryStore σ) π) {m : Moment} {s : σ}

theorem delete_notes (actor : Uuid) (user : User) :
    (core.delete actor user).notes m s =
      match (core.store.database.get s).change (Change.delete user) core.store.scope with
      | .error _ => []
      | .ok d => (Publisher.publish core.publisher (.deleted user.id m.now)).notes m
          (core.store.database.set d s) := by
  simp only [Service.delete, Service.spanned, Operation.notes_traced, Operation.notes_bind,
    Operation.notes_mapError, Operation.quiet_mapError, Operation.quiet_moment,
    Operation.notes_moment, Storer.delete, MemoryStore.change_notes, MemoryStore.change_quiet]
  cases (core.store.database.get s).change (Change.delete user) core.store.scope with
  | error e => rfl
  | ok d =>
    simp only [Except.mapError, List.nil_append]
    generalize (Publisher.publish core.publisher _).quiet m _ = published
    obtain ⟨_ | _, _⟩ := published <;> exact List.append_nil _

end Service

/-- The core of a business whose events go to a delegate. The database is within reach of the
subscribers. -/
structure Bureau (σ τ : Type) where
  number : Nat
  database : Slot σ Database
  exchange : Slot σ (Exchange τ)
  reach : τ → Database
  lawful : database.Lawful
  exchange_lawful : exchange.Lawful
  reach_get : ∀ s, reach (exchange.get s).surroundings = database.get s
  delegate_set : ∀ d s, (exchange.get (database.set d s)).delegate = (exchange.get s).delegate

def World.bureau (database delegate : Nat) : Bureau World Databases where
  number := database
  database := World.database database
  exchange := World.exchange delegate
  reach databases := databases database
  lawful := World.database_lawful database
  exchange_lawful := World.exchange_lawful delegate
  reach_get _ := rfl
  delegate_set _ _ := rfl

namespace Bureau

variable {σ τ : Type} (b : Bureau σ τ)

def core (scope : Scope) : Service (MemoryStore σ) (Outlet σ τ) :=
  ⟨⟨b.number, b.database, scope⟩, .delegate b.exchange⟩

section
variable {b} {scope : Scope} {m : Moment} {s : σ} {user : User} {d : Database}

theorem delete_refused {e : StoreError}
    (hc : (b.database.get s).change (Change.delete user) scope = .error e) (actor : Uuid) :
    (Business.delete (b.core scope) actor user).quiet m s = (.error (.store "delete" e), s) ∧
      (Business.delete (b.core scope) actor user).notes m s = [] := by
  simp only [Business.delete, Service.delete_quiet, Service.delete_notes, core, hc, and_self]

/-- What is left for the delegate to do. -/
theorem delete_stored (hc : (b.database.get s).change (Change.delete user) scope = .ok d)
    (actor : Uuid) :
    let x := b.exchange.get (b.database.set d s)
    let call := Delegate.call (Event.deletedData user.id)
    (Business.delete (b.core scope) actor user).quiet m s =
        ((call m x).result.mapError (.notification Event.actionDeleted),
          b.exchange.set (call m x).state (b.database.set d s)) ∧
      (Business.delete (b.core scope) actor user).notes m s = call.notes m x := by
  simp only [Business.delete, Service.delete_quiet, Service.delete_notes, core, hc,
    Publisher.publish, Outlet.publish, Slot.lift_quiet, Slot.lift_notes, Event.data]
  exact ⟨rfl, trivial⟩

theorem delete_round {regs : List (Registration τ)}
    (hd : (b.exchange.get s).delegate = Delegate.empty.registerAll regs)
    (hc : (b.database.get s).change (Change.delete user) scope = .ok d) (actor : Uuid) :
    let o := Business.delete (b.core scope) actor user m s
    ∃ visits,
      Round (Script.run (Delegate.callWithin (Delegate.maxNesting - 1))) m
        (Event.deletedData user.id) (Delegate.registered regs "user" "deleted")
        (b.exchange.get (b.database.set d s)) visits (b.exchange.get o.state) ∧
      (Business.delete (b.core scope) actor user).notes m s = visits.flatMap (·.notes) ∧
      (o.result = .ok () ↔ ∀ v ∈ visits, v.outcome.result = .ok ()) ∧
      ∀ v ∈ visits, ∀ fault, v.outcome.result = .error fault →
        ∃ e, o.result = .error e ∧ e.kind = .notification := by
  obtain ⟨hquiet, hnotes⟩ := delete_stored (m := m) hc actor
  obtain ⟨hresult, hstate⟩ := Prod.mk.inj hquiet
  have hdelegate : (b.exchange.get (b.database.set d s)).delegate =
      Delegate.empty.registerAll regs := (b.delegate_set d s).trans hd
  obtain ⟨visits, hround, hok, hfailed, htold⟩ := Delegate.call_round m
    (Event.deletedData user.id) (b.exchange.get (b.database.set d s))
  rw [hdelegate, Delegate.subscribers_registerAll] at hround
  refine ⟨visits, ?_, hnotes.trans htold, ?_, ?_⟩
  · rw [hstate, b.exchange_lawful.get_set]
    exact hround
  · rw [← hok, hresult]
    cases (Delegate.call (Event.deletedData user.id) m
      (b.exchange.get (b.database.set d s))).result <;> simp [Except.mapError]
  · intro v hv fault hf
    rw [hresult, hfailed v hv fault hf]
    exact ⟨_, rfl, rfl⟩

/-- Where no subscriber touches the database, it stays as the store has left it. -/
theorem database_of_delete (hd : (b.exchange.get s).delegate.Spares b.reach)
    (hc : (b.database.get s).change (Change.delete user) scope = .ok d) (actor : Uuid) :
    b.database.get (Business.delete (b.core scope) actor user m s).state = d := by
  obtain ⟨-, hstate⟩ := Prod.mk.inj (delete_stored (m := m) hc actor).1
  have hspared : (b.exchange.get (b.database.set d s)).Spared b.reach _ :=
    Delegate.call_spares (Event.deletedData user.id) m _ (by rwa [b.delegate_set])
  rw [hstate, ← b.reach_get, b.exchange_lawful.get_set, hspared.surroundings, b.reach_get,
    b.lawful.get_set]

end

/-- If the store refuses the deletion, nothing happens. If not, the row is gone, and the subscribers
are told in the order of their registration until one fails, which fails the deletion. Inside of a
transaction the shared rows stay as they were, and so does a rollback leave them. -/
theorem deletion_announced (scope : Scope) (actor : Uuid) (user : User)
    (regs : List (Registration τ)) (m : Moment) (s : σ) {rows : Table}
    (hv : (b.database.get s).visible scope = .ok rows)
    (hd : (b.exchange.get s).delegate = Delegate.empty.registerAll regs)
    (hr : ∀ r ∈ regs, ∀ data, (r.handler data).Spares b.reach) :
    let core := b.core scope
    let stored := Storer.delete core.store user m s
    let o := Business.delete core actor user m s
    let notes := (Business.delete core actor user).notes m s
    (∀ e, stored.result = .error e →
      o.result = .error (.store "delete" e) ∧ o.state = s ∧ notes = []) ∧
    (stored.result = .ok () → ∃ visits rows',
      Round (Script.run (Delegate.callWithin (Delegate.maxNesting - 1))) m
        (Event.deletedData user.id) (Delegate.registered regs "user" "deleted")
        (b.exchange.get stored.state) visits (b.exchange.get o.state) ∧
      (∀ v ∈ visits, DeletedParams.ofData v.data = .ok ⟨user.id⟩) ∧
      notes = visits.flatMap (·.notes) ∧
      (o.result = .ok () ↔ ∀ v ∈ visits, v.outcome.result = .ok ()) ∧
      (∀ v ∈ visits, ∀ fault, v.outcome.result = .error fault →
        ∃ e, o.result = .error e ∧ e.kind = .notification) ∧
      (b.database.get o.state).visible scope = .ok rows' ∧
      (∀ id, rows'.find? id = if id = user.id then none else rows.find? id) ∧
      ∀ tx, scope = .inside tx →
        let back := MemoryStore.rollback b.database tx m o.state
        (b.database.get o.state).table = (b.database.get s).table ∧
        back.result = .ok () ∧ (b.database.get back.state).table = (b.database.get s).table) := by
  intro core stored o notes
  have hstored : stored = _ := MemoryStore.change_run core.store (Change.delete user)
  dsimp only [core, Bureau.core] at hstored
  cases hc : (b.database.get s).change (Change.delete user) scope with
  | error e =>
    obtain ⟨hquiet, hnotes⟩ := delete_refused (m := m) hc actor
    obtain ⟨hresult, hstate⟩ := Prod.mk.inj hquiet
    rw [hc] at hstored
    rw [hstored]
    refine ⟨?_, fun hok => nomatch hok⟩
    rintro _ ⟨⟩
    exact ⟨hresult, hstate, hnotes⟩
  | ok d =>
    rw [hc] at hstored
    rw [hstored]
    refine ⟨fun e he => (nomatch he), fun _ => ?_⟩
    obtain ⟨visits, hround, hnotes, hok, hfailed⟩ := delete_round (m := m) hd hc actor
    obtain ⟨rows', hv', hrows⟩ := Database.visible_of_change (e := .delete user) hv hc
    have hd' : b.database.get o.state = d :=
      database_of_delete (hd ▸ Delegate.Spares.empty.registerAll hr) hc actor
    refine ⟨visits, rows', hround, ?_, hnotes, hok, hfailed, ?_, ?_, ?_⟩
    · intro v hm
      rw [hround.given v hm, DeletedParams.ofData_deletedData]
    · rwa [hd']
    · intro id
      rw [hrows, Keyed.find?_assign]
      simp only [Edit.id, Edit.row, Edit.change, Change.id, Change.row, eq_comm]
    · rintro tx rfl
      have htable : d.table = (b.database.get s).table :=
        (Effect.of_change (e := .delete user) hc).table_of_edit Scope.noConfusion
      obtain ⟨hback, hback'⟩ := MemoryStore.rollback_open (m := m) (s := o.state) b.lawful
        (by rwa [hd'])
      rw [hd'] at hback' ⊢
      exact ⟨htable, hback, hback'.trans htable⟩

/-- The second of three subscribers is down, so that the third does not hear of the deletion, and
the transaction brings the row back. A subscriber to another action is not told. -/
theorem deletion_announced_until_failure :
    let ada := Sample.user 1 "ada@old.org"
    let bob := Sample.user 2 "bob@old.org"
    let table : Table := (Keyed.empty.insert ada.id ada).insert bob.id bob
    let noting (action text : String) : Registration Databases :=
      ⟨"user", action, fun _ => .note text .finish⟩
    let regs : List (Registration Databases) :=
      [noting "deleted" "first", noting "created" "other",
        ⟨"user", "deleted", fun _ => .fail ⟨"down", []⟩⟩, noting "deleted" "third"]
    let w : World := ⟨fun _ => ({ Database.empty with table := table } : Database).begin 7,
      fun _ => Delegate.empty.registerAll regs⟩
    let b := World.bureau 0 0
    let core := b.core (.inside 7)
    let o := Business.delete core ⟨0⟩ ada Sample.moment w
    let back := MemoryStore.rollback b.database 7 Sample.moment o.state
    (∀ r ∈ regs, ∀ data, (r.handler data).Spares b.reach) ∧
      (Storer.delete core.store ada Sample.moment w).result = .ok () ∧
      (∃ e, o.result = .error e ∧ e.kind = .notification) ∧
      (Business.delete core ⟨0⟩ ada).notes Sample.moment w = ["first"] ∧
      (∃ rows, (b.database.get o.state).visible (.inside 7) = .ok rows ∧
        rows.find? ada.id = none ∧ rows.find? bob.id = some bob) ∧
      back.result = .ok () ∧ (b.database.get back.state).table = table := by
  intro ada bob table noting regs w b core o back
  have hspares : ∀ r ∈ regs, ∀ data, (r.handler data).Spares b.reach := by
    simp [regs, noting, Script.note, Script.Spares]
  have hv : (b.database.get w).visible (.inside 7) = .ok (table.overlay .empty) := rfl
  have htable : (b.database.get w).table = table := rfl
  have hd : (b.exchange.get w).delegate = Delegate.empty.registerAll regs := rfl
  have hstored : (Storer.delete core.store ada Sample.moment w).result = .ok () := by
    decide
  have hdown : o.result =
      .error (.notification "deleted" (.handler "user" "deleted" ⟨"down", []⟩)) := by
    decide
  have hheard : (Business.delete core ⟨0⟩ ada).notes Sample.moment w = ["first"] := by
    decide
  -- what the deletion leaves of the world is told by the theorem and not worked out
  clear_value w
  obtain ⟨-, htold⟩ :=
    b.deletion_announced (.inside 7) ⟨0⟩ ada regs Sample.moment w hv hd hspares
  obtain ⟨-, rows, -, -, -, -, -, hv', hrows, htx⟩ := htold hstored
  obtain ⟨-, hback, htable'⟩ := htx 7 rfl
  refine ⟨hspares, hstored, ⟨_, hdown, rfl⟩, hheard, ⟨rows, hv', ?_, ?_⟩, hback,
    htable'.trans htable⟩
  · rw [hrows, if_pos rfl]
  · rw [hrows, if_neg (by decide), Table.overlay_empty]
    rfl

end Bureau

end Accounts

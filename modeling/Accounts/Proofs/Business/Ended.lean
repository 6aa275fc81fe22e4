import Accounts.Proofs.Business.Course
import Accounts.Proofs.Store.Ended

/-!
# A business inside of a transaction that has ended

All that is asked of it fails as a failure of the store, unless a password is refused before the
store is asked. Nothing changes.
-/

namespace Accounts

/-- The password that comes with a request cannot be hashed. -/
def Request.Unhashable (m : Moment) (fault : Bcrypt.Error) : Request → Prop
  | .create _ new => Password.hash m.salt new.password = .error fault
  | .update _ _ changes => changes.hash m = .error fault
  | _ => False

/-- What comes back of a request that the store would refuse because of its transaction. -/
structure Request.Turned (m : Moment) (request : Request) (result : Except UserError Answer) :
    Prop where
  hashing : ∀ fault, request.Unhashable m fault → result = .error (.hashing fault)
  storage : (∀ fault, ¬ request.Unhashable m fault) →
    ∃ e, result = .error e ∧ e.kind = .storage ∧ ∃ op, e = .storage op (.tx .completed)

namespace Request

variable {m : Moment} {request : Request} {fault fault' : Bcrypt.Error}
  {result : Except UserError Answer} {op : String}

theorem Unhashable.unique (h : request.Unhashable m fault) (h' : request.Unhashable m fault') :
    fault = fault' := by
  cases request with
  | create => exact Except.error.inj (h.symm.trans h')
  | update => exact Except.error.inj (h.symm.trans h')
  | delete | read | authenticate => cases h

theorem Turned.of_unhashable (hu : request.Unhashable m fault)
    (hr : result = .error (.hashing fault)) : request.Turned m result where
  hashing _ hf := hu.unique hf ▸ hr
  storage hn := absurd hu (hn fault)

theorem Turned.of_hashable (hu : ∀ fault, ¬ request.Unhashable m fault)
    (hr : result = .error (.storage op (.tx .completed))) : request.Turned m result where
  hashing fault hf := absurd hf (hu fault)
  storage _ := ⟨_, hr, rfl, op, rfl⟩

end Request

namespace Service

variable {σ π : Type} [Publisher σ π] {core : Service (MemoryStore σ) π} {m : Moment} {s : σ}
  {tx : Nat}

theorem request_ended (hs : core.store.scope = .inside tx)
    (h : (core.store.database.get s).Ended tx) (request : Request) :
    request.Turned m ((request.on core).quiet m s).1 ∧ ((request.on core).quiet m s).2 = s := by
  cases request with
  | create actor new =>
    simp only [Request.on, Business.create, Operation.quiet_bind, Operation.quiet_pure,
      create_quiet, hs, h.change]
    cases hh : Password.hash m.salt new.password with
    | error fault => exact ⟨.of_unhashable hh rfl, rfl⟩
    | ok hash =>
      refine ⟨.of_hashable (fun fault hf => ?_) rfl, rfl⟩
      cases hh.symm.trans hf
  | update actor user changes =>
    simp only [Request.on, Business.update, Operation.quiet_bind, Operation.quiet_pure,
      update_quiet, hs, h.change]
    cases hh : changes.hash m with
    | error fault => exact ⟨.of_unhashable hh rfl, rfl⟩
    | ok hash =>
      refine ⟨.of_hashable (fun fault hf => ?_) rfl, rfl⟩
      cases hh.symm.trans hf
  | delete actor user =>
    simp only [Request.on, Business.delete, Operation.quiet_bind, delete_quiet, hs, h.change]
    exact ⟨.of_hashable (fun _ => id) rfl, trivial⟩
  | read r =>
    simp only [Request.on, read_quiet, hs, h.visible]
    cases r <;> exact ⟨.of_hashable (fun _ => id) rfl, trivial⟩
  | authenticate email password =>
    simp only [Request.on, Business.authenticate, Operation.quiet_bind, Operation.quiet_pure,
      authenticate_quiet, byEmail_quiet, hs, h.visible]
    exact ⟨.of_hashable (fun _ => id) rfl, rfl⟩

end Service

/-- A transaction that was ended somewhere in a history, in a database to which any history has
led from there. It can be neither committed nor rolled back. Every store that has been bound to
it, whenever this was and in whatever state, refuses every call for this reason alone; a business
over such a store reports it as a failure of storage. None of this changes anything. -/
theorem Database.ended_for_good {σ π : Type} [Publisher σ π] (h h' : History) (tx : Nat)
    (hend : ∃ o ∈ empty.trace h, o.Ends tx) (p : Slot σ Database) (hp : p.Lawful) (m : Moment)
    (s : σ) (hs : p.get s = empty.after (h ++ h')) :
    MemoryStore.commit p tx m s = ⟨.error .completed, [], s⟩ ∧
    MemoryStore.rollback p tx m s = ⟨.error .completed, [], s⟩ ∧
    ∀ (base store : MemoryStore σ) (m₀ : Moment) (s₀ : σ), base.database = p →
      (Storer.newWithTx base (.memory base.number tx) m₀ s₀).result = .ok store →
      (∀ request : Call, request.on store m s = ⟨.error (.tx .completed), [], s⟩) ∧
      ∀ (publisher : π) (request : Request),
        let o := request.on (⟨store, publisher⟩ : Service (MemoryStore σ) π) m s
        request.Turned m o.result ∧ o.state = s := by
  obtain ⟨o, hm, ho⟩ := hend
  have hended : (p.get s).Ended tx := by
    rw [hs, after_append]
    exact (ended_of_mem_trace ho hm).after h'
  refine ⟨MemoryStore.commit_ended hp hended, MemoryStore.rollback_ended hp hended, ?_⟩
  intro base store m₀ s₀ hbase hstore
  obtain rfl := MemoryStore.of_newWithTx hstore
  subst hbase
  refine ⟨MemoryStore.call_ended rfl hended, ?_⟩
  intro publisher request
  exact Service.request_ended rfl hended request

/-- A commit met a conflict, since the row that it would change had gone. Afterwards the number
of the transaction is used again and the row comes back. The store that was bound at first still
refuses to list, even by a field that there is not, and nobody is authenticated in it. -/
theorem Database.ended_by_conflict :
    let h := Sample.history
      [.call .shared (.edit (.create (Sample.user 1 "ada@old.org"))), .begin 7,
        .call (.inside 7) (.edit (.update (Sample.user 1 "ada@new.org"))),
        .call .shared (.edit (.delete (Sample.user 1 "ada@old.org"))), .commit 7]
    let h' := Sample.history
      [.begin 7, .call .shared (.edit (.create (Sample.user 1 "ada@old.org")))]
    let d := empty.after (h ++ h')
    let base := MemoryStore.shared 0 Slot.whole
    let store : MemoryStore Database := ⟨0, .whole, .inside 7⟩
    let core : Service (MemoryStore Database) (Outlet Database Unit) :=
      ⟨store, .failing "files" ⟨"down", []⟩⟩
    (∃ o ∈ empty.trace h, o.Ends 7) ∧
      (Storer.newWithTx base (.memory 0 7) Sample.moment empty).result = .ok store ∧
      (Call.read (.list .all ⟨"shoe size", .asc⟩ .default)).on store Sample.moment d =
        ⟨.error (.tx .completed), [], d⟩ ∧
      ∃ e, (Request.on core (.authenticate ⟨"ada@old.org"⟩ "secret") Sample.moment d).result =
        .error e ∧ e.kind = .storage := by
  intro h h' d base store core
  have hend : ∃ o ∈ empty.trace h, o.Ends 7 :=
    ⟨_, List.mem_of_getLast? rfl, .conflicted rfl rfl⟩
  have hbound : (Storer.newWithTx base (.memory 0 7) Sample.moment empty).result = .ok store := rfl
  obtain ⟨-, -, hstore⟩ := ended_for_good (π := Outlet Database Unit) h h' 7 hend .whole
    Slot.whole_lawful Sample.moment d rfl
  obtain ⟨hcall, hrequest⟩ := hstore base store Sample.moment empty rfl hbound
  obtain ⟨hturned, -⟩ := hrequest core.publisher (.authenticate ⟨"ada@old.org"⟩ "secret")
  obtain ⟨e, he, hkind, -⟩ := hturned.storage fun _ => id
  exact ⟨hend, hbound, hcall _, e, he, hkind⟩

end Accounts

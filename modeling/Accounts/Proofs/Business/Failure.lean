import Accounts.Proofs.Business.Authentication
import Accounts.Proofs.Business.Ended
import Accounts.Proofs.Store.Shown

/-!
# What a failure leaves behind

An operation of the core that fails has changed nothing, with one exception: a deletion that
could not be announced has taken the row. A password that cannot be hashed is refused before the
store is asked.
-/

namespace Accounts

/-- The row under an id has gone from what a scope shows, and nothing else is different: neither
another shared row, nor another staged write, nor another transaction. -/
structure Database.Removal (d : Database) (scope : Scope) (id : Uuid) (d' : Database) : Prop where
  shown : ∃ rows rows', d.visible scope = .ok rows ∧ d'.visible scope = .ok rows' ∧
    rows.find? id ≠ none ∧ ∀ i, rows'.find? i = if i = id then none else rows.find? i
  table : ∀ i, (scope = .shared → i ≠ id) → d'.table.find? i = d.table.find? i
  staged : ∀ tx i, (scope = .inside tx → i ≠ id) →
    (d'.writes? tx).map (·.find? i) = (d.writes? tx).map (·.find? i)
  others : ∀ tx, scope ≠ .inside tx → d'.txs.find? tx = d.txs.find? tx

namespace Database

variable {d d' : Database} {scope : Scope} {user : User}

theorem visible_of_change_ok {check : Table → Except StoreError Change}
    (h : d.change check scope = .ok d') : ∃ rows, d.visible scope = .ok rows := by
  cases scope with
  | shared => exact ⟨_, rfl⟩
  | inside tx =>
    rw [Database.change] at h
    rw [Database.visible]
    cases hw : d.writes? tx with
    | none =>
      rw [hw] at h
      cases h
    | some writes => exact ⟨_, rfl⟩

theorem contains_of_delete {rows : Table} {change : Change}
    (h : Change.delete user rows = .ok change) : rows.find? user.id ≠ none := by
  intro hn
  rw [Change.delete, Keyed.contains_eq_false_iff.mpr hn] at h
  cases h

theorem removal_of_delete (h : d.change (Change.delete user) scope = .ok d') :
    d.Removal scope user.id d' := by
  obtain ⟨rows, hv⟩ := visible_of_change_ok h
  have he : Effect d (.call scope (.edit (.delete user))) (.ok .done) d' :=
    .of_change (e := .delete user) h
  obtain ⟨rows', hv', hrows⟩ := visible_of_change (e := .delete user) hv h
  have hothers : ∀ tx, scope ≠ .inside tx → d'.txs.find? tx = d.txs.find? tx := fun _ htx =>
    he.txs_other htx
  refine ⟨⟨rows, rows', hv, hv', ?_, ?_⟩, ?_, ?_, hothers⟩
  · cases he with
    | edited hc =>
      cases hv
      exact contains_of_delete hc
    | staged hw hc =>
      rw [Database.visible, hw] at hv
      cases hv
      exact contains_of_delete hc
  · intro i
    rw [hrows i, Keyed.find?_assign]
    simp only [Edit.id, Edit.row, Edit.change, Change.id, Change.row, eq_comm]
  · intro i hi
    cases he with
    | edited => exact (Keyed.find?_erase ..).trans (if_neg (Ne.symm (hi rfl)))
    | staged => rfl
  · intro tx i hi
    by_cases htx : scope = .inside tx
    · subst htx
      cases he with
      | @staged _ _ writes hw =>
        rw [writes?_insert, if_pos rfl, hw]
        refine congrArg some ?_
        exact (Writes.find?_stage ..).trans (if_neg (Ne.symm (hi rfl)))
    · rw [writes?, writes?, hothers tx htx]

end Database

-- ---------------------------------------------------------------------------
-- Failures of the core
-- ---------------------------------------------------------------------------

theorem UserUpdate.hash_error {changes : UserUpdate} {m : Moment} {fault : Bcrypt.Error}
    (h : changes.hash m = .error fault) :
    ∃ password, changes.password = some password ∧ Password.hash m.salt password = .error fault := by
  rw [hash] at h
  cases hp : changes.password with
  | none =>
    rw [hp] at h
    cases h
  | some password =>
    rw [hp] at h
    refine ⟨password, rfl, ?_⟩
    dsimp only at h
    cases hr : Password.hash m.salt password with
    | error error =>
      rw [hr] at h
      cases h
      rfl
    | ok text =>
      rw [hr] at h
      cases h

theorem StoreError.kind_ne_notification (e : StoreError) : e.kind ≠ .notification := by
  cases e <;> exact ErrorKind.noConfusion

theorem Reading.kind_failure (r : Reading) (e : StoreError) : (r.failure e).kind = e.kind := by
  cases r with
  | list => exact UserError.kind_store "query" e
  | count => exact UserError.kind_store "count" e
  | byId id => exact UserError.kind_lookup (.id id) e
  | byEmail email => exact UserError.kind_lookup (.email email) e

/-- What, if it failed, has left the state `s` as it was and is no notification that failed. -/
def Harmless {σ α : Type} (s : σ) (o : Except UserError α × σ) : Prop :=
  ∀ e, o.1 = .error e → e.kind ≠ .notification ∧ o.2 = s

namespace Harmless

variable {σ α : Type} {s s' : σ}

theorem of_error {e : UserError} (h : e.kind ≠ .notification) :
    Harmless s ((.error e, s) : Except UserError α × σ) := by
  rintro _ ⟨⟩
  exact ⟨h, rfl⟩

theorem of_ok (a : α) : Harmless s (.ok a, s') := by
  rintro _ ⟨⟩

end Harmless

namespace Service

variable {σ π : Type} [Publisher σ π] {core : Service (MemoryStore σ) π} {m : Moment} {s s' : σ}
  {e : UserError}

theorem create_harmless (actor : Uuid) (new : NewUser) :
    Harmless s ((Request.on core (.create actor new)).quiet m s) := by
  simp only [Request.on, Business.create, Operation.quiet_bind, Operation.quiet_pure, create_quiet]
  cases Password.hash m.salt new.password with
  | error fault => exact .of_error ErrorKind.noConfusion
  | ok hash =>
    dsimp only
    cases (core.store.database.get s).change (Change.create (new.row hash m)) core.store.scope with
    | error e => exact .of_error (UserError.kind_store "create" e ▸ e.kind_ne_notification)
    | ok d => exact .of_ok _

theorem update_harmless (actor : Uuid) (user : User) (changes : UserUpdate) :
    Harmless s ((Request.on core (.update actor user changes)).quiet m s) := by
  simp only [Request.on, Business.update, Operation.quiet_bind, Operation.quiet_pure, update_quiet]
  cases changes.hash m with
  | error fault => exact .of_error ErrorKind.noConfusion
  | ok hash =>
    dsimp only
    cases (core.store.database.get s).change (Change.update (changes.apply hash m.now user))
      core.store.scope with
    | error e => exact .of_error (UserError.kind_store "update" e ▸ e.kind_ne_notification)
    | ok d => exact .of_ok _

theorem read_harmless (r : Reading) : Harmless s ((Request.on core (.read r)).quiet m s) := by
  rw [Request.on, read_quiet]
  cases (core.store.database.get s).visible core.store.scope >>= r.answer with
  | error e => exact .of_error (r.kind_failure e ▸ e.kind_ne_notification)
  | ok answer => exact .of_ok _

theorem kind_of_judge {password : String} {found : Except UserError User}
    (h : judge password found = .error e) (hf : ∀ error, found = .error error →
      error.kind ≠ .notification) : e.kind ≠ .notification := by
  cases found with
  | ok user =>
    rw [judge] at h
    split at h
    · cases h
    · cases h
      exact ErrorKind.noConfusion
  | error error =>
    rw [judge] at h
    split at h
    · cases h
      exact ErrorKind.noConfusion
    · cases h
      exact hf e rfl

theorem authenticate_harmless (email : Email) (password : String) :
    Harmless s ((Request.on core (.authenticate email password)).quiet m s) := by
  simp only [Request.on, Business.authenticate, Operation.quiet_bind, Operation.quiet_pure,
    authenticate_quiet, byEmail_quiet]
  generalize (core.store.database.get s).visible core.store.scope >>= _ = looked
  cases hj : judge password (looked.mapError (.lookup (.email email))) with
  | ok user => exact .of_ok _
  | error e =>
    refine .of_error (kind_of_judge hj fun error hf => ?_)
    cases looked with
    | ok user => cases hf
    | error e =>
      cases hf
      exact UserError.kind_lookup (.email email) e ▸ e.kind_ne_notification

/-- A deletion that fails has either been refused by the store or not been announced. -/
theorem delete_failed {actor : Uuid} {user : User}
    (h : (Request.on core (.delete actor user)).quiet m s = (.error e, s')) :
    (e.kind ≠ .notification ∧ s' = s) ∨
      ∃ d, e.kind = .notification ∧
        (core.store.database.get s).change (Change.delete user) core.store.scope = .ok d ∧
        s' = (Publisher.publish core.publisher (.deleted user.id m.now) m
          (core.store.database.set d s)).state := by
  simp only [Request.on, Business.delete, Operation.quiet_bind, Operation.quiet_pure,
    delete_quiet] at h
  cases hc : (core.store.database.get s).change (Change.delete user) core.store.scope with
  | error error =>
    rw [hc] at h
    cases h
    exact .inl ⟨UserError.kind_store "delete" error ▸ error.kind_ne_notification, rfl⟩
  | ok d =>
    rw [hc] at h
    refine .inr ⟨d, ?_⟩
    dsimp only [Operation.quiet] at h
    generalize Publisher.publish core.publisher (.deleted user.id m.now) m
      (core.store.database.set d s) = published at h ⊢
    obtain ⟨error | _, signals, state⟩ := published
    · cases h
      exact ⟨rfl, rfl, rfl⟩
    · cases h

/-- A business can be bound or not; either way nothing has changed. -/
theorem newWithTx_state (handle : TxHandle) :
    (Business.newWithTx core handle m s).state = s := by
  have hquiet : (Business.newWithTx core handle).quiet m s =
      (((core.store.newWithTx handle).mapError (.store "newwithtx")).map
        fun store => { core with store := store }, s) := by
    simp only [Business.newWithTx, newWithTx, Storer.newWithTx, Operation.quiet_bind,
      Operation.quiet_mapError, Operation.quiet_ofExcept, Operation.quiet_pure]
    cases core.store.newWithTx handle <;> rfl
  exact (Prod.mk.inj hquiet).2

-- ---------------------------------------------------------------------------
-- Passwords that cannot be hashed
-- ---------------------------------------------------------------------------

theorem hash_run_error {password : String} {fault : Bcrypt.Error}
    (h : Password.hash m.salt password = .error fault) :
    (hash password : Operation σ UserError String) m s = ⟨.error (.hashing fault), [], s⟩ := by
  rw [hash_run, h]
  rfl

/-- What an operation shows that fails before it has done anything. -/
def refusal (operation : String) (fields : Fields) (e : UserError) : List Signal :=
  [.opened ("business.userbus." ++ operation) fields, .failure e.message,
    .closed ("business.userbus." ++ operation)]

theorem spanned_error {α β : Type} {x : Operation σ UserError α}
    {f : α → Operation σ UserError β} (h : x m s = ⟨.error e, [], s⟩) (operation : String)
    (fields : Fields) :
    spanned operation fields (x >>= f) m s = ⟨.error e, refusal operation fields e, s⟩ := by
  simp only [spanned, Operation.traced, Operation.bind_run, Operation.bind, h]
  rfl

/-- The password is hashed before anything is asked of the store, so that the outcome is the same
over every store and every publisher. -/
theorem unhashable_outcome {request : Request} {fault : Bcrypt.Error}
    (h : request.Unhashable m fault) (s : σ) :
    ∃ signals, ∀ {ρ₁ π₁ : Type} [Storer σ ρ₁] [Publisher σ π₁] (core₁ : Service ρ₁ π₁),
      request.on core₁ m s = ⟨.error (.hashing fault), signals, s⟩ := by
  cases request with
  | create actor new =>
    refine ⟨refusal "create" [("actor_id", actor.text), ("email", new.email.address)]
      (.hashing fault), fun core₁ => ?_⟩
    have hcreate : Business.create core₁ actor new m s = _ :=
      spanned_error (hash_run_error h) "create" _
    simp only [Request.on, Operation.bind_run, Operation.bind, hcreate]
  | update actor user changes =>
    obtain ⟨password, hp, hh⟩ := UserUpdate.hash_error h
    refine ⟨refusal "update" [("actor_id", actor.text), ("user_id", user.id.text)]
      (.hashing fault), fun core₁ => ?_⟩
    have hhash : (some <$> hash password : Operation σ UserError (Option String)) m s =
        ⟨.error (.hashing fault), [], s⟩ := by
      rw [map_eq_pure_bind, Operation.bind_error (by rw [hash_run_error hh])]
      rw [hash_run_error hh]
    have hupdate : Business.update core₁ actor user changes m s =
        ⟨.error (.hashing fault), refusal "update" [("actor_id", actor.text),
          ("user_id", user.id.text)] (.hashing fault), s⟩ := by
      simp only [Business.update, update, hp]
      exact spanned_error hhash "update" _
    simp only [Request.on, Operation.bind_run, Operation.bind, hupdate]
  | delete | read | authenticate => cases h

end Service

namespace Office

variable {σ π : Type} [Publisher σ π]

/-- An operation that fails has changed nothing, in whichever scope it works and whether or not
the scope is open. Only a deletion that could not be announced has taken the row of its user from
its scope, and nothing else has changed in the database. A password that cannot be hashed fails
the operation in the same way over every store and every publisher, so that neither is asked. -/
theorem failure_leaves_rows (o : Office σ π) (scope : Scope) (m : Moment) (s : σ) :
    let core := o.inScope scope
    (∀ (request : Request) (e : UserError), (request.on core m s).result = .error e →
      (e.kind ≠ .notification → (request.on core m s).state = s) ∧
      (e.kind = .notification → ∃ actor user, request = .delete actor user ∧
        (o.database.get s).Removal scope user.id
          (o.database.get (request.on core m s).state))) ∧
    (∀ handle, (Business.newWithTx core handle m s).state = s) ∧
    ∀ (request : Request) (fault : Bcrypt.Error), request.Unhashable m fault →
      ∃ signals, ∀ {ρ₁ π₁ : Type} [Storer σ ρ₁] [Publisher σ π₁] (core₁ : Service ρ₁ π₁),
        request.on core₁ m s = ⟨.error (.hashing fault), signals, s⟩ := by
  intro core
  refine ⟨?_, Service.newWithTx_state, fun request fault h => Service.unhashable_outcome h s⟩
  intro request e he
  -- all but the deletion are harmless
  have hkept : (e.kind ≠ .notification ∧ (request.on core m s).state = s) →
      (e.kind ≠ .notification → (request.on core m s).state = s) ∧
      (e.kind = .notification → ∃ actor user, request = .delete actor user ∧
        (o.database.get s).Removal scope user.id
          (o.database.get (request.on core m s).state)) := fun ⟨hk, hs⟩ =>
    ⟨fun _ => hs, fun hk' => absurd hk' hk⟩
  cases request with
  | create actor new => exact hkept (Service.create_harmless actor new e he)
  | update actor user changes => exact hkept (Service.update_harmless actor user changes e he)
  | read r => exact hkept (Service.read_harmless r e he)
  | authenticate email password => exact hkept (Service.authenticate_harmless email password e he)
  | delete actor user =>
    have hquiet : (Request.on core (.delete actor user)).quiet m s =
        (.error e, (Request.on core (.delete actor user) m s).state) := Prod.ext he rfl
    obtain hs | ⟨d, hk, hc, hs⟩ := Service.delete_failed hquiet
    · exact hkept hs
    · refine ⟨fun hk' => absurd hk hk', fun _ => ⟨actor, user, rfl, ?_⟩⟩
      have hd : o.database.get (Request.on core (.delete actor user) m s).state = d := by
        rw [hs]
        exact (o.apart ..).trans (o.lawful.get_set d s)
      rw [hd]
      exact Database.removal_of_delete hc

/-- Inside of a transaction a deletion takes one of two rows and cannot be announced: the shared
rows are as before, the other row can still be seen, and the transaction beside it is untouched. A
second deletion of the row changes nothing. -/
theorem failure_leaves_other_rows :
    let ada := Sample.user 1 "ada@old.org"
    let bob := Sample.user 2 "bob@old.org"
    let d := Database.empty.after (Sample.history
      [.call .shared (.edit (.create ada)), .call .shared (.edit (.create bob)), .begin 7,
        .begin 8, .call (.inside 8) (.edit (.delete bob))])
    let core := Sample.office.inScope (.inside 7)
    let o := Request.on core (.delete ⟨0⟩ ada) Sample.moment d
    let o' := Request.on core (.delete ⟨0⟩ ada) Sample.moment o.state
    (∃ e, o.result = .error e ∧ e.kind = .notification) ∧
      d.Removal (.inside 7) ada.id o.state ∧
      (∃ e, o'.result = .error e ∧ e.kind = .notFound) ∧ o'.state = o.state := by
  intro ada bob d core o o'
  have ho : o.result =
      .error (.notification "deleted" (.handler "files" "deleted" ⟨"down", []⟩)) := by
    decide
  have ho' : o'.result = .error (.storage "delete" .notFound) := by
    decide
  -- what is left behind is told by the theorem and not worked out
  clear_value d
  obtain ⟨hfailed, -⟩ := failure_leaves_rows Sample.office (.inside 7) Sample.moment d
  obtain ⟨hfailed', -⟩ := failure_leaves_rows Sample.office (.inside 7) Sample.moment o.state
  obtain ⟨_, _, ⟨⟩, hremoval⟩ := (hfailed _ _ ho).2 rfl
  exact ⟨⟨_, ho, rfl⟩, hremoval, ⟨_, ho', rfl⟩, (hfailed' _ _ ho').1 ErrorKind.noConfusion⟩

end Office

end Accounts

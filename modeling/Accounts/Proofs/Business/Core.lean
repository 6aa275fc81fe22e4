import Accounts.Business.Service
import Accounts.Proofs.Operation
import Accounts.Proofs.Store.History

/-!
# The core over a store in memory

What every operation of the core gives and leaves behind, signals apart, in terms of the database
that its store is kept in.
-/

namespace Accounts

/-- The row that is made of a request for a new user. -/
def NewUser.row (new : NewUser) (hash : String) (m : Moment) : User where
  id := m.id
  name := new.name
  email := new.email
  passwordHash := hash
  roles := new.roles
  department := new.department
  enabled := true
  created := m.now
  updated := m.now

/-- The hash of the new password, if there is one. -/
def UserUpdate.hash (changes : UserUpdate) (m : Moment) : Except Bcrypt.Error (Option String) :=
  match changes.password with
  | some password => some <$> Password.hash m.salt password
  | none => .ok none

theorem UserUpdate.hash_ok {changes : UserUpdate} {m : Moment} {hash : Option String}
    (h : changes.hash m = .ok hash) :
    changes.password = none ∧ hash = none ∨
      ∃ password text, changes.password = some password ∧ hash = some text ∧
        Password.hash m.salt password = .ok text := by
  rw [UserUpdate.hash] at h
  cases hp : changes.password with
  | none =>
    rw [hp] at h
    cases h
    exact .inl ⟨rfl, rfl⟩
  | some password =>
    rw [hp] at h
    dsimp only at h
    cases ht : Password.hash m.salt password with
    | error e =>
      rw [ht] at h
      cases h
    | ok text =>
      rw [ht] at h
      cases h
      exact .inr ⟨password, text, rfl, rfl, ht⟩

namespace Reading

def ask {σ β : Type} [Business σ β] (business : β) : Reading → Operation σ UserError Answer
  | .list filter orderBy page => return .users (← Business.query business filter orderBy page)
  | .count filter => return .count (← Business.count business filter)
  | .byId id => return .user (← Business.byId business id)
  | .byEmail email => return .user (← Business.byEmail business email)

/-- How a failure of the store is reported. -/
def failure : Reading → StoreError → UserError
  | .list .. => .store "query"
  | .count _ => .store "count"
  | .byId id => .lookup (.id id)
  | .byEmail email => .lookup (.email email)

end Reading

namespace MemoryStore

variable {σ : Type} {m : Moment} {s : σ}

theorem change_quiet (store : MemoryStore σ) (check : Table → Except StoreError Change) :
    (store.change check).quiet m s =
      match (store.database.get s).change check store.scope with
      | .ok d => (.ok (), store.database.set d s)
      | .error e => (.error e, s) := by
  simp only [Operation.quiet, MemoryStore.change_run]
  cases (store.database.get s).change check store.scope <;> rfl

theorem rows_quiet (store : MemoryStore σ) :
    store.rows.quiet m s = ((store.database.get s).visible store.scope, s) := by
  rw [Operation.quiet, MemoryStore.rows_run]

theorem found_quiet (user : Option User) :
    (found user : Operation σ StoreError User).quiet m s =
      (user.elim (.error .notFound) .ok, s) := by
  cases user <;> rfl

end MemoryStore

namespace Service

variable {σ ρ π : Type}

/-- The hash of the new password, if there is one, with the salt of the moment. -/
def rehash (changes : UserUpdate) : Operation σ UserError (Option String) :=
  match changes.password with
  | some password => some <$> Service.hash password
  | none => pure none

/-- What an update does when its password has been hashed. -/
def merge [Storer σ ρ] (core : Service ρ π) (user : User) (changes : UserUpdate)
    (text : Option String) : Operation σ UserError User := do
  let m ← Operation.moment
  let user := changes.apply text m.now user
  (Storer.update core.store user).mapError (.store "update")
  Operation.emit (.info "user updated" [])
  return user

theorem update_eq [Storer σ ρ] (core : Service ρ π) (actor : Uuid) (user : User)
    (changes : UserUpdate) :
    core.update actor user changes =
      spanned "update" [("actor_id", actor.text), ("user_id", user.id.text)]
        (rehash changes >>= core.merge user changes) := by
  rw [update, rehash]
  cases changes.password <;> rfl

variable {m : Moment} {s : σ}

theorem hash_run (password : String) :
    (Service.hash password : Operation σ UserError String) m s =
      ⟨(Password.hash m.salt password).mapError .hashing, [], s⟩ := by
  rw [Service.hash, Operation.bind_of_run Operation.moment_run, Operation.ofExcept_run]

theorem rehash_run (changes : UserUpdate) :
    (rehash changes : Operation σ UserError (Option String)) m s =
      ⟨(changes.hash m).mapError .hashing, [], s⟩ := by
  rw [rehash, UserUpdate.hash]
  cases changes.password with
  | none => rfl
  | some password =>
    dsimp only
    rw [← bind_pure_comp, Operation.bind_return_run, hash_run]
    cases Password.hash m.salt password <;> rfl

theorem hash_quiet (password : String) :
    (Service.hash password : Operation σ UserError String).quiet m s =
      ((Password.hash m.salt password).mapError .hashing, s) := by
  rw [Operation.quiet, hash_run]

end Service

namespace Service

variable {σ π : Type} (core : Service (MemoryStore σ) π) {m : Moment} {s : σ}

theorem create_quiet (actor : Uuid) (new : NewUser) :
    (core.create actor new).quiet m s =
      match Password.hash m.salt new.password with
      | .error e => (.error (.hashing e), s)
      | .ok hash =>
        match (core.store.database.get s).change (Change.create (new.row hash m))
          core.store.scope with
        | .error e => (.error (.store "create" e), s)
        | .ok d => (.ok (new.row hash m), core.store.database.set d s) := by
  simp only [Service.create, Service.spanned, Operation.quiet_traced, Operation.quiet_bind,
    hash_quiet, Operation.quiet_moment, Operation.quiet_mapError, Operation.quiet_emit,
    Operation.quiet_pure]
  cases Password.hash m.salt new.password with
  | error e => rfl
  | ok hash =>
    simp only [Except.mapError, Storer.create, MemoryStore.change_quiet, NewUser.row]
    generalize (core.store.database.get s).change _ core.store.scope = changed
    cases changed <;> rfl

theorem update_quiet (actor : Uuid) (user : User) (changes : UserUpdate) :
    (core.update actor user changes).quiet m s =
      match changes.hash m with
      | .error e => (.error (.hashing e), s)
      | .ok hash =>
        match (core.store.database.get s).change (Change.update (changes.apply hash m.now user))
          core.store.scope with
        | .error e => (.error (.store "update" e), s)
        | .ok d => (.ok (changes.apply hash m.now user), core.store.database.set d s) := by
  -- what follows the hashing
  have hrest : ∀ hash, (do
      let m ← Operation.moment
      let user := changes.apply hash m.now user
      (Storer.update core.store user).mapError (.store "update")
      Operation.emit (.info "user updated" [])
      return user : Operation σ UserError User).quiet m s =
        match (core.store.database.get s).change (Change.update (changes.apply hash m.now user))
          core.store.scope with
        | .error e => (.error (.store "update" e), s)
        | .ok d => (.ok (changes.apply hash m.now user), core.store.database.set d s) := by
    intro hash
    simp only [Operation.quiet_bind, Operation.quiet_moment, Operation.quiet_mapError,
      Operation.quiet_emit, Operation.quiet_pure, Storer.update, MemoryStore.change_quiet]
    generalize (core.store.database.get s).change _ core.store.scope = changed
    cases changed <;> rfl
  rw [Service.update, Service.spanned, Operation.quiet_traced, UserUpdate.hash]
  cases changes.password with
  | none => exact hrest none
  | some password =>
    dsimp only
    rw [Operation.quiet_bind, Operation.quiet_map, hash_quiet]
    cases Password.hash m.salt password with
    | error e => rfl
    | ok hash => exact hrest (some hash)

/-- The row has gone before the event is published. -/
theorem delete_quiet [Publisher σ π] (actor : Uuid) (user : User) :
    (core.delete actor user).quiet m s =
      match (core.store.database.get s).change (Change.delete user) core.store.scope with
      | .error e => (.error (.store "delete" e), s)
      | .ok d =>
        let published := (Publisher.publish core.publisher (.deleted user.id m.now)).quiet m
          (core.store.database.set d s)
        (published.1.mapError (.notification Event.actionDeleted), published.2) := by
  simp only [Service.delete, Service.spanned, Operation.quiet_traced, Operation.quiet_bind,
    Operation.quiet_moment, Operation.quiet_mapError, Operation.quiet_emit, Storer.delete,
    MemoryStore.change_quiet]
  cases (core.store.database.get s).change (Change.delete user) core.store.scope with
  | error e => rfl
  | ok d =>
    simp only [Except.mapError]
    generalize (Publisher.publish core.publisher _).quiet m _ = published
    obtain ⟨_ | _, _⟩ := published <;> rfl

theorem byEmail_quiet (email : Email) :
    (core.byEmail email).quiet m s =
      (((core.store.database.get s).visible core.store.scope >>= fun rows =>
        (rows.byEmail? email).elim (.error .notFound) .ok).mapError (.lookup (.email email)),
        s) := by
  simp only [Service.byEmail, Service.spanned, Operation.quiet_traced, Operation.quiet_bind,
    Operation.quiet_mapError, Storer.byEmail, MemoryStore.rows_quiet]
  cases (core.store.database.get s).visible core.store.scope with
  | error e => rfl
  | ok rows =>
    simp only [MemoryStore.found_quiet]
    rfl

theorem read_quiet [Publisher σ π] (r : Reading) :
    (r.ask core).quiet m s =
      (((core.store.database.get s).visible core.store.scope >>= r.answer).mapError r.failure,
        s) := by
  cases r with
  | list filter orderBy page =>
    simp only [Reading.ask, Business.query, Service.query, Service.spanned, Storer.query,
      MemoryStore.query, Operation.quiet_bind, Operation.quiet_traced, Operation.quiet_mapError,
      Operation.quiet_emit, Operation.quiet_pure, Operation.quiet_ofExcept,
      MemoryStore.rows_quiet]
    cases (core.store.database.get s).visible core.store.scope with
    | error e => rfl
    | ok rows =>
      dsimp only [bind, Except.bind, Reading.answer]
      cases Listing.select rows filter orderBy page <;> rfl
  | count filter =>
    simp only [Reading.ask, Business.count, Service.count, Service.spanned, Storer.count,
      Operation.quiet_bind, Operation.quiet_traced, Operation.quiet_mapError,
      Operation.quiet_pure, MemoryStore.rows_quiet]
    cases (core.store.database.get s).visible core.store.scope <;> rfl
  | byId id =>
    simp only [Reading.ask, Business.byId, Service.byId, Service.spanned, Storer.byId,
      Operation.quiet_bind, Operation.quiet_traced, Operation.quiet_mapError,
      Operation.quiet_pure, MemoryStore.rows_quiet]
    cases (core.store.database.get s).visible core.store.scope with
    | error e => rfl
    | ok rows =>
      simp only [MemoryStore.found_quiet, bind, Except.bind, Reading.answer]
      cases rows.find? id <;> rfl
  | byEmail email =>
    simp only [Reading.ask, Business.byEmail, Operation.quiet_bind, Operation.quiet_pure,
      byEmail_quiet]
    cases (core.store.database.get s).visible core.store.scope with
    | error e => rfl
    | ok rows =>
      simp only [bind, Except.bind, Reading.answer]
      cases rows.byEmail? email <;> rfl

/-- What an authentication makes of the look-up of the address. -/
def judge (password : String) : Except UserError User → Except UserError User
  | .ok user =>
    if Password.verify password user.passwordHash then .ok user else .error .authenticationFailure
  | .error e => if e.isNotFound then .error .authenticationFailure else .error e

theorem judge_eq_ok {password : String} {found : Except UserError User} {user : User} :
    judge password found = .ok user ↔
      found = .ok user ∧ Password.verify password user.passwordHash = true := by
  cases found with
  | ok other =>
    simp only [judge, Except.ok.injEq]
    split
    · rename_i hv
      constructor
      · rintro ⟨⟩
        exact ⟨rfl, hv⟩
      · rintro ⟨rfl, -⟩
        rfl
    · rename_i hv
      constructor
      · rintro ⟨⟩
      · rintro ⟨rfl, hv'⟩
        exact absurd hv' hv
  | error e =>
    simp only [judge]
    split <;> simp

/-- Over any store. -/
theorem authenticate_quiet {ρ : Type} [Storer σ ρ] (core : Service ρ π) (email : Email)
    (password : String) :
    (core.authenticate email password).quiet m s =
      (judge password ((core.byEmail email).quiet m s).1, ((core.byEmail email).quiet m s).2) := by
  simp only [Service.authenticate, Service.spanned, Operation.quiet_traced, Operation.quiet_bind,
    Operation.quiet_attempt]
  generalize (core.byEmail email).quiet m s = looked
  obtain ⟨e | user, s'⟩ := looked
  · dsimp only [judge]
    split <;> rfl
  · dsimp only [judge]
    split <;> rfl

end Service

end Accounts

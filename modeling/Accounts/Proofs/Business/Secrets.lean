import Accounts.Proofs.Bcrypt.Verification
import Accounts.Proofs.Business.Course
import Accounts.Proofs.Delegate.Alike
import Accounts.Proofs.Store.Masked
import Accounts.World

/-!
# Secrets stay hidden

Requests of the core are compared that differ in passwords and hashes only, on databases that
differ in hashes only. They show the same signals and fail with the same errors, and what they
hand out differs in hashes only.
-/

namespace Accounts

def NewUser.masked (new : NewUser) : NewUser :=
  { new with password := "" }

/-- There is still a password if there was one. -/
def UserUpdate.masked (changes : UserUpdate) : UserUpdate :=
  { changes with password := changes.password.map fun _ => "" }

/-- Both passwords can be hashed, or both are too long and as long as each other. -/
def Password.Alike (salt salt' : Bcrypt.Salt) (password password' : String) : Prop :=
  (∃ text text', hash salt password = .ok text ∧ hash salt' password' = .ok text') ∨
    ∃ e e', hash salt password = .error e ∧ hash salt' password' = .error e' ∧
      password.utf8ByteSize = password'.utf8ByteSize

section
variable {σ π : Type}

/-- Two states that are one but for the database, which is the same in both but for its hashes. -/
def Slot.Veiled (p : Slot σ Database) (s t t' : σ) : Prop :=
  ∃ d d', d.masked = d'.masked ∧ t = p.set d s ∧ t' = p.set d' s

/-- Whether an event is published, and what is shown of it, does not depend on hashes. -/
def Slot.Discreet [Publisher σ π] (p : Slot σ Database) (publisher : π) (event : Event)
    (m m' : Moment) (s : σ) : Prop :=
  ∀ d d', d.masked = d'.masked →
    let o := Publisher.publish publisher event m (p.set d s)
    let o' := Publisher.publish publisher event m' (p.set d' s)
    o.result = o'.result ∧ o.signals = o'.signals

/-- Two requests that differ in secrets only, and get as far. -/
inductive Request.Alike [Publisher σ π] (core : Service (MemoryStore σ) π) (m m' : Moment)
    (s s' : σ) : Request → Request → Prop
  | create {actor : Uuid} {new new' : NewUser} (hn : new.masked = new'.masked)
    (hp : Password.Alike m.salt m'.salt new.password new'.password) :
    Alike core m m' s s' (.create actor new) (.create actor new')
  | update {actor : Uuid} {user user' : User} {changes changes' : UserUpdate}
    (hu : user.masked = user'.masked) (hc : changes.masked = changes'.masked)
    (hp : ∀ password password', changes.password = some password →
      changes'.password = some password' → Password.Alike m.salt m'.salt password password') :
    Alike core m m' s s' (.update actor user changes) (.update actor user' changes')
  | delete {actor : Uuid} {user user' : User} (hu : user.masked = user'.masked)
    (hp : core.store.database.Discreet core.publisher (.deleted user.id m.now) m m' s) :
    Alike core m m' s s' (.delete actor user) (.delete actor user')
  | read (reading : Reading) : Alike core m m' s s' (.read reading) (.read reading)
  | authenticate {email : Email} {password password' : String}
    (hv : ∀ user user', (Business.byEmail core email m s).result = .ok user →
      (Business.byEmail core email m' s').result = .ok user' →
      Password.verify password user.passwordHash = Password.verify password' user'.passwordHash) :
    Alike core m m' s s' (.authenticate email password) (.authenticate email password')

end

theorem Password.Alike.hash {salt salt' : Bcrypt.Salt} {password password' : String}
    (h : Password.Alike salt salt' password password') :
    SameResult (fun _ _ => True) (Password.hash salt password) (Password.hash salt' password') := by
  obtain ⟨text, text', ht, ht'⟩ | ⟨e, e', he, he', hlength⟩ := h
  · rw [ht, ht']
    exact .ok trivial
  · rw [he, he', hash_error he, hash_error he', hlength]
    exact .error _

theorem NewUser.outline_masked (new : NewUser) : new.masked.outline = new.outline := rfl

theorem UserUpdate.outline_masked (changes : UserUpdate) :
    changes.masked.outline = changes.outline := by
  obtain ⟨_, _, _, _, _ | _, _⟩ := changes <;> rfl

theorem UserUpdate.apply_masked (changes : UserUpdate) (text : Option String) (now : Timestamp)
    (user : User) :
    (changes.apply text now user).masked = changes.masked.apply none now user.masked := rfl

-- ---------------------------------------------------------------------------
-- Stores
-- ---------------------------------------------------------------------------

section
variable {σ : Type} {p : Slot σ Database} {s t t' : σ}

theorem Slot.Veiled.get (hl : p.Lawful) (h : p.Veiled s t t') :
    (p.get t).masked = (p.get t').masked := by
  obtain ⟨d, d', hd, rfl, rfl⟩ := h
  rwa [hl.get_set, hl.get_set]

theorem Slot.Veiled.set (hl : p.Lawful) (h : p.Veiled s t t') {d d' : Database}
    (hd : d.masked = d'.masked) : p.Veiled s (p.set d t) (p.set d' t') := by
  obtain ⟨_, _, -, rfl, rfl⟩ := h
  exact ⟨d, d', hd, hl.set_set .., hl.set_set ..⟩

namespace MemoryStore

variable {store : MemoryStore σ} {m m' : Moment} (hl : store.database.Lawful)
  (ht : store.database.Veiled s t t')
include hl ht

theorem rows_alike :
    (store.rows m t).Alike (store.database.Veiled s) (fun rows rows' => rows.masked = rows'.masked)
      (store.rows m' t') := by
  rw [rows_run, rows_run]
  refine ⟨SameResult.map_eq_iff.mpr ?_, rfl, ht⟩
  rw [← Database.visible_masked, ← Database.visible_masked, ht.get hl]

/-- Two edits that are the same but for hashes are made or refused alike. -/
theorem edit_alike {e e' : Edit} (he : e.masked = e'.masked) :
    (store.change e.check m t).Alike (store.database.Veiled s) Eq
      (store.change e'.check m' t') := by
  have hchanged : SameResult (fun d d' => d.masked = d'.masked)
      ((store.database.get t).change e.check store.scope)
      ((store.database.get t').change e'.check store.scope) := by
    refine SameResult.map_eq_iff.mpr ?_
    rw [← Database.change_masked, ← Database.change_masked, ht.get hl, he]
  rw [change_run, change_run]
  generalize (store.database.get t).change e.check store.scope = r at hchanged ⊢
  generalize (store.database.get t').change e'.check store.scope = r' at hchanged ⊢
  cases hchanged with
  | ok hd => exact ⟨.ok rfl, rfl, ht.set hl hd⟩
  | error e => exact ⟨.error e, rfl, ht⟩

section
variable {u u' : User} (hu : u.masked = u'.masked)
include hu

theorem create_alike :
    (Storer.create store u m t).Alike (store.database.Veiled s) Eq
      (Storer.create store u' m' t') :=
  have he : (Edit.create u).masked = (Edit.create u').masked := congrArg Edit.create hu
  edit_alike hl ht he

theorem update_alike :
    (Storer.update store u m t).Alike (store.database.Veiled s) Eq
      (Storer.update store u' m' t') :=
  have he : (Edit.update u).masked = (Edit.update u').masked := congrArg Edit.update hu
  edit_alike hl ht he

theorem delete_alike :
    (Storer.delete store u m t).Alike (store.database.Veiled s) Eq
      (Storer.delete store u' m' t') :=
  have he : (Edit.delete u).masked = (Edit.delete u').masked := congrArg Edit.delete hu
  edit_alike hl ht he

end

omit hl in
theorem found_alike {u u' : Option User} (hu : u.map User.masked = u'.map User.masked) :
    (found u m t).Alike (store.database.Veiled s) (fun a b => a.masked = b.masked)
      (found u' m' t') := by
  cases u with
  | none =>
    cases u' with
    | none => exact ⟨.error _, rfl, ht⟩
    | some b => cases hu
  | some a =>
    cases u' with
    | none => cases hu
    | some b => exact ⟨.ok (Option.some.inj hu), rfl, ht⟩

theorem query_alike (filter : Filter) (orderBy : OrderBy) (page : Page) :
    (store.query filter orderBy page m t).Alike (store.database.Veiled s)
      (fun users users' => users.map User.masked = users'.map User.masked)
      (store.query filter orderBy page m' t') := by
  refine .bind (rows_alike hl ht) ?_
  intro rows rows' t t' hrows ht
  have hselect : SameResult (fun users users' => users.map User.masked = users'.map User.masked)
      (Listing.select rows filter orderBy page) (Listing.select rows' filter orderBy page) :=
    SameResult.map_eq_iff.mpr (by rw [← Listing.select_masked, ← Listing.select_masked, hrows])
  refine .bind (.ofExcept ht hselect) ?_
  intro users users' t t' husers ht
  have hlength : users.length = users'.length := by
    simpa using congrArg List.length husers
  rw [hlength]
  exact .bind_pure (.emit ht _) fun _ _ _ => husers

end MemoryStore

-- ---------------------------------------------------------------------------
-- The core
-- ---------------------------------------------------------------------------

namespace Service

variable {π : Type} {core : Service (MemoryStore σ) π} {m m' : Moment}

theorem hash_alike {password password' : String}
    (hp : Password.Alike m.salt m'.salt password password') (ht : p.Veiled s t t') :
    ((Service.hash password : Operation σ UserError String) m t).Alike (p.Veiled s)
      (fun _ _ => True) (Service.hash password' m' t') := by
  refine .bind (.moment ht) ?_
  rintro _ _ t t' ⟨rfl, rfl⟩ ht
  exact .ofExcept ht (hp.hash.mapError _)

section
variable (hl : core.store.database.Lawful) (hm : m.now = m'.now ∧ m.id = m'.id)
  (ht : core.store.database.Veiled s t t')
include hl hm ht

theorem create_alike (actor : Uuid) {new new' : NewUser} (hn : new.masked = new'.masked)
    (hp : Password.Alike m.salt m'.salt new.password new'.password) :
    (core.create actor new m t).Alike (core.store.database.Veiled s)
      (fun u u' => u.masked = u'.masked) (core.create actor new' m' t') := by
  obtain ⟨name, email, password, roles, department⟩ := new
  obtain ⟨name', email', password', roles', department'⟩ := new'
  obtain ⟨rfl, rfl, -, rfl, rfl⟩ := NewUser.mk.inj hn
  refine .traced (.bind (hash_alike hp ht) ?_) _ _ _
  intro text text' t t' _ ht
  refine .bind (.moment ht) ?_
  rintro _ _ t t' ⟨rfl, rfl⟩ ht
  simp only [hm.1, hm.2]
  refine .bind (.mapError (MemoryStore.create_alike hl ht ?_) _) ?_
  · rfl
  · intro _ _ t t' _ ht
    exact .bind_pure (.emit ht _) fun _ _ _ => rfl

theorem merge_alike {user user' : User} {changes changes' : UserUpdate}
    (hu : user.masked = user'.masked) (hc : changes.masked = changes'.masked)
    (text text' : Option String) :
    (core.merge user changes text m t).Alike (core.store.database.Veiled s)
      (fun u u' => u.masked = u'.masked) (core.merge user' changes' text' m' t') := by
  have happly : (changes.apply text m.now user).masked =
      (changes'.apply text' m'.now user').masked := by
    rw [UserUpdate.apply_masked, UserUpdate.apply_masked, hc, hu, hm.1]
  refine .bind (.moment ht) ?_
  rintro _ _ t t' ⟨rfl, rfl⟩ ht
  refine .bind (.mapError (MemoryStore.update_alike hl ht happly) _) ?_
  intro _ _ t t' _ ht
  exact .bind_pure (.emit ht _) fun _ _ _ => happly

theorem update_alike (actor : Uuid) {user user' : User} {changes changes' : UserUpdate}
    (hu : user.masked = user'.masked) (hc : changes.masked = changes'.masked)
    (hp : ∀ password password', changes.password = some password →
      changes'.password = some password' → Password.Alike m.salt m'.salt password password') :
    (core.update actor user changes m t).Alike (core.store.database.Veiled s)
      (fun u u' => u.masked = u'.masked) (core.update actor user' changes' m' t') := by
  have hpassword := congrArg UserUpdate.password hc
  dsimp only [UserUpdate.masked] at hpassword
  rw [update_eq, update_eq, rehash, rehash, User.id_eq_of_masked hu]
  refine .traced ?_ _ _ _
  cases hq : changes.password with
  | none =>
    rw [hq, Option.map_none] at hpassword
    rw [Option.map_eq_none_iff.mp hpassword.symm]
    exact .bind (.pure ht trivial) fun text text' t t' (_ : True) ht =>
      merge_alike hl hm ht hu hc text text'
  | some password =>
    cases hq' : changes'.password with
    | none =>
      rw [hq, hq'] at hpassword
      cases hpassword
    | some password' =>
      have hhash := hash_alike (hp password password' hq hq') ht
      refine .bind (R := fun _ _ => True) (hhash.map fun _ _ _ => trivial) ?_
      exact fun text text' t t' _ ht => merge_alike hl hm ht hu hc text text'

/-- What the subscribers leave behind is not looked at. -/
theorem delete_alike [Publisher σ π] (actor : Uuid) {user user' : User}
    (hu : user.masked = user'.masked)
    (hp : core.store.database.Discreet core.publisher (.deleted user.id m.now) m m' s) :
    (core.delete actor user m t).Alike (fun _ _ => True) Eq (core.delete actor user' m' t') := by
  rw [User.id_eq_of_masked hu, hm.1] at hp
  rw [delete, delete, User.id_eq_of_masked hu]
  refine .traced ?_ _ _ _
  refine .bindTo (.mapError (MemoryStore.delete_alike hl ht hu) _) (fun _ _ _ => trivial) ?_
  intro _ _ t t' _ ht
  refine .bindTo (.moment ht) (fun _ _ _ => trivial) ?_
  rintro _ _ t t' ⟨rfl, rfl⟩ ⟨d, d', hd, rfl, rfl⟩
  rw [hm.1]
  obtain ⟨hresult, hsignals⟩ := hp d d' hd
  refine .bind (.mapError ⟨SameResult.eq_iff.mpr hresult, hsignals, trivial⟩ _) ?_
  intro _ _ t t' _ _
  exact .emit trivial _

omit hm in
theorem query_alike (filter : Filter) (orderBy : OrderBy) (page : Page) :
    (core.query filter orderBy page m t).Alike (core.store.database.Veiled s)
      (fun users users' => users.map User.masked = users'.map User.masked)
      (core.query filter orderBy page m' t') := by
  refine .traced ?_ _ _ _
  refine .bind (.mapError (MemoryStore.query_alike hl ht filter orderBy page) _) ?_
  intro users users' t t' husers ht
  have hlength : users.length = users'.length := by
    simpa using congrArg List.length husers
  rw [hlength]
  exact .bind_pure (.emit ht _) fun _ _ _ => husers

omit hm in
theorem count_alike (filter : Filter) :
    (core.count filter m t).Alike (core.store.database.Veiled s) Eq
      (core.count filter m' t') := by
  refine .traced (.mapError (.bind_pure (MemoryStore.rows_alike hl ht) ?_) _) _ _ _
  intro rows rows' hrows
  rw [← Listing.count_masked, hrows, Listing.count_masked]

omit hm in
theorem byId_alike (id : Uuid) :
    (core.byId id m t).Alike (core.store.database.Veiled s) (fun u u' => u.masked = u'.masked)
      (core.byId id m' t') := by
  refine .traced (.mapError (.bind (MemoryStore.rows_alike hl ht) ?_) _) _ _ _
  intro rows rows' t t' hrows ht
  refine MemoryStore.found_alike ht ?_
  rw [← Table.find?_masked, ← Table.find?_masked, hrows]

omit hm in
theorem byEmail_alike (email : Email) :
    (core.byEmail email m t).Alike (core.store.database.Veiled s)
      (fun u u' => u.masked = u'.masked) (core.byEmail email m' t') := by
  refine .traced (.mapError (.bind (MemoryStore.rows_alike hl ht) ?_) _) _ _ _
  intro rows rows' t t' hrows ht
  refine MemoryStore.found_alike ht ?_
  rw [← Table.byEmail?_masked, ← Table.byEmail?_masked, hrows]

omit hm in
theorem ask_alike [Publisher σ π] (reading : Reading) :
    (reading.ask core m t).Alike (core.store.database.Veiled s) (fun a b => a.masked = b.masked)
      (reading.ask core m' t') := by
  cases reading with
  | list filter orderBy page =>
    exact .bind_pure (query_alike hl ht filter orderBy page) fun _ _ hu => congrArg Answer.users hu
  | count filter => exact .bind_pure (count_alike hl ht filter) fun _ _ hn => by rw [hn]
  | byId id => exact .bind_pure (byId_alike hl ht id) fun _ _ hu => congrArg Answer.user hu
  | byEmail email =>
    exact .bind_pure (byEmail_alike hl ht email) fun _ _ hu => congrArg Answer.user hu

omit hm in
theorem authenticate_alike (email : Email) {password password' : String}
    (hv : ∀ user user', (core.byEmail email m t).result = .ok user →
      (core.byEmail email m' t').result = .ok user' →
      Password.verify password user.passwordHash = Password.verify password' user'.passwordHash) :
    (core.authenticate email password m t).Alike (core.store.database.Veiled s)
      (fun u u' => u.masked = u'.masked) (core.authenticate email password' m' t') := by
  refine .traced ?_ _ _ _
  refine .bind ((byEmail_alike hl ht email).and_of_ok hv).attempt ?_
  intro found found' t t' hfound ht
  cases hfound with
  | @ok user user' h =>
    obtain ⟨hu, hverify⟩ := h
    dsimp only
    rw [hverify]
    split
    · exact .pure ht hu
    · exact .bind (.emit ht _) fun _ _ t t' _ ht => .fail ht _
  | error e =>
    dsimp only
    split
    · refine .bind (.emit ht _) fun _ _ t t' _ ht => ?_
      exact .bind (.moment ht) fun _ _ t t' _ ht => .fail ht _
    · exact .fail ht e

end

theorem newWithTx_alike (core : Service (MemoryStore σ) π) (m m' : Moment) (ht : p.Veiled s t t')
    (handle : TxHandle) :
    (core.newWithTx handle m t).Alike (p.Veiled s) Eq (core.newWithTx handle m' t') :=
  .bind_pure (.mapError (.ofExcept ht (.refl (fun _ => rfl) _)) _) fun _ _ h => by rw [h]

end Service

-- ---------------------------------------------------------------------------
-- Publishers
-- ---------------------------------------------------------------------------

theorem Outlet.failing_discreet {τ : Type} (domain : String) (fault : Fault) (event : Event)
    (m m' : Moment) :
    p.Discreet (.failing domain fault : Outlet σ τ) event m m' s :=
  fun _ _ _ => ⟨rfl, rfl⟩

/-- Subscribers are discreet if they take the same steps whatever the hashes are. -/
theorem Outlet.delegate_discreet {τ : Type} {same : τ → τ → Prop} {exchange : Slot σ (Exchange τ)}
    (h : ∀ d d' : Database, d.masked = d'.masked →
      (exchange.get (p.set d s)).Alike (fun _ => True) same (exchange.get (p.set d' s)))
    (event : Event) (m m' : Moment) :
    p.Discreet (.delegate exchange : Outlet σ τ) event m m' s := by
  intro d d' hd
  have hreached := Delegate.reachesOnly_of_forall (fun _ => trivial) m Delegate.maxNesting
    event.data (exchange.get (p.set d s))
  have halike := Delegate.callWithin_alike _ m' hreached (h d d' hd)
  exact ⟨SameResult.eq_iff.mp halike.result, halike.signals⟩

/-- Databases that are the same but for their hashes. -/
def Databases.Veiled (f f' : Databases) : Prop :=
  ∀ n, (f n).masked = (f' n).masked

theorem World.discreet {w : World} {k : Nat}
    (h : (w.delegates k).Alike (fun _ => True) Databases.Veiled (w.delegates k)) (n : Nat)
    (event : Event) (m m' : Moment) :
    (database n).Discreet (.delegate (exchange k) : Outlet World Databases) event m m' w := by
  have hx : ∀ d d' : Database, d.masked = d'.masked →
      ((exchange k).get ((database n).set d w)).Alike (fun _ => True) Databases.Veiled
        ((exchange k).get ((database n).set d' w)) := by
    intro d d' hd
    refine ⟨h, ?_⟩
    intro i
    simp only [database, exchange, update]
    split
    · exact hd
    · rfl
  exact Outlet.delegate_discreet hx event m m'

-- ---------------------------------------------------------------------------
-- Requests
-- ---------------------------------------------------------------------------

theorem Request.on_alike {π : Type} [Publisher σ π] {core : Service (MemoryStore σ) π}
    {m m' : Moment} {s' : σ} {request request' : Request} (hl : core.store.database.Lawful)
    (hm : m.now = m'.now ∧ m.id = m'.id) (hs : core.store.database.Veiled s s s')
    (h : Request.Alike core m m' s s' request request') :
    (request.on core m s).Alike (fun _ _ => True) (fun a b => a.masked = b.masked)
      (request'.on core m' s') := by
  cases h with
  | create hn hp =>
    exact .mono (.bind_pure (Service.create_alike hl hm hs _ hn hp)
      fun _ _ hu => congrArg Answer.user hu) fun _ _ _ => trivial
  | update hu hc hp =>
    exact .mono (.bind_pure (Service.update_alike hl hm hs _ hu hc hp)
      fun _ _ hu => congrArg Answer.user hu) fun _ _ _ => trivial
  | delete hu hp => exact .bind_pure (Service.delete_alike hl hm hs _ hu hp) fun _ _ _ => rfl
  | read reading => exact .mono (Service.ask_alike hl hs reading) fun _ _ _ => trivial
  | authenticate hv =>
    exact .mono (.bind_pure (Service.authenticate_alike hl hs _ hv)
      fun _ _ hu => congrArg Answer.user hu) fun _ _ _ => trivial

/-- Two requests to the core that differ in passwords and hashes only, and of whose passwords
either both are accepted and match or neither, in two states that differ in the hashes of the
database only and at moments with the same time and id: they show the same signals and fail with
the same errors, and what they hand out differs in hashes only. A binding to a transaction shows
nothing at all of the rows. What requests look like in print does not depend on their
passwords. -/
theorem Service.secrets_hidden {π : Type} [Publisher σ π] (core : Service (MemoryStore σ) π)
    (hl : core.store.database.Lawful) (m m' : Moment) (hm : m.now = m'.now ∧ m.id = m'.id) (s : σ)
    (d : Database) (hd : (core.store.database.get s).masked = d.masked) :
    let s' := core.store.database.set d s
    (∀ request request', Request.Alike core m m' s s' request request' →
      let o := request.on core m s
      let o' := request'.on core m' s'
      o.signals = o'.signals ∧ (∀ e, o.result = .error e ↔ o'.result = .error e) ∧
        o.result.map Answer.masked = o'.result.map Answer.masked) ∧
    (∀ handle,
      let o := Business.newWithTx core handle m s
      let o' := Business.newWithTx core handle m' s'
      o.signals = o'.signals ∧ o.result = o'.result) ∧
    (∀ new new' : NewUser, new.masked = new'.masked →
      new.outline.line = new'.outline.line ∧ new.outline.indented 0 = new'.outline.indented 0) ∧
    ∀ changes changes' : UserUpdate, changes.masked = changes'.masked →
      changes.outline.line = changes'.outline.line ∧
        changes.outline.indented 0 = changes'.outline.indented 0 := by
  intro s'
  have hs : core.store.database.Veiled s s s' :=
    ⟨core.store.database.get s, d, hd, (hl.set_get s).symm, rfl⟩
  refine ⟨?_, ?_, ?_, ?_⟩
  · intro request request' h
    have halike := Request.on_alike hl hm hs h
    exact ⟨halike.signals, halike.result.error_iff, SameResult.map_eq_iff.mp halike.result⟩
  · intro handle
    have halike := newWithTx_alike core m m' hs handle
    exact ⟨halike.signals, SameResult.eq_iff.mp halike.result⟩
  · intro new new' h
    have houtline : new.outline = new'.outline := by
      rw [← new.outline_masked, ← new'.outline_masked, h]
    exact ⟨congrArg _ houtline, congrArg _ houtline⟩
  · intro changes changes' h
    have houtline : changes.outline = changes'.outline := by
      rw [← changes.outline_masked, ← changes'.outline_masked, h]
    exact ⟨congrArg _ houtline, congrArg _ houtline⟩

/-- Two worlds in which a stored hash is not the same, two copies of the user with hashes of
their own, and a subscriber that counts the rows that are left. -/
theorem Service.secrets_hidden_from_subscriber :
    let ada := Sample.user 1 "ada@old.org"
    let copy := { ada with passwordHash := "copied" }
    let counting : Handler Databases := fun _ =>
      .act (fun f => ([.note (toString (f 0).table.size)], f)) fun _ => .finish
    let d : Database := { Database.empty with table := Keyed.empty.insert ada.id copy }
    let w : World :=
      ⟨fun _ => { Database.empty with table := Keyed.empty.insert ada.id ada },
        fun _ => Delegate.empty.register "user" "deleted" counting⟩
    let core : Service (MemoryStore World) (Outlet World Databases) :=
      ⟨World.store 0, .delegate (World.exchange 0)⟩
    let delete (user : User) := (Request.delete ⟨0⟩ user).on core
    let o := delete ada Sample.moment w
    let o' := delete copy Sample.moment ((World.database 0).set d w)
    (w.databases 0).masked = d.masked ∧ o.result = .ok .done ∧
      (delete ada).notes Sample.moment w = ["0"] ∧ o.signals = o'.signals ∧
      ∀ e, o.result = .error e ↔ o'.result = .error e := by
  intro ada copy counting d w core delete o o'
  have hmasked : (w.databases 0).masked = d.masked := rfl
  have hok : o.result = .ok .done := by decide
  have hnotes : (delete ada).notes Sample.moment w = ["0"] := by decide
  have hsubscriber : (w.delegates 0).Alike (fun _ => True) Databases.Veiled (w.delegates 0) := by
    refine .register .empty fun _ => .act ?_ fun _ _ _ => .finish
    intro f f' hf
    have hsize := congrArg (fun d : Database => d.table.size) (hf 0)
    refine ⟨?_, hf⟩
    simp only [Database.masked, Table.masked, Keyed.size_mapValues] at hsize
    dsimp only
    rw [hsize]
  obtain ⟨hrequests, -⟩ := core.secrets_hidden (World.database_lawful 0) Sample.moment
    Sample.moment ⟨rfl, rfl⟩ w d hmasked
  obtain ⟨hsignals, herror, -⟩ := hrequests (.delete ⟨0⟩ ada) (.delete ⟨0⟩ copy)
    (.delete rfl (World.discreet hsubscriber 0 _ _ _))
  exact ⟨hmasked, hok, hnotes, hsignals, herror⟩

end

end Accounts

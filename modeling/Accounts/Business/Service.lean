import Accounts.Business.Basic
import Accounts.Delegate.Publisher
import Accounts.Password

/-!
# The core of the business

The core works on any store and any publisher. Every operation but the binding to a transaction
runs in a span of its own.
-/

namespace Accounts

structure Service (ρ π : Type) where
  store : ρ
  publisher : π
  deriving Repr

namespace Service

variable {σ ρ π : Type} [Storer σ ρ] [Publisher σ π]

/-- An operation of the core in its span. -/
def spanned {α : Type} (operation : String) (fields : Fields) (x : Operation σ UserError α) :
    Operation σ UserError α :=
  Operation.traced ("business.userbus." ++ operation) fields UserError.message x

/-- The hash of a password with the salt of the moment. -/
def hash (password : String) : Operation σ UserError String := do
  let m ← Operation.moment
  Operation.ofExcept ((Password.hash m.salt password).mapError .hashing)

def newWithTx (s : Service ρ π) (handle : TxHandle) : Operation σ UserError (Service ρ π) := do
  return { s with store := ← (Storer.newWithTx s.store handle).mapError (.store "newwithtx") }

/-- The password is hashed before anything else is decided. -/
def create (s : Service ρ π) (actor : Uuid) (new : NewUser) : Operation σ UserError User :=
  spanned "create" [("actor_id", actor.text), ("email", new.email.address)] do
    let hash ← hash new.password
    let m ← Operation.moment
    let user : User :=
      { id := m.id
        name := new.name
        email := new.email
        passwordHash := hash
        roles := new.roles
        department := new.department
        enabled := true
        created := m.now
        updated := m.now }
    (Storer.create s.store user).mapError (.store "create")
    Operation.emit (.info "user created" [("user_id", user.id.text)])
    return user

def update (s : Service ρ π) (actor : Uuid) (user : User) (changes : UserUpdate) :
    Operation σ UserError User :=
  spanned "update" [("actor_id", actor.text), ("user_id", user.id.text)] do
    let hash ← match changes.password with
      | some password => some <$> hash password
      | none => pure none
    let m ← Operation.moment
    let user := changes.apply hash m.now user
    (Storer.update s.store user).mapError (.store "update")
    Operation.emit (.info "user updated" [])
    return user

/-- A failing subscriber fails the operation, but the row stays deleted. -/
def delete (s : Service ρ π) (actor : Uuid) (user : User) : Operation σ UserError Unit :=
  spanned "delete" [("actor_id", actor.text), ("user_id", user.id.text)] do
    (Storer.delete s.store user).mapError (.store "delete")
    let m ← Operation.moment
    (Publisher.publish s.publisher (.deleted user.id m.now)).mapError
      (.notification Event.actionDeleted)
    Operation.emit (.info "user deleted" [])

def query (s : Service ρ π) (filter : Filter) (orderBy : OrderBy) (page : Page) :
    Operation σ UserError (List User) :=
  spanned "query"
    [("order_by", orderBy.display), ("page", toString page.number.toNat),
      ("rows", toString page.rows.toNat)] do
    let users ← (Storer.query s.store filter orderBy page).mapError (.store "query")
    Operation.emit (.debug ("queried " ++ toString users.length ++ " users") [])
    return users

def count (s : Service ρ π) (filter : Filter) : Operation σ UserError Nat :=
  spanned "count" [] ((Storer.count s.store filter).mapError (.store "count"))

def byId (s : Service ρ π) (id : Uuid) : Operation σ UserError User :=
  spanned "querybyid" [("user_id", id.text)]
    ((Storer.byId s.store id).mapError (.lookup (.id id)))

def byEmail (s : Service ρ π) (email : Email) : Operation σ UserError User :=
  spanned "querybyemail" [("email", email.address)]
    ((Storer.byEmail s.store email).mapError (.lookup (.email email)))

/-- For an unknown address a verification is made all the same, and its result ignored. -/
def authenticate (s : Service ρ π) (email : Email) (password : String) :
    Operation σ UserError User :=
  spanned "authenticate" [("email", email.address)] do
    match ← (s.byEmail email).attempt with
    | .ok user =>
      if Password.verify password user.passwordHash then return user
      else
        Operation.emit (.debug "password mismatch" [])
        Operation.fail .authenticationFailure
    | .error e =>
      if e.isNotFound then
        Operation.emit (.debug "unknown email" [])
        let m ← Operation.moment
        let _ := Password.verifyDummy m.reference password
        Operation.fail .authenticationFailure
      else Operation.fail e

instance : Business σ (Service ρ π) where
  newWithTx := newWithTx
  create := create
  update := update
  delete := delete
  query := query
  count := count
  byId := byId
  byEmail := byEmail
  authenticate := authenticate

end Service

end Accounts

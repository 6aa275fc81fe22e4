import Accounts.Business.Service

/-!
# Layers around the business

Plugins are wrapped around a business in such a way that the first of them is the outermost. A
recorder is a plugin that notes what passes through it and can refuse operations.
-/

namespace Accounts

/-- Wraps plugins around a business; a plugin may be absent. -/
def wrap {m : Type → Type} [Monad m] {β : Type} (inner : β) : List (Option (β → m β)) → m β
  | [] => pure inner
  | none :: plugins => wrap inner plugins
  | some plugin :: plugins => do plugin (← wrap inner plugins)

structure Recorder where
  tag : String
  /-- Whether operations are noted. -/
  record : Bool
  /-- The operations that are refused. -/
  deny : List String
  /-- What is put in front of the names of new users. -/
  namePrefix : String
  /-- Whether the layer stays when the business is bound to a transaction. -/
  rewrap : Bool
  deriving DecidableEq, Repr

namespace Recorder

variable {σ ε α : Type}

/-- Notes that an operation is at a point. -/
def note (r : Recorder) (point method : String) : Operation σ ε Unit :=
  if r.record then Operation.note (r.tag ++ "-" ++ point ++ ":" ++ method) else return ()

/-- An operation of the inner layer, noted before and after, or refused. -/
def around (r : Recorder) (method : String) (inner : Operation σ UserError α) :
    Operation σ UserError α :=
  if method ∈ r.deny then do
    r.note "deny" method
    Operation.fail .authenticationFailure
  else do
    r.note "enter" method
    let result ← inner.attempt
    r.note "exit" method
    Operation.ofExcept result

end Recorder

/-- A business of type `β` with recorders around it. -/
inductive Layered (β : Type)
  | core (business : β)
  | layer (recorder : Recorder) (inner : Layered β)
  deriving Repr

namespace Layered

variable {σ β : Type} [Business σ β]

/-- Makes a call of the core through all the layers. -/
def call {α : Type} (method : String) (run : β → Operation σ UserError α) :
    Layered β → Operation σ UserError α
  | .core business => run business
  | .layer recorder inner => recorder.around method (inner.call method run)

def create (actor : Uuid) : Layered β → NewUser → Operation σ UserError User
  | .core business, new => Business.create business actor new
  | .layer recorder inner, new =>
    recorder.around "create" (inner.create actor { new with name := recorder.namePrefix ++ new.name })

/-- The core is bound first, and a layer that stays is put around what comes of it. -/
def newWithTx (handle : TxHandle) : Layered β → Operation σ UserError (Layered β)
  | .core business => return .core (← Business.newWithTx business handle)
  | .layer recorder inner => do
    let bound ← inner.newWithTx handle
    return if recorder.rewrap then .layer recorder bound else bound

instance : Business σ (Layered β) where
  newWithTx business handle := business.newWithTx handle
  create business actor new := business.create actor new
  update business actor user changes :=
    business.call "update" (Business.update · actor user changes)
  delete business actor user := business.call "delete" (Business.delete · actor user)
  query business filter orderBy page :=
    business.call "query" (Business.query · filter orderBy page)
  count business filter := business.call "count" (Business.count · filter)
  byId business id := business.call "query_by_id" (Business.byId · id)
  byEmail business email := business.call "query_by_email" (Business.byEmail · email)
  authenticate business email password :=
    business.call "authenticate" (Business.authenticate · email password)

end Layered

/-- Puts a recorder around a business and notes it. -/
def Recorder.plugin {σ ε β : Type} (r : Recorder) (inner : Layered β) :
    Operation σ ε (Layered β) := do
  Operation.note (r.tag ++ "-wrap")
  return .layer r inner

/-- The core over a store and a publisher, with plugins around it. -/
def newBusiness {m : Type → Type} [Monad m] {ρ π : Type} (publisher : π) (store : ρ)
    (plugins : List (Option (Layered (Service ρ π) → m (Layered (Service ρ π))))) :
    m (Layered (Service ρ π)) :=
  wrap (.core ⟨store, publisher⟩) plugins

end Accounts

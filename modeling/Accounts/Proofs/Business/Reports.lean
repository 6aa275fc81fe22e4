import Accounts.Proofs.Business.Failure

/-!
# How failures of a store are reported

Whatever store the core works on, an operation fails if the call of the store that it makes fails.
The failure of the store alone decides the kind. The message names the operation, or the key that
nobody has, in front of the text of the failure, and none of the causes is lost.
-/

namespace Accounts

-- ---------------------------------------------------------------------------
-- Texts and causes
-- ---------------------------------------------------------------------------

/-- The text of an error that has a cause ends in that of the nearest one. -/
def EndsInCause (text : String) (causes : List String) : Prop :=
  ∀ cause ∈ causes.head?, ∃ front, text = front ++ cause

theorem EndsInCause.nil (text : String) : EndsInCause text [] := nofun

theorem EndsInCause.append (front cause : String) (causes : List String) :
    EndsInCause (front ++ cause) (cause :: causes) := by
  rintro _ ⟨⟩
  exact ⟨front, rfl⟩

theorem TxError.endsInCause (e : TxError) : EndsInCause e.message e.causes := by
  cases e with
  | completed | conflict => exact .nil _
  | backend fault => exact .append _ _ _

theorem StoreError.endsInCause (e : StoreError) : EndsInCause e.message e.causes := by
  cases e with
  | notFound | uniqueEmail => exact .nil _
  | tx error => exact .append _ _ _
  | backend fault => exact .append _ _ _

theorem DelegateError.endsInCause (e : DelegateError) : EndsInCause e.message e.causes := by
  cases e with
  | handler domain action source => exact .append _ _ _
  | params fault => exact .append _ _ _

theorem UserError.endsInCause (e : UserError) : EndsInCause e.message e.causes := by
  cases e with
  | notFound | uniqueEmail | authenticationFailure => exact .nil _
  | hashing error => exact .append _ _ _
  | notification action source => exact .append _ _ _
  | storage op source => exact .append _ _ _

/-- What comes in front of the text of a failure if it is that nobody has the key. -/
def LookupKey.missed (key : LookupKey) (e : StoreError) : String :=
  if e = .notFound then key.text ++ ": " else ""

namespace UserError

theorem message_store (op : String) (e : StoreError) :
    (store op e).message = op ++ ": " ++ e.message := by
  cases e with
  | uniqueEmail =>
    have htext : ": " ++ "email is not unique" = ": email is not unique" := by decide
    have hassoc : op ++ ": " ++ "email is not unique" = op ++ (": " ++ "email is not unique") :=
      String.append_assoc
    rw [htext] at hassoc
    exact hassoc.symm
  | notFound => rfl
  | tx error => rfl
  | backend fault => rfl

theorem causes_store {op : String} {e : StoreError} (h : (store op e).kind = .storage) :
    (store op e).causes = e.message :: e.causes := by
  cases e with
  | uniqueEmail => cases h
  | notFound => rfl
  | tx error => rfl
  | backend fault => rfl

theorem lookup_eq_store (key : LookupKey) {e : StoreError} (h : e ≠ .notFound) :
    lookup key e = store "query" e := by
  cases e with
  | notFound => exact absurd rfl h
  | uniqueEmail => rfl
  | tx error => rfl
  | backend fault => rfl

theorem message_lookup (key : LookupKey) (e : StoreError) :
    (lookup key e).message = "query: " ++ key.missed e ++ e.message := by
  by_cases he : e = .notFound
  · subst he
    have htext : ": " ++ "user not found" = ": user not found" := by decide
    have hassoc : "query: " ++ key.text ++ (": " ++ "user not found") =
        "query: " ++ (key.text ++ ": ") ++ "user not found" := by
      simp only [String.append_assoc]
    rw [htext] at hassoc
    rw [LookupKey.missed, if_pos rfl]
    exact hassoc
  · have htext : "query" ++ ": " = "query: " := by decide
    rw [lookup_eq_store key he, message_store, LookupKey.missed, if_neg he, String.append_empty,
      htext]

theorem causes_lookup {key : LookupKey} {e : StoreError} (h : (lookup key e).kind = .storage) :
    (lookup key e).causes = e.message :: e.causes := by
  by_cases he : e = .notFound
  · subst he
    cases h
  · rw [lookup_eq_store key he] at h ⊢
    exact causes_store h

end UserError

-- ---------------------------------------------------------------------------
-- Requests that a store refuses
-- ---------------------------------------------------------------------------

/-- The one call of the store that a request comes to fails. A password that comes with the
request has been hashed before. -/
inductive Request.Refused {σ ρ π : Type} [Storer σ ρ] (core : Service ρ π) (m : Moment) (s : σ)
    (e : StoreError) : Request → Prop
  | create {actor : Uuid} {new : NewUser} {hash : String}
    (hh : Password.hash m.salt new.password = .ok hash)
    (h : (Storer.create core.store (new.row hash m) m s).result = .error e) :
    Refused core m s e (.create actor new)
  | update {actor : Uuid} {user : User} {changes : UserUpdate} {hash : Option String}
    (hh : changes.hash m = .ok hash)
    (h : (Storer.update core.store (changes.apply hash m.now user) m s).result = .error e) :
    Refused core m s e (.update actor user changes)
  | delete {actor : Uuid} {user : User}
    (h : (Storer.delete core.store user m s).result = .error e) :
    Refused core m s e (.delete actor user)
  | list {filter : Filter} {orderBy : OrderBy} {page : Page}
    (h : (Storer.query core.store filter orderBy page m s).result = .error e) :
    Refused core m s e (.read (.list filter orderBy page))
  | count {filter : Filter} (h : (Storer.count core.store filter m s).result = .error e) :
    Refused core m s e (.read (.count filter))
  | byId {id : Uuid} (h : (Storer.byId core.store id m s).result = .error e) :
    Refused core m s e (.read (.byId id))
  | byEmail {email : Email} (h : (Storer.byEmail core.store email m s).result = .error e) :
    Refused core m s e (.read (.byEmail email))
  | authenticate {email : Email} {password : String}
    (h : (Storer.byEmail core.store email m s).result = .error e) :
    Refused core m s e (.authenticate email password)

namespace Request

/-- What a request fails with if the store fails. -/
def failure (e : StoreError) : Request → UserError
  | .create .. => .store "create" e
  | .update .. => .store "update" e
  | .delete .. => .store "delete" e
  | .read reading => reading.failure e
  | .authenticate email _ =>
    if e = .notFound then .authenticationFailure else .lookup (.email email) e

/-- The kind under which a failure of the store comes back. -/
def reportedKind (e : StoreError) : Request → ErrorKind
  | .authenticate .. => if e = .notFound then .authenticationFailure else e.kind
  | _ => e.kind

/-- The text under which a failure of the store comes back. -/
def reportedText (e : StoreError) : Request → String
  | .create .. => "create" ++ ": " ++ e.message
  | .update .. => "update" ++ ": " ++ e.message
  | .delete .. => "delete" ++ ": " ++ e.message
  | .read (.list ..) => "query" ++ ": " ++ e.message
  | .read (.count _) => "count" ++ ": " ++ e.message
  | .read (.byId id) => "query: " ++ LookupKey.missed (.id id) e ++ e.message
  | .read (.byEmail email) => "query: " ++ LookupKey.missed (.email email) e ++ e.message
  | .authenticate .. => if e = .notFound then "authentication failed" else "query: " ++ e.message

variable {e : StoreError}

theorem kind_failure (request : Request) :
    (request.failure e).kind = request.reportedKind e := by
  cases request with
  | create => exact UserError.kind_store "create" e
  | update => exact UserError.kind_store "update" e
  | delete => exact UserError.kind_store "delete" e
  | read reading => exact reading.kind_failure e
  | authenticate email password =>
    simp only [failure, reportedKind]
    split
    · rfl
    · exact UserError.kind_lookup (.email email) e

theorem message_failure (request : Request) :
    (request.failure e).message = request.reportedText e := by
  cases request with
  | create => exact UserError.message_store "create" e
  | update => exact UserError.message_store "update" e
  | delete => exact UserError.message_store "delete" e
  | read reading =>
    cases reading with
    | list => exact UserError.message_store "query" e
    | count => exact UserError.message_store "count" e
    | byId id => exact UserError.message_lookup (.id id) e
    | byEmail email => exact UserError.message_lookup (.email email) e
  | authenticate email password =>
    simp only [failure, reportedText]
    split
    · rfl
    · rename_i he
      rw [UserError.message_lookup, LookupKey.missed, if_neg he, String.append_empty]

theorem causes_failure {request : Request} (h : (request.failure e).kind = .storage) :
    (request.failure e).causes = e.message :: e.causes := by
  cases request with
  | create => exact UserError.causes_store h
  | update => exact UserError.causes_store h
  | delete => exact UserError.causes_store h
  | read reading =>
    cases reading with
    | list => exact UserError.causes_store h
    | count => exact UserError.causes_store h
    | byId id => exact UserError.causes_lookup h
    | byEmail email => exact UserError.causes_lookup h
  | authenticate email password =>
    simp only [failure] at h ⊢
    split at h
    · cases h
    · rename_i he
      rw [if_neg he]
      exact UserError.causes_lookup h

end Request

namespace Operation

variable {σ ε ε' α β : Type} {m : Moment} {s : σ} {x : Operation σ ε α} {e : ε}

theorem bind_result_error (h : (x m s).result = .error e) (f : α → Operation σ ε β) :
    ((x >>= f) m s).result = .error e := by
  rw [bind_error h]

theorem mapError_result_error (h : (x m s).result = .error e) (f : ε → ε') :
    (x.mapError f m s).result = .error (f e) :=
  congrArg (Except.mapError f) h

end Operation

namespace Service

variable {σ ρ π : Type} [Storer σ ρ] {core : Service ρ π} {m : Moment} {s : σ} {e : StoreError}

theorem spanned_result_error {α : Type} {x : Operation σ UserError α} {error : UserError}
    (h : (x m s).result = .error error) (operation : String) (fields : Fields) :
    (spanned operation fields x m s).result = .error error := h

theorem create_refused {actor : Uuid} {new : NewUser} {hash : String}
    (hh : Password.hash m.salt new.password = .ok hash)
    (h : (Storer.create core.store (new.row hash m) m s).result = .error e) :
    (core.create actor new m s).result = .error (.store "create" e) := by
  have hrun : (Service.hash new.password : Operation σ UserError String) m s =
      ⟨.ok hash, [], s⟩ := by
    rw [hash_run, hh]
    rfl
  refine spanned_result_error ?_ "create" _
  rw [Operation.bind_of_run hrun, Operation.bind_of_run Operation.moment_run]
  exact Operation.bind_result_error (Operation.mapError_result_error h (UserError.store "create")) _

theorem update_refused {actor : Uuid} {user : User} {changes : UserUpdate} {hash : Option String}
    (hh : changes.hash m = .ok hash)
    (h : (Storer.update core.store (changes.apply hash m.now user) m s).result = .error e) :
    (core.update actor user changes m s).result = .error (.store "update" e) := by
  have hrun : (rehash changes : Operation σ UserError (Option String)) m s =
      ⟨.ok hash, [], s⟩ := by
    rw [rehash_run, hh]
    rfl
  rw [update_eq]
  refine spanned_result_error ?_ "update" _
  rw [Operation.bind_of_run hrun, merge, Operation.bind_of_run Operation.moment_run]
  exact Operation.bind_result_error (Operation.mapError_result_error h (UserError.store "update")) _

theorem authenticate_refused {email : Email} (password : String)
    (h : (Storer.byEmail core.store email m s).result = .error e) :
    (core.authenticate email password m s).result =
      .error (Request.failure e (.authenticate email password)) := by
  rw [core.authenticate_lookup.1, h]
  simp only [Request.failure]
  split
  · rename_i he
    subst he
    rfl
  · rename_i he
    exact judge_error he

theorem delete_refused [Publisher σ π] {user : User} (actor : Uuid)
    (h : (Storer.delete core.store user m s).result = .error e) :
    (core.delete actor user m s).result = .error (.store "delete" e) := by
  refine spanned_result_error (Operation.bind_result_error ?_ _) "delete" _
  exact Operation.mapError_result_error h (UserError.store "delete")

theorem query_refused {filter : Filter} {orderBy : OrderBy} {page : Page}
    (h : (Storer.query core.store filter orderBy page m s).result = .error e) :
    (core.query filter orderBy page m s).result = .error (.store "query" e) := by
  refine spanned_result_error (Operation.bind_result_error ?_ _) "query" _
  exact Operation.mapError_result_error h (UserError.store "query")

theorem count_refused {filter : Filter}
    (h : (Storer.count core.store filter m s).result = .error e) :
    (core.count filter m s).result = .error (.store "count" e) := by
  rw [count]
  exact spanned_result_error (Operation.mapError_result_error h _) "count" _

theorem byId_refused {id : Uuid} (h : (Storer.byId core.store id m s).result = .error e) :
    (core.byId id m s).result = .error (.lookup (.id id) e) := by
  rw [byId]
  exact spanned_result_error (Operation.mapError_result_error h _) "querybyid" _

theorem byEmail_refused {email : Email}
    (h : (Storer.byEmail core.store email m s).result = .error e) :
    (core.byEmail email m s).result = .error (.lookup (.email email) e) := by
  rw [byEmail]
  exact spanned_result_error (Operation.mapError_result_error h _) "querybyemail" _

variable [Publisher σ π]

/-- A request fails if the store refuses its part. -/
theorem on_refused {request : Request} (h : request.Refused core m s e) :
    (request.on core m s).result = .error (request.failure e) := by
  cases h with
  | create hh h => exact Operation.bind_result_error (create_refused hh h) _
  | update hh h => exact Operation.bind_result_error (update_refused hh h) _
  | delete h => exact Operation.bind_result_error (delete_refused _ h) _
  | list h => exact Operation.bind_result_error (query_refused h) _
  | count h => exact Operation.bind_result_error (count_refused h) _
  | byId h => exact Operation.bind_result_error (byId_refused h) _
  | byEmail h => exact Operation.bind_result_error (byEmail_refused h) _
  | authenticate h => exact Operation.bind_result_error (authenticate_refused _ h) _

/-- However a store fails, and whatever fails in it, an operation that needs it fails with a kind
that the failure alone decides. The message is the name of the operation and the text of the
failure, with the key between them if it is a look-up of a key that nobody has; only an
authentication does not tell that nobody has the address. A failure of the storage keeps all of its
causes, and every error of its own kinds ends in the text of its cause. -/
theorem refusals_reported (core : Service ρ π) (m : Moment) (s : σ) (e : StoreError) :
    (∀ request : Request, request.Refused core m s e →
      ∃ error, (request.on core m s).result = .error error ∧
        error.kind = request.reportedKind e ∧ error.message = request.reportedText e ∧
        (error.kind = .storage → error.causes = e.message :: e.causes)) ∧
    (∀ handle, (Storer.newWithTx core.store handle m s).result = .error e →
      ∃ error, (Business.newWithTx core handle m s).result = .error error ∧
        error.kind = e.kind ∧ error.message = "newwithtx" ++ ": " ++ e.message ∧
        (error.kind = .storage → error.causes = e.message :: e.causes)) ∧
    (∀ error : UserError, EndsInCause error.message error.causes) ∧
    (∀ error : StoreError, EndsInCause error.message error.causes) ∧
    (∀ error : TxError, EndsInCause error.message error.causes) ∧
    ∀ error : DelegateError, EndsInCause error.message error.causes := by
  refine ⟨?_, ?_, UserError.endsInCause, StoreError.endsInCause, TxError.endsInCause,
    DelegateError.endsInCause⟩
  · intro request h
    exact ⟨request.failure e, on_refused h, request.kind_failure, request.message_failure,
      Request.causes_failure⟩
  · intro handle h
    refine ⟨.store "newwithtx" e, ?_, UserError.kind_store .., UserError.message_store ..,
      UserError.causes_store⟩
    refine Operation.bind_result_error ?_ _
    exact Operation.mapError_result_error h (UserError.store "newwithtx")

/-- A store whose transactions fail for a reason that has a reason, and a store that is empty. -/
theorem refusals_reported_with_causes :
    let full : StoreError := .tx (.backend ⟨"disk full", ["quota"]⟩)
    let publisher : Outlet Database Unit := .failing "files" ⟨"down", []⟩
    let core : Service (LayeredStore (MemoryStore Database)) (Outlet Database Unit) :=
      ⟨.failing full, publisher⟩
    let core' : Service (MemoryStore Database) (Outlet Database Unit) :=
      ⟨.shared 0 .whole, publisher⟩
    let moving : Request := .update ⟨0⟩ (Sample.user 1 "ada@old.org") (Sample.move "ada@new.org")
    let entering : Request := .authenticate ⟨"ada@old.org"⟩ "secret"
    let looking : Request := .read (.byId ⟨7⟩)
    moving.Refused core Sample.moment .empty full ∧
      (∃ error, (moving.on core Sample.moment .empty).result = .error error ∧
        error.kind = .storage ∧
        error.message = "update: transaction: transaction backend: disk full" ∧
        error.causes = ["transaction: transaction backend: disk full",
          "transaction backend: disk full", "disk full", "quota"]) ∧
      (Storer.newWithTx core.store .foreign Sample.moment .empty).result = .error full ∧
      (∃ error, (Business.newWithTx core .foreign Sample.moment .empty).result = .error error ∧
        error.kind = .storage) ∧
      entering.Refused core' Sample.moment .empty .notFound ∧
      (∃ error, (entering.on core' Sample.moment .empty).result = .error error ∧
        error.kind = .authenticationFailure ∧ error.message = "authentication failed") ∧
      looking.Refused core' Sample.moment .empty .notFound ∧
      ∃ error, (looking.on core' Sample.moment .empty).result = .error error ∧
        error.kind = .notFound ∧
        error.message = "query: userID[00000000-0000-0000-0000-000000000007]: user not found" := by
  intro full publisher core core' moving entering looking
  obtain ⟨hasked, hbound, -⟩ := refusals_reported core Sample.moment .empty full
  obtain ⟨hasked', -⟩ := refusals_reported core' Sample.moment .empty .notFound
  have hmoving : moving.Refused core Sample.moment .empty full := .update rfl rfl
  have hbind : (Storer.newWithTx core.store .foreign Sample.moment .empty).result = .error full :=
    rfl
  have hentering : entering.Refused core' Sample.moment .empty .notFound := .authenticate rfl
  have hlooking : looking.Refused core' Sample.moment .empty .notFound := .byId rfl
  obtain ⟨error, hmove, hk, ht, hc⟩ := hasked moving hmoving
  obtain ⟨error', hbound, hk', -⟩ := hbound .foreign hbind
  obtain ⟨error₁, henter, hk₁, ht₁, -⟩ := hasked' entering hentering
  obtain ⟨error₂, hlook, hk₂, ht₂, -⟩ := hasked' looking hlooking
  exact ⟨hmoving, ⟨error, hmove, hk, ht.trans (by decide), hc hk⟩, hbind, ⟨error', hbound, hk'⟩,
    hentering, ⟨error₁, henter, hk₁, ht₁⟩, hlooking, error₂, hlook, hk₂,
    ht₂.trans (by decide +kernel)⟩

end Service

end Accounts

import Accounts.Proofs.Business.Core
import Accounts.Proofs.Store.Integrity
import Accounts.Proofs.Store.Listing

/-!
# Courses of a business over a store in memory

A course is a list of turns: requests are made of the business itself or of the same business
inside of transactions, and transactions are opened, bound and ended in between. `TurnEffect`
lists all that a turn can do to the rows and all that it can hand out.
-/

namespace Accounts

/-- What a caller asks of a business. -/
inductive Request
  | create (actor : Uuid) (new : NewUser)
  | update (actor : Uuid) (user : User) (changes : UserUpdate)
  | delete (actor : Uuid) (user : User)
  | read (reading : Reading)
  | authenticate (email : Email) (password : String)
  deriving DecidableEq, Repr

def Request.on {σ β : Type} [Business σ β] (business : β) :
    Request → Operation σ UserError Answer
  | .create actor new => return .user (← Business.create business actor new)
  | .update actor user changes => return .user (← Business.update business actor user changes)
  | .delete actor user => do
    Business.delete business actor user
    return .done
  | .read reading => reading.ask business
  | .authenticate email password =>
    return .user (← Business.authenticate business email password)

/-- The rows are looked at and left alone. -/
def Request.Reads : Request → Prop
  | .read _ => True
  | .authenticate _ _ => True
  | _ => False

inductive Turn
  | begin (tx : Nat)
  | bind (tx : Nat)
  | ask (scope : Scope) (request : Request)
  | commit (tx : Nat)
  | rollback (tx : Nat)
  deriving DecidableEq, Repr

/-- What a turn that is not a request asks of the store. -/
def Turn.step? : Turn → Option Step
  | .begin tx => some (.begin tx)
  | .bind tx => some (.bind tx)
  | .ask _ _ => none
  | .commit tx => some (.commit tx)
  | .rollback tx => some (.rollback tx)

inductive TurnError
  | business (error : UserError)
  | tx (error : TxError)
  deriving DecidableEq, Repr

/-- Turns in the order in which they are taken, each at a moment. -/
abbrev Course := List (Moment × Turn)

/-- A turn that has been taken: the database that it found, and what came of it. -/
structure Entry where
  before : Database
  moment : Moment
  turn : Turn
  result : Except TurnError Answer

/-- The users that come back. -/
def handedOut {ε : Type} : Except ε Answer → List User
  | .ok (.user user) => [user]
  | .ok (.users users) => users
  | _ => []

theorem handedOut_mapError {ε ε' : Type} (f : ε → ε') (result : Except ε Answer) :
    handedOut (result.mapError f) = handedOut result := by
  obtain _ | (_ | _ | _ | _) := result <;> rfl

/-- The core of a business over the shared rows of a database. What its publisher does leaves
the database alone; a subscriber that has requests of its own takes turns of its own. -/
structure Office (σ π : Type) [Publisher σ π] where
  number : Nat
  database : Slot σ Database
  publisher : π
  lawful : database.Lawful
  apart : ∀ event m s,
    database.get (Publisher.publish publisher event m s).state = database.get s

namespace Office

variable {σ π : Type} [Publisher σ π] (o : Office σ π)

/-- The core, as it works on the rows of a scope. -/
def inScope (scope : Scope) : Service (MemoryStore σ) π :=
  ⟨⟨o.number, o.database, scope⟩, o.publisher⟩

/-- The business of a scope: the core itself, or the core bound to a transaction. -/
def business : Scope → Operation σ UserError (Service (MemoryStore σ) π)
  | .shared => return o.inScope .shared
  | .inside tx => Business.newWithTx (o.inScope .shared) (.memory o.number tx)

def take : Turn → Operation σ TurnError Answer
  | .begin tx => do
    MemoryStore.begin o.database tx
    return .done
  | .bind tx => Operation.mapError .business do
    let _ ← o.business (.inside tx)
    return .done
  | .ask scope request => Operation.mapError .business do request.on (← o.business scope)
  | .commit tx => Operation.mapError .tx do
    MemoryStore.commit o.database tx
    return .done
  | .rollback tx => Operation.mapError .tx do
    MemoryStore.rollback o.database tx
    return .done

/-- The state after all turns of a course. -/
def after (s : σ) : Course → σ
  | [] => s
  | (m, turn) :: rest => after (o.take turn m s).state rest

/-- The turns of a course as they are taken. -/
def trace (s : σ) : Course → List Entry
  | [] => []
  | (m, turn) :: rest =>
    ⟨o.database.get s, m, turn, (o.take turn m s).result⟩ :: trace (o.take turn m s).state rest

theorem after_cons {m : Moment} {turn : Turn} {result : Except TurnError Answer} {s s' : σ}
    (h : (o.take turn).quiet m s = (result, s')) (c : Course) :
    o.after s ((m, turn) :: c) = o.after s' c := by
  obtain ⟨-, rfl⟩ := Prod.mk.inj h
  rfl

theorem trace_cons {m : Moment} {turn : Turn} {result : Except TurnError Answer} {s s' : σ}
    (h : (o.take turn).quiet m s = (result, s')) (c : Course) :
    o.trace s ((m, turn) :: c) = ⟨o.database.get s, m, turn, result⟩ :: o.trace s' c := by
  obtain ⟨rfl, rfl⟩ := Prod.mk.inj h
  rfl

theorem after_append (s : σ) (c c' : Course) : o.after s (c ++ c') = o.after (o.after s c) c' := by
  induction c generalizing s with
  | nil => rfl
  | cons first rest ih => exact ih _

theorem trace_append (s : σ) (c c' : Course) :
    o.trace s (c ++ c') = o.trace s c ++ o.trace (o.after s c) c' := by
  induction c generalizing s with
  | nil => rfl
  | cons first rest ih => exact congrArg (_ :: ·) (ih _)

theorem after_concat (s : σ) (c : Course) (m : Moment) (turn : Turn) :
    o.after s (c ++ [(m, turn)]) = (o.take turn m (o.after s c)).state :=
  o.after_append s c _

theorem trace_concat (s : σ) (c : Course) (m : Moment) (turn : Turn) :
    o.trace s (c ++ [(m, turn)]) =
      o.trace s c ++
        [⟨o.database.get (o.after s c), m, turn, (o.take turn m (o.after s c)).result⟩] :=
  o.trace_append s c _

end Office

-- ---------------------------------------------------------------------------
-- What a turn can do
-- ---------------------------------------------------------------------------

/-- What a turn can do to a database at a moment: each case says what it asks, what comes back
and what is left. -/
inductive TurnEffect (m : Moment) (d : Database) :
    Turn → Except TurnError Answer → Database → Prop
  | created {scope : Scope} {actor : Uuid} {new : NewUser} {hash : String} {d' : Database}
    (hh : Password.hash m.salt new.password = .ok hash)
    (he : Effect d (.call scope (.edit (.create (new.row hash m)))) (.ok .done) d') :
    TurnEffect m d (.ask scope (.create actor new)) (.ok (.user (new.row hash m))) d'
  | updated {scope : Scope} {actor : Uuid} {user : User} {changes : UserUpdate}
    {hash : Option String} {d' : Database} (hh : changes.hash m = .ok hash)
    (he : Effect d (.call scope (.edit (.update (changes.apply hash m.now user)))) (.ok .done)
      d') :
    TurnEffect m d (.ask scope (.update actor user changes))
      (.ok (.user (changes.apply hash m.now user))) d'
  /-- The row is gone even if the event was not published. -/
  | deleted {scope : Scope} {actor : Uuid} {user : User} {result : Except TurnError Answer}
    {d' : Database} (he : Effect d (.call scope (.edit (.delete user))) (.ok .done) d')
    (hn : handedOut result = []) :
    TurnEffect m d (.ask scope (.delete actor user)) result d'
  | answered {scope : Scope} {request : Request} {rows : Table} {result : Except TurnError Answer}
    (hr : request.Reads) (hv : d.visible scope = .ok rows)
    (hu : ∀ u ∈ handedOut result, ∃ id, rows.find? id = some u) :
    TurnEffect m d (.ask scope request) result d
  | refused {turn : Turn} {error : TurnError} : TurnEffect m d turn (.error error) d
  | handled {turn : Turn} {step : Step} {result : Except TurnError Answer}
    {result' : Except StepError Answer} {d' : Database} (hs : turn.step? = some step)
    (he : Effect d step result' d') (hn : handedOut result = []) :
    TurnEffect m d turn result d'

theorem TurnEffect.sound {m : Moment} {d d' : Database} {turn : Turn}
    {result : Except TurnError Answer} (he : TurnEffect m d turn result d') (h : d.Sound) :
    d'.Sound := by
  cases he with
  | created _ he => exact he.sound h
  | updated _ he => exact he.sound h
  | deleted he => exact he.sound h
  | answered => exact h
  | refused => exact h
  | handled _ he => exact he.sound h

theorem Effect.of_change {d d' : Database} {scope : Scope} {e : Edit}
    (h : d.change e.check scope = .ok d') : Effect d (.call scope (.edit e)) (.ok .done) d' := by
  have he := Step.effect_edit (m := Sample.moment) (d := d) scope e
  rwa [Step.run_edit, h] at he

theorem Reading.mem_handedOut {rows : Table} {r : Reading} {u : User}
    (h : u ∈ handedOut (r.answer rows)) : ∃ id, rows.find? id = some u := by
  cases r with
  | list filter orderBy page =>
    simp only [answer, Listing.select] at h
    split at h
    · cases h
    · exact Listing.mem_of_mem_sorted (List.mem_of_mem_drop (List.mem_of_mem_take h))
  | count filter => cases h
  | byId id =>
    rw [answer] at h
    cases hf : rows.find? id with
    | none =>
      rw [hf] at h
      cases h
    | some user =>
      rw [hf] at h
      cases List.mem_singleton.mp h
      exact ⟨id, hf⟩
  | byEmail email =>
    rw [answer] at h
    cases hf : rows.byEmail? email with
    | none =>
      rw [hf] at h
      cases h
    | some user =>
      rw [hf] at h
      cases List.mem_singleton.mp h
      exact Keyed.mem_values_iff.mp (List.mem_of_find?_eq_some hf)

namespace Office

variable {σ π : Type} [Publisher σ π] (o : Office σ π) {scope : Scope} {m : Moment} {s : σ}

/-- What the turn comes to is one of the things that a turn can do. -/
def Accounted (m : Moment) (s : σ) (turn : Turn) : Prop :=
  TurnEffect m (o.database.get s) turn ((o.take turn).quiet m s).1
    (o.database.get ((o.take turn).quiet m s).2)

theorem business_quiet (scope : Scope) :
    (o.business scope).quiet m s = (.ok (o.inScope scope), s) := by
  cases scope with
  | shared => rfl
  | inside tx =>
    simp only [business, Business.newWithTx, Service.newWithTx, Storer.newWithTx,
      MemoryStore.newWithTx, inScope, if_true, Operation.quiet_bind, Operation.quiet_mapError,
      Operation.quiet_ofExcept, Except.mapError, Operation.quiet_pure]

theorem take_ask_quiet (scope : Scope) (request : Request) :
    (o.take (.ask scope request)).quiet m s =
      (((request.on (o.inScope scope)).quiet m s).1.mapError .business,
        ((request.on (o.inScope scope)).quiet m s).2) := by
  simp only [take, Operation.quiet_mapError, Operation.quiet_bind, business_quiet]

theorem take_create (scope : Scope) (actor : Uuid) (new : NewUser) :
    (o.take (.ask scope (.create actor new))).quiet m s =
      match Password.hash m.salt new.password with
      | .error e => (.error (.business (.hashing e)), s)
      | .ok hash =>
        match (o.database.get s).change (Edit.create (new.row hash m)).check scope with
        | .error e => (.error (.business (.store "create" e)), s)
        | .ok d => (.ok (.user (new.row hash m)), o.database.set d s) := by
  simp only [take_ask_quiet, Request.on, Business.create, Operation.quiet_bind,
    Operation.quiet_pure, Service.create_quiet, inScope, Edit.check]
  cases Password.hash m.salt new.password with
  | error e => rfl
  | ok hash =>
    dsimp only
    cases (o.database.get s).change (Change.create (new.row hash m)) scope <;> rfl

theorem create_effect (scope : Scope) (actor : Uuid) (new : NewUser) :
    o.Accounted m s (.ask scope (.create actor new)) := by
  rw [Accounted, take_create]
  cases hh : Password.hash m.salt new.password with
  | error e => exact .refused
  | ok hash =>
    dsimp only
    cases hc : (o.database.get s).change (Edit.create (new.row hash m)).check scope with
    | error e => exact .refused
    | ok d =>
      dsimp only
      rw [o.lawful.get_set]
      exact .created hh (.of_change hc)

theorem take_update (scope : Scope) (actor : Uuid) (user : User) (changes : UserUpdate) :
    (o.take (.ask scope (.update actor user changes))).quiet m s =
      match changes.hash m with
      | .error e => (.error (.business (.hashing e)), s)
      | .ok hash =>
        match (o.database.get s).change (Edit.update (changes.apply hash m.now user)).check
          scope with
        | .error e => (.error (.business (.store "update" e)), s)
        | .ok d => (.ok (.user (changes.apply hash m.now user)), o.database.set d s) := by
  simp only [take_ask_quiet, Request.on, Business.update, Operation.quiet_bind,
    Operation.quiet_pure, Service.update_quiet, inScope, Edit.check]
  cases changes.hash m with
  | error e => rfl
  | ok hash =>
    dsimp only
    cases (o.database.get s).change (Change.update (changes.apply hash m.now user)) scope <;> rfl

theorem update_effect (scope : Scope) (actor : Uuid) (user : User) (changes : UserUpdate) :
    o.Accounted m s (.ask scope (.update actor user changes)) := by
  rw [Accounted, take_update]
  cases hh : changes.hash m with
  | error e => exact .refused
  | ok hash =>
    dsimp only
    cases hc : (o.database.get s).change (Edit.update (changes.apply hash m.now user)).check
      scope with
    | error e => exact .refused
    | ok d =>
      dsimp only
      rw [o.lawful.get_set]
      exact .updated hh (.of_change hc)

theorem delete_effect (scope : Scope) (actor : Uuid) (user : User) :
    o.Accounted m s (.ask scope (.delete actor user)) := by
  rw [Accounted, take_ask_quiet]
  simp only [Request.on, Business.delete, Operation.quiet_bind, Operation.quiet_pure,
    Service.delete_quiet]
  dsimp only [inScope]
  cases hc : (o.database.get s).change (Change.delete user) scope with
  | error e => exact .refused
  | ok d =>
    -- the publisher runs after the row has gone, and leaves the database alone
    have hd : o.database.get ((Publisher.publish o.publisher (.deleted user.id m.now)).quiet m
        (o.database.set d s)).2 = d := (o.apart ..).trans (o.lawful.get_set d s)
    dsimp only
    generalize (Publisher.publish o.publisher _).quiet m _ = published at hd ⊢
    obtain ⟨result, s'⟩ := published
    cases hd
    cases result with
    | error e => exact .deleted (.of_change hc) rfl
    | ok => exact .deleted (.of_change hc) rfl

theorem read_effect (scope : Scope) (r : Reading) :
    o.Accounted m s (.ask scope (.read r)) := by
  rw [Accounted, take_ask_quiet]
  simp only [Request.on, Service.read_quiet]
  dsimp only [inScope]
  cases hv : (o.database.get s).visible scope with
  | error e => exact .refused
  | ok rows =>
    refine .answered trivial hv fun u hu => Reading.mem_handedOut (r := r) ?_
    rwa [handedOut_mapError, handedOut_mapError] at hu

theorem authenticate_effect (scope : Scope) (email : Email) (password : String) :
    o.Accounted m s (.ask scope (.authenticate email password)) := by
  rw [Accounted, take_ask_quiet]
  simp only [Request.on, Business.authenticate, Operation.quiet_bind, Operation.quiet_pure,
    Service.authenticate_quiet, Service.byEmail_quiet]
  dsimp only [inScope]
  generalize hj : Service.judge password _ = judged
  cases judged with
  | error e => exact .refused
  | ok user =>
    obtain ⟨hfound, -⟩ := Service.judge_eq_ok.mp hj
    cases hv : (o.database.get s).visible scope with
    | error e =>
      rw [hv] at hfound
      cases hfound
    | ok rows =>
      have hf : rows.byEmail? email = some user := by
        rw [hv] at hfound
        dsimp only [bind, Except.bind] at hfound
        cases hf : rows.byEmail? email with
        | none =>
          rw [hf] at hfound
          cases hfound
        | some other =>
          rw [hf] at hfound
          cases hfound
          rfl
      refine .answered (show (Request.authenticate email password).Reads from trivial) hv ?_
      intro u hu
      cases List.mem_singleton.mp hu
      exact Keyed.mem_values_iff.mp (List.mem_of_find?_eq_some hf)

theorem finish_effect {turn : Turn} {step : Step} {result : Except StepError Answer}
    (how : String) (f : Database → Except TxError Nat × Database) (hs : turn.step? = some step)
    (he : Effect (o.database.get s) step result (f (o.database.get s)).2)
    (ht : o.take turn = Operation.mapError .tx do
      MemoryStore.finish o.database how f
      return .done) :
    o.Accounted m s turn := by
  rw [Accounted, ht, Operation.quiet_mapError, Operation.quiet_bind, Operation.quiet,
    MemoryStore.finish_run]
  generalize f (o.database.get s) = ended at he ⊢
  obtain ⟨_ | _, d⟩ := ended
  all_goals
    dsimp only [Operation.quiet_pure]
    rw [o.lawful.get_set]
    exact .handled hs he rfl

theorem begin_effect (tx : Nat) : o.Accounted m s (.begin tx) := by
  have hd : o.database.get ((o.take (.begin tx)).quiet m s).2 = (o.database.get s).begin tx :=
    o.lawful.get_set ..
  rw [Accounted, hd]
  exact .handled rfl (Step.effect_begin (m := m) tx) rfl

theorem bind_effect (tx : Nat) : o.Accounted m s (.bind tx) := by
  simp only [Accounted, take, Operation.quiet_mapError, Operation.quiet_bind, business_quiet,
    Operation.quiet_pure]
  exact .handled rfl .bound rfl

theorem commit_effect (tx : Nat) : o.Accounted m s (.commit tx) := by
  have he := Step.effect_commit (m := m) (d := o.database.get s) tx
  have hd : ((Step.commit tx).run m (o.database.get s)).state =
      ((o.database.get s).commit tx).2 := by
    rw [Step.run_commit]
    split <;> simp [*]
  rw [hd] at he
  exact o.finish_effect "commit" (·.commit tx) rfl he rfl

theorem rollback_effect (tx : Nat) : o.Accounted m s (.rollback tx) := by
  have he := Step.effect_rollback (m := m) (d := o.database.get s) tx
  have hd : ((Step.rollback tx).run m (o.database.get s)).state =
      ((o.database.get s).rollback tx).2 := by
    rw [Step.run_rollback]
    split <;> simp [*]
  rw [hd] at he
  exact o.finish_effect "rollback" (·.rollback tx) rfl he rfl

/-- Every turn does one of the things that a turn can do. -/
theorem effect (turn : Turn) (m : Moment) (s : σ) :
    TurnEffect m (o.database.get s) turn (o.take turn m s).result
      (o.database.get (o.take turn m s).state) := by
  cases turn with
  | begin tx => exact o.begin_effect tx
  | bind tx => exact o.bind_effect tx
  | ask scope request =>
    cases request with
    | create actor new => exact o.create_effect scope actor new
    | update actor user changes => exact o.update_effect scope actor user changes
    | delete actor user => exact o.delete_effect scope actor user
    | read reading => exact o.read_effect scope reading
    | authenticate email password => exact o.authenticate_effect scope email password
  | commit tx => exact o.commit_effect tx
  | rollback tx => exact o.rollback_effect tx

end Office

-- ---------------------------------------------------------------------------
-- Small courses
-- ---------------------------------------------------------------------------

namespace Sample

/-- A business whose events cannot be published. -/
def office : Office Database (Outlet Database Unit) where
  number := 0
  database := .whole
  publisher := .failing "files" ⟨"down", []⟩
  lawful := Slot.whole_lawful
  apart _ _ _ := rfl

def newUser (address : String) : NewUser :=
  ⟨"Ada", ⟨address⟩, "secret", [.user], none⟩

def move (address : String) : UserUpdate :=
  ⟨none, some ⟨address⟩, none, none, none, none⟩

theorem exists_hash (salt : Bcrypt.Salt) : ∃ hash, Password.hash salt "secret" = .ok hash := by
  have hl : ¬ Bcrypt.maxLength < (Bcrypt.terminated "secret").length := by
    have : (Bcrypt.terminated "secret").length = 7 := by decide +kernel
    rw [this]
    decide
  rw [Password.hash, Bcrypt.hash, Bcrypt.hashBytes, if_neg (by decide), if_neg hl]
  exact ⟨_, rfl⟩

end Sample

end Accounts

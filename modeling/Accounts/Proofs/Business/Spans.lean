import Accounts.Proofs.Business.Layers

/-!
# Spans in the trace

The core opens a span for every request before anything else is shown, closes it after everything
else, and reports a failure right before that. The only span inside of another one is that of the
look-up in an authentication. Stores and publishers are taken to open no spans and to report no
failures of their own.
-/

namespace Accounts

-- ---------------------------------------------------------------------------
-- Traces
-- ---------------------------------------------------------------------------

namespace Signal

/-- Neither a bound of a span nor the report of a failure. -/
def Incidental : Signal → Prop
  | .opened .. => False
  | .closed _ => False
  | .event level .. => level ≠ .error
  | .note _ => True

/-- The spans that are open behind a signal, the innermost first. No other one can be closed. -/
def behind : List String → Signal → Option (List String)
  | spans, .opened span _ => some (span :: spans)
  | [], .closed _ => none
  | innermost :: spans, .closed span => if span = innermost then some spans else none
  | spans, .event .. => some spans
  | spans, .note _ => some spans

/-- Every span that is opened in the trace is closed in it, the innermost first, and no other span
is closed. -/
def Balanced (trace : List Signal) : Prop :=
  ∀ spans, trace.foldlM behind spans = some spans

/-- The report of a failure, where there is one. -/
def report {α : Type} : Except UserError α → List Signal
  | .ok _ => []
  | .error e => [failure e.message]

/-- A span with what it contains. -/
def span {α : Type} (name : String) (fields : Fields) (inside : List Signal)
    (result : Except UserError α) : List Signal :=
  .opened name fields :: inside ++ report result ++ [.closed name]

namespace Balanced

variable {trace trace' : List Signal}

theorem nil : Balanced [] := fun _ => rfl

theorem append (h : Balanced trace) (h' : Balanced trace') : Balanced (trace ++ trace') := by
  intro spans
  rw [List.foldlM_append, h spans]
  exact h' spans

theorem flatMap {α : Type} {f : α → List Signal} {as : List α} (h : ∀ a ∈ as, Balanced (f a)) :
    Balanced (as.flatMap f) := by
  induction as with
  | nil => exact nil
  | cons a as ih =>
    rw [List.flatMap_cons]
    exact (h a List.mem_cons_self).append (ih fun b hb => h b (List.mem_cons_of_mem _ hb))

theorem of_behind {signal : Signal} (h : ∀ spans, behind spans signal = some spans) :
    Balanced [signal] := by
  intro spans
  rw [List.foldlM_cons, h]
  rfl

theorem of_incidental (h : ∀ signal ∈ trace, signal.Incidental) : Balanced trace := by
  induction trace with
  | nil => exact nil
  | cons signal trace ih =>
    have hsignal : Balanced [signal] := by
      have hi : signal.Incidental := h signal List.mem_cons_self
      cases signal with
      | opened => cases hi
      | closed => cases hi
      | event => exact of_behind fun spans => by cases spans <;> rfl
      | note => exact of_behind fun spans => by cases spans <;> rfl
    exact hsignal.append (ih fun other ho => h other (List.mem_cons_of_mem _ ho))

theorem report {α : Type} (result : Except UserError α) : Balanced (report result) := by
  cases result with
  | ok => exact nil
  | error e => exact of_behind fun spans => by cases spans <;> rfl

theorem span {α : Type} (h : Balanced trace) (name : String) (fields : Fields)
    (result : Except UserError α) : Balanced (span name fields trace result) := by
  intro spans
  have hinside := h.append (report result) (name :: spans)
  change (trace ++ Signal.report result ++ [closed name]).foldlM behind (name :: spans) = _
  rw [List.foldlM_append, hinside]
  simp [behind]

end Balanced

theorem report_map {α β : Type} (result : Except UserError α) (f : α → β) :
    report (result.map f) = report result := by
  cases result <;> rfl

theorem span_map {α β : Type} (name : String) (fields : Fields) (inside : List Signal)
    (result : Except UserError α) (f : α → β) :
    span name fields inside (result.map f) = span name fields inside result := by
  rw [span, report_map, span]

end Signal

-- ---------------------------------------------------------------------------
-- Operations without spans
-- ---------------------------------------------------------------------------

namespace Operation

/-- The operation opens no spans and reports no failures. -/
def Incidental {σ ε α : Type} (x : Operation σ ε α) : Prop :=
  ∀ m s, ∀ signal ∈ (x m s).signals, signal.Incidental

namespace Incidental

variable {σ ε ε' α β : Type} {x : Operation σ ε α}

theorem of_silent (h : ∀ m s, (x m s).signals = []) : x.Incidental := by
  intro m s signal hmem
  rw [h] at hmem
  cases hmem

theorem pure (a : α) : (Pure.pure a : Operation σ ε α).Incidental := of_silent fun _ _ => rfl

theorem fail (e : ε) : (fail e : Operation σ ε α).Incidental := of_silent fun _ _ => rfl

theorem moment : (moment : Operation σ ε Moment).Incidental := of_silent fun _ _ => rfl

theorem ofExcept (r : Except ε α) : (ofExcept r : Operation σ ε α).Incidental :=
  of_silent fun m s => by rw [ofExcept_run]

theorem emit (signal : Signal) (h : signal.Incidental) :
    (emit signal : Operation σ ε Unit).Incidental := by
  rintro m s _ (_ | ⟨_, ⟨⟩⟩)
  exact h

theorem info {message : String} {fields : Fields} :
    (Operation.emit (.info message fields) : Operation σ ε Unit).Incidental :=
  emit (.info message fields) Level.noConfusion

theorem debug {message : String} {fields : Fields} :
    (Operation.emit (.debug message fields) : Operation σ ε Unit).Incidental :=
  emit (.debug message fields) Level.noConfusion

theorem mapError (h : x.Incidental) (f : ε → ε') : (x.mapError f).Incidental := h

theorem bind (h : x.Incidental) {f : α → Operation σ ε β} (hf : ∀ a, (f a).Incidental) :
    (x >>= f).Incidental := by
  intro m s signal hmem
  cases hr : (x m s).result with
  | ok a =>
    rw [bind_ok hr] at hmem
    rcases List.mem_append.mp hmem with hmem | hmem
    · exact h m s signal hmem
    · exact hf a m _ signal hmem
  | error e =>
    rw [bind_error hr] at hmem
    exact h m s signal hmem

end Incidental

end Operation

/-- Stores that open no spans and report no failures, whatever is asked of them. Bound to a
transaction, such a store is one of them again. -/
structure Storer.Discreet {σ ρ : Type} [Storer σ ρ] (P : ρ → Prop) : Prop where
  newWithTx {store : ρ} (h : P store) (handle : TxHandle) :
    (Storer.newWithTx store handle).Incidental
  bound {store bound : ρ} {handle : TxHandle} {m : Moment} {s : σ} (h : P store) :
    (Storer.newWithTx store handle m s).result = .ok bound → P bound
  create {store : ρ} (h : P store) (user : User) : (Storer.create store user).Incidental
  update {store : ρ} (h : P store) (user : User) : (Storer.update store user).Incidental
  delete {store : ρ} (h : P store) (user : User) : (Storer.delete store user).Incidental
  query {store : ρ} (h : P store) (filter : Filter) (orderBy : OrderBy) (page : Page) :
    (Storer.query store filter orderBy page).Incidental
  count {store : ρ} (h : P store) (filter : Filter) : (Storer.count store filter).Incidental
  byId {store : ρ} (h : P store) (id : Uuid) : (Storer.byId store id).Incidental
  byEmail {store : ρ} (h : P store) (email : Email) : (Storer.byEmail store email).Incidental

namespace MemoryStore

open Operation

variable {σ : Type}

theorem rows_incidental (store : MemoryStore σ) : store.rows.Incidental :=
  .of_silent fun m s => by rw [rows_run]

theorem change_incidental (store : MemoryStore σ) (check : Table → Except StoreError Change) :
    (store.change check).Incidental := by
  refine .of_silent fun m s => ?_
  rw [change_run]
  cases (store.database.get s).change check store.scope <;> rfl

theorem found_incidental (user : Option User) :
    (found user : Operation σ StoreError User).Incidental :=
  .of_silent fun m s => by rw [found_run]

theorem query_incidental (store : MemoryStore σ) (filter : Filter) (orderBy : OrderBy)
    (page : Page) : (store.query filter orderBy page).Incidental := by
  refine store.rows_incidental.bind fun rows => ?_
  refine (Incidental.ofExcept _).bind fun users => ?_
  exact Incidental.debug.bind fun _ => .pure users

theorem discreet : Storer.Discreet fun _ : MemoryStore σ => True where
  newWithTx _ _ := .ofExcept _
  bound _ _ := trivial
  create _ _ := change_incidental _ _
  update _ _ := change_incidental _ _
  delete _ _ := change_incidental _ _
  query _ := query_incidental _
  count _ _ := (rows_incidental _).bind fun _ => .pure _
  byId _ _ := (rows_incidental _).bind fun _ => found_incidental _
  byEmail _ _ := (rows_incidental _).bind fun _ => found_incidental _

end MemoryStore

-- ---------------------------------------------------------------------------
-- The spans of the core
-- ---------------------------------------------------------------------------

/-- The name of the span that a request runs in. -/
def Request.span : Request → String
  | .create .. => "business.userbus.create"
  | .update .. => "business.userbus.update"
  | .delete .. => "business.userbus.delete"
  | .read (.list ..) => "business.userbus.query"
  | .read (.count _) => "business.userbus.count"
  | .read (.byId _) => "business.userbus.querybyid"
  | .read (.byEmail _) => "business.userbus.querybyemail"
  | .authenticate .. => "business.userbus.authenticate"

namespace Service

/-- What a request with this result shows, if an address that is looked up comes to `looked`. -/
inductive Shows (looked : Email → Except UserError User) :
    Request → Except UserError Answer → List Signal → Prop
  | alone {request : Request} {fields : Fields} {inside : List Signal}
    {result : Except UserError Answer}
    (hr : ∀ email password, request ≠ .authenticate email password)
    (h : ∀ signal ∈ inside, signal.Incidental) :
    Shows looked request result (Signal.span request.span fields inside result)
  | authenticate {email : Email} {password : String} {fields fields' : Fields}
    {inside after : List Signal} (h : ∀ signal ∈ inside, signal.Incidental)
    (h' : ∀ signal ∈ after, signal.Incidental) :
    Shows looked (.authenticate email password) ((judge password (looked email)).map .user)
      (Signal.span "business.userbus.authenticate" fields
        (Signal.span "business.userbus.querybyemail" fields' inside (looked email) ++ after)
        (judge password (looked email)))

theorem Shows.balanced {looked : Email → Except UserError User} {request : Request}
    {result : Except UserError Answer} {trace : List Signal}
    (h : Shows looked request result trace) : Signal.Balanced trace := by
  cases h with
  | alone hr h => exact (Signal.Balanced.of_incidental h).span _ _ _
  | authenticate h h' =>
    exact (((Signal.Balanced.of_incidental h).span _ _ _).append (.of_incidental h')).span _ _ _

variable {σ ρ π : Type} [Storer σ ρ] {P : ρ → Prop} {core : Service ρ π} {m : Moment} {s : σ}

theorem spanned_signals {α : Type} (operation : String) (fields : Fields)
    (x : Operation σ UserError α) :
    (spanned operation fields x m s).signals =
      Signal.span ("business.userbus." ++ operation) fields (x m s).signals (x m s).result := by
  simp only [spanned, Operation.traced, Signal.span]
  cases (x m s).result <;> rfl

theorem spanned_result {α : Type} (operation : String) (fields : Fields)
    (x : Operation σ UserError α) :
    (spanned operation fields x m s).result = (x m s).result := rfl

/-- What is made of the result of an operation in a span of its own does not show. -/
theorem shows_of_spanned {α : Type} {looked : Email → Except UserError User} {request : Request}
    {operation : String} {fields : Fields} {x y : Operation σ UserError α}
    (hr : ∀ email password, request ≠ .authenticate email password)
    (hname : "business.userbus." ++ operation = request.span)
    (hy : y = spanned operation fields x) (h : x.Incidental) (f : α → Answer) :
    let o := (do return f (← y) : Operation σ UserError Answer) m s
    Shows looked request o.result o.signals := by
  intro o
  have ho : o = ⟨(x m s).result.map f, (spanned operation fields x m s).signals, _⟩ :=
    (congrArg (fun z => (do return f (← z) : Operation σ UserError Answer) m s) hy).trans
      (Operation.bind_return_run ..)
  rw [ho, spanned_signals, hname, ← Signal.span_map _ _ _ _ f]
  exact .alone hr (h m s)

variable (P) in
/-- A core over stores and a publisher that open no spans and report no failures. -/
structure Discreet [Publisher σ π] (core : Service ρ π) : Prop where
  stores : Storer.Discreet P
  store : P core.store
  publisher (event : Event) : (Publisher.publish core.publisher event).Incidental

theorem hash_incidental (password : String) :
    (Service.hash password : Operation σ UserError String).Incidental :=
  .of_silent fun m s => by rw [hash_run]

theorem rehash_incidental (changes : UserUpdate) :
    (rehash changes : Operation σ UserError (Option String)).Incidental :=
  .of_silent fun m s => by rw [rehash_run]

section
variable [Publisher σ π] (h : core.Discreet P)
include h

theorem newWithTx_incidental (handle : TxHandle) : (core.newWithTx handle).Incidental :=
  ((h.stores.newWithTx h.store handle).mapError _).bind fun _ => .pure _

/-- What is bound of such a core is one of them again. -/
theorem discreet_of_newWithTx {handle : TxHandle} {bound : Service ρ π}
    (hbound : (core.newWithTx handle m s).result = .ok bound) : bound.Discreet P := by
  rw [newWithTx, Operation.bind_return_run] at hbound
  dsimp only [Operation.mapError] at hbound
  cases hr : (Storer.newWithTx core.store handle m s).result with
  | error e =>
    rw [hr] at hbound
    cases hbound
  | ok store =>
    rw [hr] at hbound
    cases hbound
    exact ⟨h.stores, h.stores.bound h.store hr, h.publisher⟩

theorem merge_incidental (user : User) (changes : UserUpdate) (text : Option String) :
    (core.merge user changes text).Incidental := by
  refine Operation.Incidental.moment.bind fun m => ?_
  refine ((h.stores.update h.store _).mapError _).bind fun _ => ?_
  exact Operation.Incidental.info.bind fun _ => .pure _

variable (looked : Email → Except UserError User)

theorem shows_create (actor : Uuid) (new : NewUser) :
    let o := (Request.create actor new).on core m s
    Shows looked (.create actor new) o.result o.signals := by
  refine shows_of_spanned (fun _ _ => Request.noConfusion) rfl rfl ?_ .user
  refine (hash_incidental new.password).bind fun hash => ?_
  refine Operation.Incidental.moment.bind fun m => ?_
  refine ((h.stores.create h.store _).mapError _).bind fun _ => ?_
  exact Operation.Incidental.info.bind fun _ => .pure _

theorem shows_update (actor : Uuid) (user : User) (changes : UserUpdate) :
    let o := (Request.update actor user changes).on core m s
    Shows looked (.update actor user changes) o.result o.signals := by
  refine shows_of_spanned (fun _ _ => Request.noConfusion) rfl (update_eq core ..) ?_ .user
  exact (rehash_incidental changes).bind (merge_incidental h user changes)

theorem shows_delete (actor : Uuid) (user : User) :
    let o := (Request.delete actor user).on core m s
    Shows looked (.delete actor user) o.result o.signals := by
  refine shows_of_spanned (fun _ _ => Request.noConfusion) rfl rfl ?_ fun _ => .done
  refine ((h.stores.delete h.store user).mapError _).bind fun _ => ?_
  refine Operation.Incidental.moment.bind fun m => ?_
  exact ((h.publisher _).mapError _).bind fun _ => .info

theorem shows_read (reading : Reading) :
    let o := (Request.read reading).on core m s
    Shows looked (.read reading) o.result o.signals := by
  cases reading with
  | list filter orderBy page =>
    refine shows_of_spanned (fun _ _ => Request.noConfusion) rfl rfl ?_ .users
    refine ((h.stores.query h.store filter orderBy page).mapError _).bind fun _ => ?_
    exact Operation.Incidental.debug.bind fun _ => .pure _
  | count filter =>
    exact shows_of_spanned (fun _ _ => Request.noConfusion) rfl rfl
      ((h.stores.count h.store filter).mapError _) .count
  | byId id =>
    exact shows_of_spanned (fun _ _ => Request.noConfusion) rfl rfl
      ((h.stores.byId h.store id).mapError _) .user
  | byEmail email =>
    exact shows_of_spanned (fun _ _ => Request.noConfusion) rfl rfl
      ((h.stores.byEmail h.store email).mapError _) .user

omit h [Publisher σ π] in
/-- Whatever comes of the look-up, nothing but debug messages follows on it. -/
theorem authenticate_eq (email : Email) (password : String) :
    ∃ next : Except UserError User → Operation σ UserError User,
      (∀ result, (next result).Incidental) ∧
        core.authenticate email password =
          spanned "authenticate" [("email", email.address)]
            ((core.byEmail email).attempt >>= next) := by
  refine ⟨_, ?_, rfl⟩
  rintro (e | user)
  · dsimp only
    split
    · refine Operation.Incidental.debug.bind fun _ => ?_
      exact Operation.Incidental.moment.bind fun _ => .fail _
    · exact .fail _
  · dsimp only
    split
    · exact .pure user
    · exact Operation.Incidental.debug.bind fun _ => .fail _

omit h [Publisher σ π] in
theorem authenticate_result (email : Email) (password : String) :
    (core.authenticate email password m s).result =
      judge password (core.byEmail email m s).result :=
  (Prod.mk.inj (authenticate_quiet core email password)).1

theorem authenticate_signals (email : Email) (password : String) :
    ∃ inside after,
      (∀ signal ∈ inside, signal.Incidental) ∧ (∀ signal ∈ after, signal.Incidental) ∧
        (core.authenticate email password m s).signals =
          Signal.span "business.userbus.authenticate" [("email", email.address)]
            (Signal.span "business.userbus.querybyemail" [("email", email.address)] inside
              (core.byEmail email m s).result ++ after)
            (judge password (core.byEmail email m s).result) := by
  obtain ⟨next, hnext, heq⟩ := core.authenticate_eq email password
  have hresult := core.authenticate_result email password (m := m) (s := s)
  rw [heq, spanned_result] at hresult
  have hlookup : (core.byEmail email m s).signals = Signal.span "business.userbus.querybyemail" _ _
      (core.byEmail email m s).result :=
    spanned_signals "querybyemail" _ _
  have hattempt : (((core.byEmail email).attempt : Operation σ UserError _) m s).result =
      .ok (core.byEmail email m s).result := rfl
  refine ⟨((Storer.byEmail core.store email).mapError (UserError.lookup (.email email)) m s).signals,
    (next (core.byEmail email m s).result m (core.byEmail email m s).state).signals,
    (h.stores.byEmail h.store email).mapError _ m s, hnext _ m _, ?_⟩
  rw [heq, spanned_signals, hresult, Operation.bind_ok hattempt, ← hlookup]
  rfl

theorem shows_authenticate (email : Email) (password : String) :
    let o := (Request.authenticate email password).on core m s
    Shows (fun email => (core.byEmail email m s).result) (.authenticate email password) o.result
      o.signals := by
  intro o
  have ho : o = ⟨(core.authenticate email password m s).result.map .user,
      (core.authenticate email password m s).signals, _⟩ := Operation.bind_return_run ..
  obtain ⟨inside, after, hinside, hafter, hsignals⟩ :=
    authenticate_signals (m := m) (s := s) h email password
  rw [ho, hsignals, core.authenticate_result]
  exact Shows.authenticate hinside hafter

/-- What a request shows depends on what comes of it and of a look-up in it. -/
theorem shows_on (request : Request) :
    Shows (fun email => (core.byEmail email m s).result) request (request.on core m s).result
      (request.on core m s).signals := by
  cases request with
  | create actor new => exact shows_create h _ actor new
  | update actor user changes => exact shows_update h _ actor user changes
  | delete actor user => exact shows_delete h _ actor user
  | read reading => exact shows_read h _ reading
  | authenticate email password => exact shows_authenticate h email password

end

end Service

-- ---------------------------------------------------------------------------
-- Dealings with the core
-- ---------------------------------------------------------------------------

/-- A request has been shown in its own span, and a binding in none. -/
def Dealt.Shows {σ : Type} (d : Dealt σ) : Prop :=
  match d.dealing with
  | .ask _ request => ∃ looked, Service.Shows looked request d.outcome.result d.outcome.signals
  | .bind _ _ => ∀ signal ∈ d.outcome.signals, signal.Incidental

theorem Dealt.Shows.balanced {σ : Type} {d : Dealt σ} (h : d.Shows) :
    Signal.Balanced d.outcome.signals := by
  obtain ⟨dealing, o⟩ := d
  cases dealing with
  | ask index request =>
    obtain ⟨looked, h⟩ := h
    exact h.balanced
  | bind index handle => exact .of_incidental h

namespace Service

variable {σ ρ π : Type} [Storer σ ρ] [Publisher σ π] {P : ρ → Prop} {core : Service ρ π}

/-- The members of a family stay discreet whatever is dealt with them. -/
theorem deal_shows {family : List (Service ρ π)} (h : ∀ core ∈ family, core.Discreet P) (s : σ)
    (dealings : List (Moment × Dealing)) : ∀ d ∈ deal family s dealings, d.Shows := by
  induction dealings generalizing family s with
  | nil => exact List.forall_mem_nil _
  | cons first rest ih =>
    obtain ⟨m, dealing⟩ := first
    cases dealing with
    | ask index request =>
      simp only [deal]
      cases hcore : family[index]? with
      | none => exact ih h s
      | some core =>
        have hc : core.Discreet P := h core (List.mem_of_getElem? hcore)
        exact List.forall_mem_cons.mpr ⟨⟨_, shows_on hc request⟩, ih h _⟩
    | bind index handle =>
      simp only [deal]
      cases hcore : family[index]? with
      | none => exact ih h s
      | some core =>
        have hc : core.Discreet P := h core (List.mem_of_getElem? hcore)
        have hgrown : ∀ other ∈ family ++
            (Business.newWithTx core handle m s).result.toOption.toList, other.Discreet P := by
          intro other hmem
          rcases List.mem_append.mp hmem with hmem | hmem
          · exact h other hmem
          · cases hbound : (Business.newWithTx core handle m s).result with
            | error e =>
              rw [hbound] at hmem
              cases hmem
            | ok bound =>
              rw [hbound] at hmem
              cases List.mem_singleton.mp hmem
              exact discreet_of_newWithTx hc hbound
        exact List.forall_mem_cons.mpr ⟨newWithTx_incidental hc handle m s, ih hgrown _⟩

/-- Over a store and a publisher that open no spans and report no failures, every request is shown
in one span of its own, with its failure reported last, and with no other span in it but that of
the look-up in an authentication. That one reports what came of the look-up, also where all that
the authentication tells is that it failed. A binding is shown in no span. Whatever dealings a core
and those bound of it have had, the trace is balanced. -/
theorem spans_balanced (h : core.Discreet P) :
    (∀ (request : Request) m s,
      Shows (fun email => (Business.byEmail core email m s).result) request
        (request.on core m s).result (request.on core m s).signals) ∧
    (∀ email password m s, (Storer.byEmail core.store email m s).result = .error .notFound →
      ∃ inside after, (∀ signal ∈ inside, signal.Incidental) ∧
        (∀ signal ∈ after, signal.Incidental) ∧
        (Business.authenticate core email password m s).signals =
          [.opened "business.userbus.authenticate" [("email", email.address)],
            .opened "business.userbus.querybyemail" [("email", email.address)]] ++ inside ++
          [.failure (UserError.notFound (.email email)).message,
            .closed "business.userbus.querybyemail"] ++ after ++
          [.failure UserError.authenticationFailure.message,
            .closed "business.userbus.authenticate"]) ∧
    ∀ s dealings,
      (∀ d ∈ deal [core] s dealings, d.Shows ∧ Signal.Balanced d.outcome.signals) ∧
        Signal.Balanced ((deal [core] s dealings).flatMap (·.outcome.signals)) := by
  refine ⟨fun request m s => shows_on h request, ?_, fun s dealings => ?_⟩
  · intro email password m s hunknown
    have hlooked : (core.byEmail email m s).result = .error (.notFound (.email email)) :=
      congrArg (Except.mapError (UserError.lookup (.email email))) hunknown
    obtain ⟨inside, after, hinside, hafter, hsignals⟩ :=
      authenticate_signals (m := m) (s := s) h email password
    refine ⟨inside, after, hinside, hafter, hsignals.trans ?_⟩
    rw [hlooked]
    simp [Signal.span, Signal.report, judge, UserError.isNotFound, UserError.kind]
  · have hshows : ∀ d ∈ deal [core] s dealings, d.Shows :=
      deal_shows (fun _ hmem => List.mem_singleton.mp hmem ▸ h) s dealings
    exact ⟨fun d hd => ⟨hshows d hd, (hshows d hd).balanced⟩,
      .flatMap fun d hd => (hshows d hd).balanced⟩

/-- Nobody has the address, the business is bound to a transaction that is not there, and nothing
can be deleted in it. -/
theorem spans_balanced_failures :
    let core : Service (MemoryStore Database) (Outlet Database Unit) :=
      ⟨.shared 0 .whole, .failing "files" ⟨"down", []⟩⟩
    let email : Email := ⟨"ada@old.org"⟩
    let dealings := [Dealing.ask 0 (.authenticate email "secret"), .bind 0 (.memory 0 7),
      .ask 1 (.delete ⟨0⟩ (Sample.user 1 "ada@old.org"))].map (Sample.moment, ·)
    let trace := (deal [core] .empty dealings).flatMap (·.outcome.signals)
    core.Discreet (fun _ => True) ∧
      (Storer.byEmail core.store email Sample.moment Database.empty).result = .error .notFound ∧
      (∃ inside after, (Business.authenticate core email "secret" Sample.moment .empty).signals =
        [.opened "business.userbus.authenticate" [("email", "ada@old.org")],
          .opened "business.userbus.querybyemail" [("email", "ada@old.org")]] ++ inside ++
        [.failure (UserError.notFound (.email email)).message,
          .closed "business.userbus.querybyemail"] ++ after ++
        [.failure UserError.authenticationFailure.message,
          .closed "business.userbus.authenticate"]) ∧
      Signal.Balanced trace ∧
      trace.drop 6 = [.closed "business.userbus.authenticate",
        .opened "business.userbus.delete" [("actor_id", "00000000-0000-0000-0000-000000000000"),
          ("user_id", "00000000-0000-0000-0000-000000000001")],
        .failure "delete: transaction: transaction already completed",
        .closed "business.userbus.delete"] := by
  intro core email dealings trace
  have hcore : core.Discreet (fun _ => True) :=
    ⟨MemoryStore.discreet, trivial, fun event => .fail _⟩
  have hunknown : (Storer.byEmail core.store email Sample.moment Database.empty).result =
      .error .notFound := rfl
  obtain ⟨-, hauthenticate, hdealt⟩ := spans_balanced hcore
  obtain ⟨inside, after, -, -, hsignals⟩ := hauthenticate email "secret" _ _ hunknown
  refine ⟨hcore, hunknown, ⟨inside, after, hsignals⟩, (hdealt .empty dealings).2, ?_⟩
  decide +kernel

end Service

end Accounts

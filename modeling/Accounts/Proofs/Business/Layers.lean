import Accounts.Business.Plugin
import Accounts.Proofs.Business.Course

/-!
# Recorders around a business

A recorder that refuses nothing shows what passes through it and alters nothing. However many of
them are wrapped around a business, and however many places of the list are left empty, every call
comes to what it comes to without them, with their notes around it: the first of the list is the
first to note that a call goes in and the last to note that it comes out.
-/

namespace Accounts

-- ---------------------------------------------------------------------------
-- Lists of plugins
-- ---------------------------------------------------------------------------

section
variable {m : Type → Type} [Monad m] {β : Type}

/-- Plugins around what has plugins around it already are all plugins in one list. -/
theorem wrap_append [LawfulMonad m] (inner : β) (outer within : List (Option (β → m β))) :
    (wrap inner within >>= fun business => wrap business outer) =
      wrap inner (outer ++ within) := by
  induction outer with
  | nil => exact bind_pure _
  | cons plugin outer ih =>
    cases plugin with
    | none => exact ih
    | some plugin =>
      calc (wrap inner within >>= fun business => wrap business (some plugin :: outer))
          = (wrap inner within >>= fun business => wrap business outer) >>= plugin :=
            (bind_assoc ..).symm
        _ = wrap inner (outer ++ within) >>= plugin := by rw [ih]

theorem wrap_filter_isSome (inner : β) (plugins : List (Option (β → m β))) :
    wrap inner (plugins.filter Option.isSome) = wrap inner plugins := by
  induction plugins with
  | nil => rfl
  | cons plugin plugins ih =>
    cases plugin with
    | none => exact ih
    | some plugin => exact congrArg (· >>= plugin) ih

end

-- ---------------------------------------------------------------------------
-- Recorders that refuse nothing
-- ---------------------------------------------------------------------------

/-- The name under which a request is recorded. -/
def Request.method : Request → String
  | .create .. => "create"
  | .update .. => "update"
  | .delete .. => "delete"
  | .read (.list ..) => "query"
  | .read (.count _) => "count"
  | .read (.byId _) => "query_by_id"
  | .read (.byEmail _) => "query_by_email"
  | .authenticate .. => "authenticate"

namespace Recorder

/-- Notes every operation, passes it on as it is, and stays when the business is bound. -/
def plain (tag : String) : Recorder where
  tag := tag
  record := true
  deny := []
  namePrefix := ""
  rewrap := true

/-- The note of a recorder that an operation is at a point. -/
def mark (point method tag : String) : Signal :=
  .note (tag ++ "-" ++ point ++ ":" ++ method)

end Recorder

/-- The same outcome, with the notes of recorders around it. -/
def Outcome.recorded {σ ε α : Type} (tags : List String) (method : String) (o : Outcome σ ε α) :
    Outcome σ ε α :=
  { o with
    signals := tags.map (Recorder.mark "enter" method) ++ o.signals ++
      tags.reverse.map (Recorder.mark "exit" method) }

theorem Outcome.recorded_cons {σ ε α : Type} (tag : String) (tags : List String)
    (method : String) (o : Outcome σ ε α) :
    (o.recorded tags method).recorded [tag] method = o.recorded (tag :: tags) method := by
  simp [Outcome.recorded]

namespace Layered

variable {σ β : Type}

/-- The business inside of recorders with these tags, the first of them outermost. -/
def inside (tags : List String) (inner : Layered β) : Layered β :=
  tags.foldr (fun tag business => .layer (.plain tag) business) inner

variable {m : Moment} {s : σ}

theorem around_plain_run {α : Type} (tag method : String) (x : Operation σ UserError α) :
    (Recorder.plain tag).around method x m s = (x m s).recorded [tag] method := by
  have haround : (Recorder.plain tag).around method x = (do
      Operation.emit (Recorder.mark "enter" method tag)
      let result ← x.attempt
      Operation.emit (Recorder.mark "exit" method tag)
      Operation.ofExcept result) := if_neg List.not_mem_nil
  rw [haround]
  simp only [Operation.bind_run, Operation.bind, Operation.emit_run, Operation.attempt,
    Operation.ofExcept_run]
  simp [Outcome.recorded]

/-- What is made of a result does not show in the notes. -/
theorem recorded_answer {α : Type} {x y : Operation σ UserError α} {tags : List String}
    {method : String} (h : y m s = (x m s).recorded tags method) (f : α → Answer) :
    (do return f (← y) : Operation σ UserError Answer) m s =
      ((do return f (← x) : Operation σ UserError Answer) m s).recorded tags method := by
  rw [Operation.bind_return_run, Operation.bind_return_run, h]
  rfl

/-- The recorders of a list go around the business; where the list is empty, nothing does. -/
theorem wrap_plain_quiet {ε : Type} (tags : List (Option String)) (inner : Layered β) :
    (wrap inner (tags.map (Option.map fun tag => (Recorder.plain tag).plugin)) :
        Operation σ ε (Layered β)).quiet m s = (.ok (inner.inside tags.reduceOption), s) := by
  induction tags with
  | nil => rfl
  | cons tag tags ih =>
    cases tag with
    | none => exact ih
    | some tag =>
      simp only [List.map_cons, Option.map_some, wrap, Operation.quiet_bind, ih, Recorder.plugin,
        Operation.note, Operation.quiet_emit, Operation.quiet_pure]
      rfl

variable [Business σ β]

/-- One recorder puts its notes around what comes of a request. -/
theorem request_layer_run (tag : String) (inner : Layered β) (request : Request) :
    request.on (Layered.layer (.plain tag) inner) m s =
      (request.on inner m s).recorded [tag] request.method := by
  cases request with
  | create actor new =>
    have hname : ({ new with name := "" ++ new.name } : NewUser) = new := by
      rw [String.empty_append]
    refine recorded_answer (around_plain_run tag "create" _ |>.trans ?_) .user
    rw [Recorder.plain, hname]
    rfl
  | update actor user changes => exact recorded_answer (around_plain_run tag "update" _) .user
  | delete actor user => exact recorded_answer (around_plain_run tag "delete" _) fun _ => .done
  | read r =>
    cases r with
    | list => exact recorded_answer (around_plain_run tag "query" _) .users
    | count => exact recorded_answer (around_plain_run tag "count" _) .count
    | byId => exact recorded_answer (around_plain_run tag "query_by_id" _) .user
    | byEmail => exact recorded_answer (around_plain_run tag "query_by_email" _) .user
  | authenticate email password =>
    exact recorded_answer (around_plain_run tag "authenticate" _) .user

theorem request_inside_run (tags : List String) (inner : Layered β) (request : Request) :
    request.on (inner.inside tags) m s =
      (request.on inner m s).recorded tags request.method := by
  induction tags with
  | nil => simp [inside, Outcome.recorded]
  | cons tag tags ih =>
    rw [inside, List.foldr_cons, request_layer_run]
    exact (congrArg (·.recorded [tag] request.method) ih).trans (Outcome.recorded_cons ..)

/-- What is bound comes out inside of the same recorders, which note nothing. -/
theorem newWithTx_inside_run (tags : List String) (inner : Layered β) (handle : TxHandle) :
    Business.newWithTx (inner.inside tags) handle m s =
      ⟨(Business.newWithTx inner handle m s).result.map (inside tags),
        (Business.newWithTx inner handle m s).signals,
        (Business.newWithTx inner handle m s).state⟩ := by
  induction tags with
  | nil =>
    have hmap : ∀ result : Except UserError (Layered β), result.map (inside []) = result := by
      rintro (_ | _) <;> rfl
    rw [hmap]
    rfl
  | cons tag tags ih =>
    have hlayer : Business.newWithTx (inner.inside (tag :: tags)) handle =
        (do return Layered.layer (.plain tag) (← Business.newWithTx (inner.inside tags) handle)) :=
      rfl
    rw [hlayer, Operation.bind_return_run, ih]
    cases (Business.newWithTx inner handle m s).result <;> rfl

end Layered

-- ---------------------------------------------------------------------------
-- Dealings with a family of businesses
-- ---------------------------------------------------------------------------

/-- What is done with one business of a family. -/
inductive Dealing
  | ask (index : Nat) (request : Request)
  /-- Binds the business to a transaction; what comes of it joins the family. -/
  | bind (index : Nat) (handle : TxHandle)
  deriving DecidableEq, Repr

structure Dealt (σ : Type) where
  dealing : Dealing
  outcome : Outcome σ UserError Answer

/-- The dealings of a family in their order, each at a moment. A number that no business of the
family has is passed over. -/
def deal {σ β : Type} [Business σ β] (family : List β) (s : σ) :
    List (Moment × Dealing) → List (Dealt σ)
  | [] => []
  | (m, .ask index request) :: rest =>
    match family[index]? with
    | none => deal family s rest
    | some business =>
      let o := request.on business m s
      ⟨.ask index request, o⟩ :: deal family o.state rest
  | (m, .bind index handle) :: rest =>
    match family[index]? with
    | none => deal family s rest
    | some business =>
      let o := Business.newWithTx business handle m s
      ⟨.bind index handle, ⟨o.result.map fun _ => .done, o.signals, o.state⟩⟩ ::
        deal (family ++ o.result.toOption.toList) o.state rest

/-- The same, with the notes of recorders around every request. -/
def Dealt.recorded {σ : Type} (tags : List String) (d : Dealt σ) : Dealt σ :=
  match d.dealing with
  | .ask _ request => { d with outcome := d.outcome.recorded tags request.method }
  | .bind _ _ => d

theorem deal_inside {σ β : Type} [Business σ β] (tags : List String) (family : List (Layered β))
    (s : σ) (dealings : List (Moment × Dealing)) :
    deal (family.map (Layered.inside tags)) s dealings =
      (deal family s dealings).map (Dealt.recorded tags) := by
  induction dealings generalizing family s with
  | nil => rfl
  | cons first rest ih =>
    obtain ⟨m, dealing⟩ := first
    cases dealing with
    | ask index request =>
      simp only [deal, List.getElem?_map]
      cases family[index]? with
      | none => exact ih family s
      | some inner =>
        simp only [Option.map_some, List.map_cons, Layered.request_inside_run]
        exact congrArg _ (ih family _)
    | bind index handle =>
      simp only [deal, List.getElem?_map]
      cases family[index]? with
      | none => exact ih family s
      | some inner =>
        have hbound : ∀ result : Except UserError (Layered β),
            family.map (Layered.inside tags) ++ (result.map (Layered.inside tags)).toOption.toList =
              (family ++ result.toOption.toList).map (Layered.inside tags) := by
          rintro (_ | _) <;> simp [Except.map, Except.toOption]
        have hdone : ∀ result : Except UserError (Layered β),
            ((result.map (Layered.inside tags)).map fun _ => Answer.done) =
              result.map fun _ => Answer.done := by
          rintro (_ | _) <;> rfl
        simp only [Option.map_some, List.map_cons, Layered.newWithTx_inside_run, hbound, hdone]
        exact congrArg _ (ih _ _)

/-- Whatever recorders are wrapped around a business, a course of dealings with it and with what
is bound of it comes to the same, call by call, in results and states. Only the notes of the
recorders are new, around what the business shows itself: in the order of the list on the way in,
and in the reverse order on the way out. Plugins of any kind can be wrapped in two rounds or in
one, and places without a plugin do not matter. -/
theorem recorders_only_record {σ β : Type} [Business σ β] (inner : Layered β)
    (tags : List (Option String)) (m : Moment) (s : σ) :
    (∃ business,
      (wrap inner (tags.map (Option.map fun tag => (Recorder.plain tag).plugin)) :
          Operation σ UserError (Layered β)).quiet m s = (.ok business, s) ∧
        ∀ s dealings, deal [business] s dealings =
          (deal [inner] s dealings).map (Dealt.recorded tags.reduceOption)) ∧
    (∀ {n : Type → Type} [Monad n] [LawfulMonad n] {γ : Type} (base : γ)
      (outer within : List (Option (γ → n γ))),
      (wrap base within >>= fun business => wrap business outer) = wrap base (outer ++ within)) ∧
    ∀ {n : Type → Type} [Monad n] {γ : Type} (base : γ) (plugins : List (Option (γ → n γ))),
      wrap base (plugins.filter Option.isSome) = wrap base plugins :=
  ⟨⟨_, Layered.wrap_plain_quiet tags inner, fun s dealings =>
      deal_inside tags.reduceOption [inner] s dealings⟩,
    fun base outer within => wrap_append base outer within,
    fun base plugins => wrap_filter_isSome base plugins⟩

/-- Two recorders with gaps around them, in one round or in two. A row is deleted in a business
that has been bound, where the event fails, and the foreign transaction cannot be bound. -/
theorem recorders_only_record_failures :
    let inner := Layered.core (Sample.office.inScope .shared)
    let tags := [none, some "A", none, some "B"]
    let d := Database.empty.after (Sample.history
      [.call .shared (.edit (.create (Sample.user 1 "ada@old.org"))), .begin 7])
    let dealings := [Dealing.bind 0 (.memory 0 7),
      .ask 1 (.delete ⟨0⟩ (Sample.user 1 "ada@old.org")), .bind 0 .foreign].map (Sample.moment, ·)
    let plugin (tag : String) : Layered (Service (MemoryStore Database) (Outlet Database Unit)) →
      Operation Database UserError (Layered (Service (MemoryStore Database) (Outlet Database Unit)))
        := (Recorder.plain tag).plugin
    (∃ business,
      (wrap inner (tags.map (Option.map plugin))).quiet Sample.moment d = (.ok business, d) ∧
        (deal [business] d dealings).map (·.outcome.signals.filterMap Signal.noteText?) =
          [[], ["A-enter:delete", "B-enter:delete", "B-exit:delete", "A-exit:delete"], []]) ∧
      (wrap inner [some (plugin "B")] >>= fun business => wrap business [some (plugin "A"), none]) =
        wrap inner [some (plugin "A"), none, some (plugin "B")] := by
  intro inner tags d dealings plugin
  obtain ⟨⟨business, hwrap, hdeal⟩, htwo, -⟩ :=
    recorders_only_record (σ := Database) inner tags Sample.moment d
  refine ⟨⟨business, hwrap, ?_⟩, htwo inner [some (plugin "A"), none] [some (plugin "B")]⟩
  rw [hdeal]
  decide

end Accounts

import Accounts.Delegate.Registry
import Accounts.Proofs.Operation

/-!
# Calls of a delegate

Registrations stay under their keys, in the order in which they were made. A call goes from one
subscriber of its key to the next until one fails (`Round`). Where no subscriber touches a part of
the surroundings, a call leaves that part alone, whatever the subscribers register and call in
their turn.
-/

namespace Accounts

structure Registration (τ : Type) where
  domain : String
  action : String
  handler : Handler τ

namespace Delegate

variable {τ : Type}

def registerAll (d : Delegate τ) (regs : List (Registration τ)) : Delegate τ :=
  regs.foldl (fun d r => d.register r.domain r.action r.handler) d

/-- The handlers that were registered for an action, in their order. -/
def registered (regs : List (Registration τ)) (domain action : String) : List (Handler τ) :=
  (regs.filter fun r => (r.domain, r.action) = (domain, action)).map (·.handler)

-- ---------------------------------------------------------------------------
-- Registrations
-- ---------------------------------------------------------------------------

theorem subscribers_register (d : Delegate τ) (domain action : String) (handler : Handler τ)
    (domain' action' : String) :
    (d.register domain action handler).subscribers domain' action' =
      d.subscribers domain' action' ++
        if (domain, action) = (domain', action') then [handler] else [] := by
  rw [subscribers, register, Keyed.find?_insert]
  split
  · rename_i h
    cases h
    rfl
  · rw [List.append_nil, subscribers]

theorem subscribers_register_of_ne (d : Delegate τ) {domain action domain' action' : String}
    (h : (domain, action) ≠ (domain', action')) (handler : Handler τ) :
    (d.register domain action handler).subscribers domain' action' =
      d.subscribers domain' action' := by
  rw [subscribers_register, if_neg h, List.append_nil]

theorem subscribers_registerAll (d : Delegate τ) (regs : List (Registration τ))
    (domain action : String) :
    (d.registerAll regs).subscribers domain action =
      d.subscribers domain action ++ registered regs domain action := by
  induction regs generalizing d with
  | nil => exact (List.append_nil _).symm
  | cons r rest ih =>
    rw [registerAll, List.foldl_cons, ← registerAll, ih, subscribers_register, List.append_assoc]
    by_cases h : (r.domain, r.action) = (domain, action)
    · simp only [registered, List.filter_cons, h, decide_true, if_true, List.map_cons,
        List.singleton_append]
    · simp only [registered, List.filter_cons, h, decide_false, Bool.false_eq_true, if_false,
        List.nil_append]

end Delegate

-- ---------------------------------------------------------------------------
-- Rounds
-- ---------------------------------------------------------------------------

/-- A subscriber that has been run in a call: what it was given and found, and what came of it. -/
structure Visit (τ : Type) where
  handler : Handler τ
  data : Data
  before : Exchange τ
  outcome : Outcome (Exchange τ) Fault Unit

def Visit.notes {τ : Type} (v : Visit τ) : List String :=
  v.outcome.signals.filterMap Signal.noteText?

/-- Each visit finds what the one before it has left, from `x` to `x'`. -/
def Visit.Chain {τ : Type} (x : Exchange τ) : List (Visit τ) → Exchange τ → Prop
  | [], x' => x' = x
  | v :: rest, x' => v.before = x ∧ Chain v.outcome.state rest x'

section
variable {τ : Type} (run : Script τ → Operation (Exchange τ) Fault Unit) (m : Moment)
  (data : Data)

/-- The visits to `handlers`, one after the other, up to the first that fails. -/
structure Round (handlers : List (Handler τ)) (x : Exchange τ) (visits : List (Visit τ))
    (x' : Exchange τ) : Prop where
  order : visits.map (·.handler) <+: handlers
  given : ∀ v ∈ visits, v.data = data
  ran : ∀ v ∈ visits, v.outcome = run (v.handler v.data) m v.before
  chain : Visit.Chain x visits x'
  stops : ∀ v ∈ visits.dropLast, v.outcome.result = .ok ()
  complete : (∀ v ∈ visits, v.outcome.result = .ok ()) → visits.map (·.handler) = handlers

namespace Round

variable {run m data} {handler : Handler τ} {rest : List (Handler τ)} {x x' : Exchange τ}
  {visits : List (Visit τ)}

theorem nil : Round run m data [] x [] x where
  order := List.nil_prefix
  given _ h := nomatch h
  ran _ h := nomatch h
  chain := rfl
  stops _ h := nomatch h
  complete _ := rfl

theorem failed {fault : Fault} (h : (run (handler data) m x).result = .error fault) :
    Round run m data (handler :: rest) x [⟨handler, data, x, run (handler data) m x⟩]
      (run (handler data) m x).state where
  order := by simp
  given := by simp
  ran := by simp
  chain := ⟨rfl, rfl⟩
  stops _ h := nomatch h
  complete hall := by simp [h] at hall

theorem cons (h : (run (handler data) m x).result = .ok ())
    (hr : Round run m data rest (run (handler data) m x).state visits x') :
    Round run m data (handler :: rest) x
      (⟨handler, data, x, run (handler data) m x⟩ :: visits) x' where
  order := by simpa using hr.order
  given := by simpa using hr.given
  ran := by simpa using hr.ran
  chain := ⟨rfl, hr.chain⟩
  stops := by
    cases visits with
    | nil => simp
    | cons v later =>
      rw [List.dropLast_cons_cons]
      exact List.forall_mem_cons.mpr ⟨h, hr.stops⟩
  complete hall := by
    rw [List.map_cons, hr.complete (List.forall_mem_cons.mp hall).2]

theorem mem_handlers {handlers : List (Handler τ)} (h : Round run m data handlers x visits x')
    {v : Visit τ} (hv : v ∈ visits) : v.handler ∈ handlers :=
  h.order.subset (List.mem_map_of_mem hv)

theorem of_nil (h : Round run m data [] x visits x') : visits = [] ∧ x' = x := by
  have hv : visits = [] := List.map_eq_nil_iff.mp (List.prefix_nil.mp h.order)
  subst hv
  exact ⟨rfl, h.chain⟩

/-- The first subscriber is always visited, and the others only if it does not fail. -/
theorem of_cons (h : Round run m data (handler :: rest) x visits x') :
    ∃ later, visits = ⟨handler, data, x, run (handler data) m x⟩ :: later ∧
      ((run (handler data) m x).result = .ok () ∧
          Round run m data rest (run (handler data) m x).state later x' ∨
        ∃ fault, (run (handler data) m x).result = .error fault ∧ later = [] ∧
          x' = (run (handler data) m x).state) := by
  cases visits with
  | nil => exact absurd (h.complete fun _ hv => nomatch hv) (List.cons_ne_nil _ _).symm
  | cons v later =>
    obtain ⟨hhandler, horder⟩ := List.cons_prefix_cons.mp h.order
    obtain ⟨hdata, hgiven⟩ := List.forall_mem_cons.mp h.given
    obtain ⟨houtcome, hran⟩ := List.forall_mem_cons.mp h.ran
    obtain ⟨hbefore, hchain⟩ := h.chain
    have hv : v = ⟨handler, data, x, run (handler data) m x⟩ := by
      obtain ⟨handler', data', before, outcome⟩ := v
      dsimp only at hhandler hdata hbefore houtcome
      subst hhandler hdata hbefore houtcome
      rfl
    subst hv
    refine ⟨later, rfl, ?_⟩
    cases hr : (run (handler data) m x).result with
    | error fault =>
      cases later with
      | nil => exact .inr ⟨fault, rfl, rfl, hchain⟩
      | cons next more =>
        exact nomatch hr.symm.trans (h.stops _ List.mem_cons_self)
    | ok u =>
      refine .inl ⟨rfl, horder, hgiven, hran, hchain, ?_, ?_⟩
      · intro w hw
        cases later with
        | nil => cases hw
        | cons next more => exact h.stops w (List.mem_cons_of_mem _ hw)
      · intro hall
        exact (List.cons.inj (h.complete (List.forall_mem_cons.mpr ⟨hr, hall⟩))).2

end Round

namespace Delegate

section
variable {run m data} {handler : Handler τ} {x : Exchange τ}

theorem runAll_cons_ok (h : (run (handler data) m x).result = .ok ())
    (rest : List (Handler τ)) :
    let o := runAll data run rest m (run (handler data) m x).state
    runAll data run (handler :: rest) m x =
      ⟨o.result, (run (handler data) m x).signals ++ o.signals, o.state⟩ := by
  rw [runAll]
  exact Operation.bind_ok (by rw [Operation.mapError, h]; rfl)

theorem runAll_cons_error {fault : Fault} (h : (run (handler data) m x).result = .error fault)
    (rest : List (Handler τ)) :
    runAll data run (handler :: rest) m x =
      ⟨.error (.handler data.domain data.action fault), (run (handler data) m x).signals,
        (run (handler data) m x).state⟩ := by
  rw [runAll]
  exact Operation.bind_error (by rw [Operation.mapError, h]; rfl)

end

/-- What is left of a round is left of the call: its result is that of the last visit. -/
theorem runAll_round (handlers : List (Handler τ)) (x : Exchange τ) :
    let o := runAll data run handlers m x
    ∃ visits, Round run m data handlers x visits o.state ∧
      (o.result = .ok () ↔ ∀ v ∈ visits, v.outcome.result = .ok ()) ∧
      (∀ v ∈ visits, ∀ fault, v.outcome.result = .error fault →
        o.result = .error (.handler data.domain data.action fault)) ∧
      o.signals = visits.flatMap (·.outcome.signals) := by
  induction handlers generalizing x with
  | nil => exact ⟨[], .nil, by simp [runAll], by simp, rfl⟩
  | cons handler rest ih =>
    dsimp only
    cases h : (run (handler data) m x).result with
    | error fault =>
      rw [runAll_cons_error h]
      exact ⟨_, .failed h, by simp [h], by simp [h], by simp⟩
    | ok u =>
      obtain ⟨visits, hround, hok, hfailed, hsignals⟩ := ih (run (handler data) m x).state
      rw [runAll_cons_ok h]
      refine ⟨_, .cons h hround, ?_, ?_, ?_⟩
      · rw [hok, List.forall_mem_cons]
        exact (and_iff_right (by rw [h])).symm
      · rw [List.forall_mem_cons]
        exact ⟨fun fault hf => (nomatch h.symm.trans hf), hfailed⟩
      · rw [List.flatMap_cons, hsignals]

theorem callWithin_run (nesting : Nat) (x : Exchange τ) :
    let handlers := x.delegate.subscribers data.domain data.action
    let o := runAll data (Script.run (callWithin nesting)) handlers m x
    callWithin (nesting + 1) data m x =
      ⟨o.result, .debug "delegate call" [("domain", data.domain), ("action", data.action),
        ("handlers", toString handlers.length)] :: o.signals, o.state⟩ := rfl

/-- A call is a round among the subscribers that are registered when it starts, however deep calls
may be nested in it. -/
theorem callWithin_round (nesting : Nat) (x : Exchange τ) :
    let handlers := x.delegate.subscribers data.domain data.action
    let o := callWithin (nesting + 1) data m x
    ∃ visits, Round (Script.run (callWithin nesting)) m data handlers x visits o.state ∧
      (o.result = .ok () ↔ ∀ v ∈ visits, v.outcome.result = .ok ()) ∧
      (∀ v ∈ visits, ∀ fault, v.outcome.result = .error fault →
        o.result = .error (.handler data.domain data.action fault)) ∧
      o.signals = .debug "delegate call" [("domain", data.domain), ("action", data.action),
        ("handlers", toString handlers.length)] :: visits.flatMap (·.outcome.signals) := by
  intro handlers o
  obtain ⟨visits, hround, hok, hfailed, hsignals⟩ :=
    runAll_round (Script.run (callWithin nesting)) m data handlers x
  exact ⟨visits, hround, hok, hfailed, congrArg (_ :: ·) hsignals⟩

theorem call_round (x : Exchange τ) :
    let o := call data m x
    ∃ visits, Round (Script.run (callWithin (maxNesting - 1))) m data
        (x.delegate.subscribers data.domain data.action) x visits o.state ∧
      (o.result = .ok () ↔ ∀ v ∈ visits, v.outcome.result = .ok ()) ∧
      (∀ v ∈ visits, ∀ fault, v.outcome.result = .error fault →
        o.result = .error (.handler data.domain data.action fault)) ∧
      (call data).notes m x = visits.flatMap (·.notes) := by
  intro o
  obtain ⟨visits, hround, hok, hfailed, hsignals⟩ :=
    callWithin_round m data (maxNesting - 1) x
  refine ⟨visits, hround, hok, hfailed, ?_⟩
  have hcalled : (call data m x).signals = _ := hsignals
  rw [Operation.notes, hcalled, List.filterMap_cons, List.filterMap_flatMap]
  rfl

end Delegate

end

-- ---------------------------------------------------------------------------
-- What no subscriber touches
-- ---------------------------------------------------------------------------

section
variable {τ α : Type} (part : τ → α)

/-- No step of the script changes the part, nor one of a script that it registers. -/
def Script.Spares : Script τ → Prop
  | .finish => True
  | .fail _ => True
  | .act step next => ∀ s, part (step s).2 = part s ∧ (next s).Spares
  | .register _ _ handler next => (∀ data, (handler data).Spares) ∧ next.Spares
  | .call _ next => ∀ result, (next result).Spares

def Delegate.Spares (d : Delegate τ) : Prop :=
  ∀ domain action, ∀ handler ∈ d.subscribers domain action, ∀ data, (handler data).Spares part

/-- The part is as it was, and nobody has been registered who could change it. -/
structure Exchange.Spared (x x' : Exchange τ) : Prop where
  delegate : x'.delegate.Spares part
  surroundings : part x'.surroundings = part x.surroundings

/-- An operation that spares the part if all subscribers do. -/
def Operation.Spares {ε β : Type} (op : Operation (Exchange τ) ε β) : Prop :=
  ∀ (m : Moment) (x : Exchange τ), x.delegate.Spares part → x.Spared part (op m x).state

variable {part}

namespace Delegate.Spares

variable {d : Delegate τ} {regs : List (Registration τ)}

theorem register (h : d.Spares part) (domain action : String) {handler : Handler τ}
    (hh : ∀ data, (handler data).Spares part) :
    (d.register domain action handler).Spares part := by
  intro domain' action' other ho
  rw [subscribers_register, List.mem_append] at ho
  obtain ho | ho := ho
  · exact h domain' action' other ho
  · split at ho
    · rwa [List.mem_singleton.mp ho]
    · cases ho

theorem registerAll (h : d.Spares part)
    (hr : ∀ r ∈ regs, ∀ data, (r.handler data).Spares part) :
    (d.registerAll regs).Spares part := by
  induction regs generalizing d with
  | nil => exact h
  | cons r rest ih =>
    obtain ⟨hfirst, hrest⟩ := List.forall_mem_cons.mp hr
    exact ih (h.register r.domain r.action hfirst) hrest

theorem empty : (Delegate.empty : Delegate τ).Spares part := by
  intro domain action handler hh
  cases hh

end Delegate.Spares

theorem Exchange.Spared.refl {x : Exchange τ} (h : x.delegate.Spares part) : x.Spared part x :=
  ⟨h, rfl⟩

theorem Exchange.Spared.trans {x x' x'' : Exchange τ} (h : x.Spared part x')
    (h' : x'.Spared part x'') : x.Spared part x'' :=
  ⟨h'.delegate, h'.surroundings.trans h.surroundings⟩

theorem Script.run_spares {call : Data → Operation (Exchange τ) DelegateError Unit}
    (hc : ∀ data, (call data).Spares part) {script : Script τ} (hs : script.Spares part) :
    (script.run call).Spares part := by
  intro m x hx
  induction script generalizing x with
  | finish => exact .refl hx
  | fail fault => exact .refl hx
  | act step next ih =>
    have hstep : x.Spared part { x with surroundings := (step x.surroundings).2 } :=
      ⟨hx, (hs x.surroundings).1⟩
    exact hstep.trans (ih _ (hs _).2 _ hx)
  | register domain action handler next _ ih =>
    obtain ⟨hhandler, hnext⟩ := hs
    have hstep : x.Spared part { x with delegate := x.delegate.register domain action handler } :=
      ⟨hx.register domain action hhandler, rfl⟩
    exact hstep.trans (ih hnext _ hstep.delegate)
  | call data next ih =>
    have hcalled := hc data m x hx
    exact hcalled.trans (ih _ (hs _) _ hcalled.delegate)

namespace Delegate

theorem runAll_spares {run : Script τ → Operation (Exchange τ) Fault Unit} {data : Data}
    {handlers : List (Handler τ)}
    (hr : ∀ handler ∈ handlers, (run (handler data)).Spares part) :
    (runAll data run handlers).Spares part := by
  intro m x hx
  induction handlers generalizing x with
  | nil => exact .refl hx
  | cons handler rest ih =>
    obtain ⟨hfirst, hrest⟩ := List.forall_mem_cons.mp hr
    have hran := hfirst m x hx
    cases h : (run (handler data) m x).result with
    | error fault =>
      rw [runAll_cons_error h]
      exact hran
    | ok u =>
      rw [runAll_cons_ok h]
      exact hran.trans (ih hrest _ hran.delegate)

theorem callWithin_spares (nesting : Nat) (data : Data) :
    (callWithin (τ := τ) nesting data).Spares part := by
  induction nesting generalizing data with
  | zero => exact fun _ _ hx => .refl hx
  | succ nesting ih =>
    intro m x hx
    have hrun : ∀ handler ∈ x.delegate.subscribers data.domain data.action,
        (Script.run (callWithin nesting) (handler data)).Spares part := fun handler hh =>
      Script.run_spares ih (hx _ _ handler hh data)
    exact runAll_spares hrun m x hx

theorem call_spares (data : Data) : (call (τ := τ) data).Spares part :=
  callWithin_spares maxNesting data

end Delegate

end

end Accounts

import Accounts.Proofs.Alike
import Accounts.Proofs.Delegate.Calls
import Mathlib.Data.List.Forall2

/-!
# Calls that depend on nothing else

A call depends on the subscribers of its own pair, as they are when it starts, and on those of the
pairs that are called on the way. Where nobody calls a pair, it does not count who is registered
for it, whether before the call or by a subscriber that runs.
-/

namespace Accounts

section
variable {τ : Type} (reached : String × String → Prop) (same : τ → τ → Prop)

/-- Two scripts that take the same steps in states that are the same to them, but for the
subscribers that they register for pairs that are not reached. -/
inductive Script.Alike : Script τ → Script τ → Prop
  | finish : Alike .finish .finish
  | fail (fault : Fault) : Alike (.fail fault) (.fail fault)
  | act {step step' : τ → List Signal × τ} {next next' : τ → Script τ}
    (hs : ∀ t t', same t t' → (step t).1 = (step' t').1 ∧ same (step t).2 (step' t').2)
    (hn : ∀ t t', same t t' → Alike (next t) (next' t')) :
    Alike (.act step next) (.act step' next')
  | register {domain action : String} {handler handler' : Handler τ} {next next' : Script τ}
    (hh : ∀ data, Alike (handler data) (handler' data)) (hn : Alike next next') :
    Alike (.register domain action handler next) (.register domain action handler' next')
  | registerLeft {domain action : String} {handler : Handler τ} {next script : Script τ}
    (hr : ¬ reached (domain, action)) (hn : Alike next script) :
    Alike (.register domain action handler next) script
  | registerRight {domain action : String} {handler : Handler τ} {script next : Script τ}
    (hr : ¬ reached (domain, action)) (hn : Alike script next) :
    Alike script (.register domain action handler next)
  | call {data : Data} {next next' : Except DelegateError Unit → Script τ}
    (hn : ∀ result, Alike (next result) (next' result)) :
    Alike (.call data next) (.call data next')

/-- Whatever they are given. -/
def Handler.Alike (handler handler' : Handler τ) : Prop :=
  ∀ data, (handler data).Alike reached same (handler' data)

/-- The same subscribers, as far as these are reached. -/
def Delegate.Alike (d d' : Delegate τ) : Prop :=
  ∀ domain action, reached (domain, action) →
    List.Forall₂ (Handler.Alike reached same) (d.subscribers domain action)
      (d'.subscribers domain action)

structure Exchange.Alike (x x' : Exchange τ) : Prop where
  delegate : x.delegate.Alike reached same x'.delegate
  surroundings : same x.surroundings x'.surroundings

end

section
variable {τ : Type} (call : Data → Operation (Exchange τ) DelegateError Unit) (m : Moment)
  (allowed : Data → Exchange τ → Prop)

/-- Every call that the script makes on its way is allowed where it is made. -/
def Script.CallsOnly : Script τ → Exchange τ → Prop
  | .finish, _ => True
  | .fail _, _ => True
  | .act step next, x =>
    let surroundings := (step x.surroundings).2
    (next surroundings).CallsOnly { x with surroundings := surroundings }
  | .register domain action handler next, x =>
    next.CallsOnly { x with delegate := x.delegate.register domain action handler }
  | .call data next, x =>
    allowed data x ∧ (next (call data m x).result).CallsOnly (call data m x).state

end

/-- The call and all that are made in it are for pairs that are reached. One that is nested too
deep comes to no subscriber. -/
def Delegate.ReachesOnly {τ : Type} (reached : String × String → Prop) (m : Moment) :
    Nat → Data → Exchange τ → Prop
  | 0, _, _ => True
  | nesting + 1, data, x =>
    reached (data.domain, data.action) ∧
      ∀ visits x', Round (Script.run (callWithin nesting)) m data
          (x.delegate.subscribers data.domain data.action) x visits x' →
        ∀ v ∈ visits,
          (v.handler v.data).CallsOnly (callWithin nesting) m (ReachesOnly reached m nesting)
            v.before

-- ---------------------------------------------------------------------------
-- Subscribers
-- ---------------------------------------------------------------------------

section
variable {τ : Type} {reached : String × String → Prop} {same : τ → τ → Prop}

/-- A script that goes by what is the same in both states takes the same steps as itself. -/
theorem Script.Alike.refl (script : Script τ) : script.Alike reached Eq script := by
  induction script with
  | finish => exact .finish
  | fail fault => exact .fail fault
  | act step next ih =>
    refine .act ?_ ?_
    · rintro t _ rfl
      exact ⟨rfl, rfl⟩
    · rintro t _ rfl
      exact ih t
  | register domain action handler next ihh ihn => exact .register ihh ihn
  | call data next ih => exact .call ih

namespace Delegate.Alike

variable {d d' : Delegate τ} {domain action : String} {handler handler' : Handler τ}

theorem empty : (Delegate.empty : Delegate τ).Alike reached same Delegate.empty :=
  fun _ _ _ => .nil

theorem register (h : d.Alike reached same d') (hh : Handler.Alike reached same handler handler') :
    (d.register domain action handler).Alike reached same
      (d'.register domain action handler') := by
  intro domain' action' hr
  rw [subscribers_register, subscribers_register]
  refine List.rel_append (h domain' action' hr) ?_
  split
  · exact .cons hh .nil
  · exact .nil

theorem registerLeft (h : d.Alike reached same d') (hn : ¬ reached (domain, action)) :
    (d.register domain action handler).Alike reached same d' := by
  intro domain' action' hr
  have hne : (domain, action) ≠ (domain', action') := fun he => hn (he ▸ hr)
  rw [subscribers_register_of_ne _ hne]
  exact h domain' action' hr

theorem registerRight (h : d.Alike reached same d') (hn : ¬ reached (domain, action)) :
    d.Alike reached same (d'.register domain action handler) := by
  intro domain' action' hr
  have hne : (domain, action) ≠ (domain', action') := fun he => hn (he ▸ hr)
  rw [subscribers_register_of_ne _ hne]
  exact h domain' action' hr

end Delegate.Alike

theorem Script.callsOnly_of_forall {call : Data → Operation (Exchange τ) DelegateError Unit}
    {m : Moment} {allowed : Data → Exchange τ → Prop} (h : ∀ data x, allowed data x)
    (script : Script τ) (x : Exchange τ) : script.CallsOnly call m allowed x := by
  induction script generalizing x with
  | finish => trivial
  | fail fault => trivial
  | act step next ih => exact ih _ _
  | register domain action handler next _ ih => exact ih _
  | call data next ih => exact ⟨h data x, ih _ _⟩

theorem Delegate.reachesOnly_of_forall (h : ∀ key, reached key) (m : Moment) (nesting : Nat)
    (data : Data) (x : Exchange τ) : ReachesOnly reached m nesting data x := by
  induction nesting generalizing data x with
  | zero => trivial
  | succ nesting ih => exact ⟨h _, fun _ _ _ v _ => Script.callsOnly_of_forall ih _ v.before⟩

-- ---------------------------------------------------------------------------
-- Runs
-- ---------------------------------------------------------------------------

namespace Script

variable (call : Data → Operation (Exchange τ) DelegateError Unit) (m : Moment) (x : Exchange τ)

theorem run_act (step : τ → List Signal × τ) (next : τ → Script τ) :
    let surroundings := (step x.surroundings).2
    let rest := (next surroundings).run call m { x with surroundings := surroundings }
    (act step next).run call m x =
      ⟨rest.result, (step x.surroundings).1 ++ rest.signals, rest.state⟩ := rfl

theorem run_call (data : Data) (next : Except DelegateError Unit → Script τ) :
    let o := call data m x
    let rest := (next o.result).run call m o.state
    (Script.call data next).run call m x =
      ⟨rest.result, o.signals ++ rest.signals, rest.state⟩ := rfl

end Script

section
variable {call : Data → Operation (Exchange τ) DelegateError Unit} {m m' : Moment}
  {allowed : Data → Exchange τ → Prop}
  (hc : ∀ data x x', allowed data x → x.Alike reached same x' →
    (call data m x).Alike (Exchange.Alike reached same) Eq (call data m' x'))
include hc

theorem Script.run_alike {script script' : Script τ} (h : script.Alike reached same script')
    {x x' : Exchange τ} (hx : x.Alike reached same x') (ho : script.CallsOnly call m allowed x) :
    (script.run call m x).Alike (Exchange.Alike reached same) Eq (script'.run call m' x') := by
  induction h generalizing x x' with
  | finish => exact .pure hx rfl
  | fail fault => exact .fail hx fault
  | @act step step' next next' hs hn ih =>
    obtain ⟨hsignals, hsame⟩ := hs _ _ hx.surroundings
    have hx' : Exchange.Alike reached same { x with surroundings := (step x.surroundings).2 }
        { x' with surroundings := (step' x'.surroundings).2 } := ⟨hx.delegate, hsame⟩
    rw [run_act, run_act]
    exact (ih _ _ hsame hx' ho).prepend hsignals
  | register hh hn _ ih => exact ih ⟨hx.delegate.register hh, hx.surroundings⟩ ho
  | registerLeft hr hn ih => exact ih ⟨hx.delegate.registerLeft hr, hx.surroundings⟩ ho
  | registerRight hr hn ih => exact ih ⟨hx.delegate.registerRight hr, hx.surroundings⟩ ho
  | @call data next next' hn ih =>
    obtain ⟨hallowed, ho⟩ := ho
    have hcalled := hc data x x' hallowed hx
    rw [run_call, run_call, ← SameResult.eq_iff.mp hcalled.result]
    exact (ih _ hcalled.state ho).prepend hcalled.signals

theorem Delegate.runAll_alike {data : Data} {handlers handlers' : List (Handler τ)}
    (hh : List.Forall₂ (Handler.Alike reached same) handlers handlers') {x x' y : Exchange τ}
    {visits : List (Visit τ)} (hx : x.Alike reached same x')
    (hround : Round (Script.run call) m data handlers x visits y)
    (ho : ∀ v ∈ visits, (v.handler v.data).CallsOnly call m allowed v.before) :
    let o' := runAll data (Script.run call) handlers' m' x'
    (runAll data (Script.run call) handlers m x).Alike (Exchange.Alike reached same) Eq o' ∧
      ∃ visits', Round (Script.run call) m' data handlers' x' visits' o'.state ∧
        visits.map (·.outcome.result) = visits'.map (·.outcome.result) := by
  intro o'
  induction hh generalizing x x' visits with
  | nil =>
    obtain ⟨rfl, -⟩ := hround.of_nil
    exact ⟨.pure hx rfl, [], .nil, rfl⟩
  | @cons handler handler' rest rest' hhandler _ ih =>
    obtain ⟨later, rfl, hlater⟩ := hround.of_cons
    obtain ⟨hfirst, ho⟩ := List.forall_mem_cons.mp ho
    have hran := Script.run_alike hc (hhandler data) hx hfirst
    have hresult := SameResult.eq_iff.mp hran.result
    obtain ⟨hok, hround⟩ | ⟨fault, hf, rfl, -⟩ := hlater
    · have hok' := hresult.symm.trans hok
      obtain ⟨hrest, visits', hround', hvisits⟩ := ih hran.state hround ho
      have ho' : o' = _ := runAll_cons_ok hok' rest'
      rw [ho', runAll_cons_ok hok]
      refine ⟨hrest.prepend hran.signals, _, .cons hok' hround', ?_⟩
      rw [List.map_cons, List.map_cons, hresult, hvisits]
    · have hf' := hresult.symm.trans hf
      have ho' : o' = _ := runAll_cons_error hf' rest'
      rw [ho', runAll_cons_error hf]
      exact ⟨⟨.error _, hran.signals, hran.state⟩, _, .failed hf', congrArg (· :: []) hresult⟩

end

namespace Delegate

variable {m : Moment} {data : Data} {x x' : Exchange τ}

/-- A round of subscribers who are alike, in which only pairs are called that are reached. -/
theorem callWithin_alike_step {nesting : Nat} (m' : Moment)
    (hc : ∀ data x x', ReachesOnly reached m nesting data x → x.Alike reached same x' →
      (callWithin nesting data m x).Alike (Exchange.Alike reached same) Eq
        (callWithin nesting data m' x'))
    (hh : List.Forall₂ (Handler.Alike reached same)
      (x.delegate.subscribers data.domain data.action)
      (x'.delegate.subscribers data.domain data.action))
    (hx : x.Alike reached same x') {visits : List (Visit τ)} {y : Exchange τ}
    (hround : Round (Script.run (callWithin nesting)) m data
      (x.delegate.subscribers data.domain data.action) x visits y)
    (ho : ∀ v ∈ visits, (v.handler v.data).CallsOnly (callWithin nesting) m
      (ReachesOnly reached m nesting) v.before) :
    let o' := callWithin (nesting + 1) data m' x'
    (callWithin (nesting + 1) data m x).Alike (Exchange.Alike reached same) Eq o' ∧
      ∃ visits', Round (Script.run (callWithin nesting)) m' data
          (x'.delegate.subscribers data.domain data.action) x' visits' o'.state ∧
        visits.map (·.outcome.result) = visits'.map (·.outcome.result) := by
  obtain ⟨halike, hvisits⟩ := runAll_alike hc hh hx hround ho
  refine ⟨?_, hvisits⟩
  rw [callWithin_run, callWithin_run, hh.length_eq]
  exact ⟨halike.result, congrArg (_ :: ·) halike.signals, halike.state⟩

theorem callWithin_alike (nesting : Nat) (m' : Moment) (hr : ReachesOnly reached m nesting data x)
    (hx : x.Alike reached same x') :
    (callWithin nesting data m x).Alike (Exchange.Alike reached same) Eq
      (callWithin nesting data m' x') := by
  induction nesting generalizing data x x' with
  | zero => exact .fail hx _
  | succ nesting ih =>
    obtain ⟨hreached, ho⟩ := hr
    obtain ⟨visits, hround, -⟩ := callWithin_round m data nesting x
    exact (callWithin_alike_step m' (fun _ _ _ => ih) (hx.delegate _ _ hreached) hx hround
      (ho _ _ hround)).1

end Delegate

end

end Accounts

import Accounts.Proofs.Delegate.Alike
import Accounts.Proofs.Store.History

/-!
# Calls are told by registrations

After any registrations a call runs the subscribers of its pair in their order, each with the same
data, until one fails. What else is registered counts only if a subscriber that runs makes a call
of its own.
-/

namespace Accounts

namespace Delegate

variable {τ : Type} {reached : String × String → Prop} {regs regs' : List (Registration τ)}

theorem subscribers_of_empty (regs : List (Registration τ)) (domain action : String) :
    (empty.registerAll regs).subscribers domain action = registered regs domain action :=
  subscribers_registerAll empty regs domain action

theorem Alike.of_registered {same : τ → τ → Prop}
    (h : ∀ domain action, reached (domain, action) →
      List.Forall₂ (Handler.Alike reached same) (registered regs domain action)
        (registered regs' domain action)) :
    (Delegate.empty.registerAll regs).Alike reached same (Delegate.empty.registerAll regs') := by
  intro domain action hr
  rw [subscribers_of_empty, subscribers_of_empty]
  exact h domain action hr

/-- After the registrations `regs` a call runs the subscribers of its pair, in the order of their
registration and up to the first that fails, each with the data of the call; it fails if one does,
with the error of that one. After other registrations, and with subscribers that register others,
the same is run with the same results, as long as the pair and all that is called on the way have
the same subscribers: it does not count who is registered for a pair that is not called, be it
before the call or while it runs. -/
theorem call_told_by_registrations (regs : List (Registration τ)) (data : Data) (m : Moment)
    (t : τ) (nesting : Nat) :
    let run := Script.run (callWithin nesting)
    let x : Exchange τ := ⟨empty.registerAll regs, t⟩
    let o := callWithin (nesting + 1) data m x
    ∃ visits,
      Round run m data (registered regs data.domain data.action) x visits o.state ∧
      (o.result = .ok () ↔ ∀ v ∈ visits, v.outcome.result = .ok ()) ∧
      (∀ v ∈ visits, ∀ fault, v.outcome.result = .error fault →
        o.result = .error (.handler data.domain data.action fault)) ∧
      ∀ (reached : String × String → Prop) (regs' : List (Registration τ)),
        (∀ v ∈ visits, (v.handler v.data).CallsOnly (callWithin nesting) m
          (ReachesOnly reached m nesting) v.before) →
        (∀ domain action,
          (domain, action) = (data.domain, data.action) ∨ reached (domain, action) →
          List.Forall₂ (Handler.Alike reached Eq) (registered regs domain action)
            (registered regs' domain action)) →
        let x' : Exchange τ := ⟨empty.registerAll regs', t⟩
        let o' := callWithin (nesting + 1) data m x'
        ∃ visits',
          Round run m data (registered regs' data.domain data.action) x' visits' o'.state ∧
          visits.map (·.outcome.result) = visits'.map (·.outcome.result) ∧
          o.result = o'.result ∧ o.signals = o'.signals ∧
          o.state.surroundings = o'.state.surroundings := by
  intro run x o
  obtain ⟨visits, hround, hok, hfailed, -⟩ := callWithin_round m data nesting x
  have hregs : ∀ regs : List (Registration τ), (empty.registerAll regs).subscribers data.domain
      data.action = registered regs data.domain data.action := fun regs =>
    subscribers_of_empty regs data.domain data.action
  refine ⟨visits, hregs regs ▸ hround, hok, hfailed, ?_⟩
  intro reached regs' hcalls hsame x' o'
  have hx : x.Alike reached Eq x' :=
    ⟨.of_registered fun domain action hr => hsame domain action (.inr hr), rfl⟩
  have hh := hsame data.domain data.action (.inl rfl)
  rw [← hregs, ← hregs] at hh
  obtain ⟨halike, visits', hround', hvisits⟩ := callWithin_alike_step m
    (fun _ _ _ => callWithin_alike nesting m) hh hx hround hcalls
  exact ⟨visits', hregs regs' ▸ hround', hvisits, SameResult.eq_iff.mp halike.result,
    halike.signals, halike.state.surroundings⟩

-- ---------------------------------------------------------------------------
-- Small registrations
-- ---------------------------------------------------------------------------

end Delegate

namespace Sample

def order (action : String) (handler : Handler Unit) : Registration Unit :=
  ⟨"order", action, handler⟩

def placed : Data :=
  ⟨"order", "placed", .null⟩

/-- Makes a call for another pair and fails if that does. -/
def asking : Script Unit :=
  .call ⟨"stock", "taken", .null⟩ fun
    | .ok _ => .finish
    | .error e => .fail e.toFault

def down : Handler Unit := fun _ =>
  .fail ⟨"down", []⟩

/-- The subscribers after registrations, who have no surroundings. -/
def exchange (regs : List (Registration Unit)) : Exchange Unit :=
  ⟨Delegate.empty.registerAll regs, ()⟩

end Sample

namespace Delegate

open Sample

/-- The first subscriber registers another one for the pair that has been called, which is not
called any more, and calls another pair. Without this registration, and with one for a pair that
looks alike, nothing can be told apart. -/
theorem call_told_by_reached_pairs :
    let second := order "placed" fun _ => .note "second" .finish
    let stock : Registration Unit := ⟨"stock", "taken", fun _ => .note "stock" .finish⟩
    let regs := [order "placed" fun _ => .register "order" "placed" down asking, second, stock]
    let regs' := [stock, order "Placed" down, order "placed" fun _ => asking, second]
    let o := call placed moment (exchange regs)
    let o' := call placed moment (exchange regs')
    o.result = o'.result ∧ o.signals = o'.signals := by
  intro second stock regs regs' o o'
  obtain ⟨visits, hround, -, -, hother⟩ :=
    call_told_by_registrations regs placed moment () (maxNesting - 1)
  have hcalls : ∀ v ∈ visits, (v.handler v.data).CallsOnly (callWithin (maxNesting - 1)) moment
      (ReachesOnly (· = ("stock", "taken")) moment (maxNesting - 1)) v.before := by
    obtain ⟨later, rfl, hlater⟩ := hround.of_cons
    refine List.forall_mem_cons.mpr ⟨⟨⟨rfl, ?_⟩, ?_⟩, ?_⟩
    · intro nested y hnested v hv
      rw [List.mem_singleton.mp (hnested.mem_handlers hv)]
      trivial
    · dsimp only
      split <;> trivial
    · intro v hv
      obtain ⟨-, hrest⟩ | ⟨-, -, rfl, -⟩ := hlater
      · rw [List.mem_singleton.mp (hrest.mem_handlers hv)]
        trivial
      · cases hv
  have hsame : ∀ domain action,
      (domain, action) = (placed.domain, placed.action) ∨ (domain, action) = ("stock", "taken") →
      List.Forall₂ (Handler.Alike (· = ("stock", "taken")) Eq) (registered regs domain action)
        (registered regs' domain action) := by
    rintro domain action (h | h)
    · cases h
      refine .cons ?_ (.cons (fun _ => .refl _) .nil)
      exact fun _ => .registerLeft (by decide) (.refl _)
    · cases h
      exact .cons (fun _ => .refl _) .nil
  obtain ⟨-, -, -, hresult, hsignals, -⟩ := hother _ regs' hcalls hsame
  exact ⟨hresult, hsignals⟩

/-- Whoever is registered for a pair counts in a call for another pair, if a subscriber that runs
calls the first one. It does not matter whether the registration was made before the call or by a
subscriber that has run. -/
theorem call_changed_by_other_pair :
    let asks := order "placed" fun _ => asking
    let after := order "placed" fun _ => .note "after" .finish
    let idle := order "placed" fun _ => .finish
    let registering := order "placed" fun _ => .register "stock" "taken" down .finish
    let result regs := (call placed moment (exchange regs)).result
    let notes regs := (call placed).notes moment (exchange regs)
    let failure : DelegateError :=
      .handler "order" "placed" (DelegateError.handler "stock" "taken" ⟨"down", []⟩).toFault
    registered [asks, after] "order" "placed" =
        registered [asks, after, ⟨"stock", "taken", down⟩] "order" "placed" ∧
      result [asks, after] = .ok () ∧ notes [asks, after] = ["after"] ∧
      result [asks, after, ⟨"stock", "taken", down⟩] = .error failure ∧
      notes [asks, after, ⟨"stock", "taken", down⟩] = [] ∧
      result [idle, asks, after] = .ok () ∧ result [registering, asks, after] = .error failure := by
  refine ⟨rfl, ?_⟩
  decide

end Delegate

end Accounts

import Accounts.Delegate.Script
import Accounts.Keyed
import Accounts.Operation

/-!
# Delegates

A delegate keeps the subscribers of every action of every domain. A call runs those that are
registered when it starts, in the order of their registration, until one fails.
-/

namespace Accounts

structure Delegate (τ : Type) where
  handlers : Keyed (String × String) (List (Handler τ))

/-- A delegate and the state that its subscribers work on. -/
structure Exchange (τ : Type) where
  delegate : Delegate τ
  surroundings : τ

namespace Delegate

variable {τ : Type}

def empty : Delegate τ :=
  ⟨.empty⟩

instance : Inhabited (Delegate τ) := ⟨empty⟩

/-- The subscribers of an action, the oldest first. -/
def subscribers (d : Delegate τ) (domain action : String) : List (Handler τ) :=
  (d.handlers.find? (domain, action)).getD []

def register (d : Delegate τ) (domain action : String) (handler : Handler τ) : Delegate τ :=
  ⟨d.handlers.insert (domain, action) (d.subscribers domain action ++ [handler])⟩

/-- How deep calls may be nested. -/
def maxNesting : Nat := 256

end Delegate

namespace Script

variable {τ : Type}

/-- Takes the steps of a script, given how to make calls. -/
def run (call : Data → Operation (Exchange τ) DelegateError Unit) :
    Script τ → Operation (Exchange τ) Fault Unit
  | .finish => return ()
  | .fail fault => Operation.fail fault
  | .act step next => fun m s =>
    let (signals, surroundings) := step s.surroundings
    let rest := (next surroundings).run call m { s with surroundings := surroundings }
    { rest with signals := signals ++ rest.signals }
  | .register domain action handler next => fun m s =>
    next.run call m { s with delegate := s.delegate.register domain action handler }
  | .call data next => fun m s =>
    let o := call data m s
    let rest := (next o.result).run call m o.state
    { rest with signals := o.signals ++ rest.signals }

end Script

namespace Delegate

variable {τ : Type}

/-- Runs subscribers until one fails. -/
def runAll (data : Data) (run : Script τ → Operation (Exchange τ) Fault Unit) :
    List (Handler τ) → Operation (Exchange τ) DelegateError Unit
  | [] => return ()
  | handler :: rest => do
    (run (handler data)).mapError (.handler data.domain data.action)
    runAll data run rest

/-- Makes a call in which calls may be nested this deep. -/
def callWithin : Nat → Data → Operation (Exchange τ) DelegateError Unit
  | 0, data =>
    Operation.fail (.handler data.domain data.action (.ofText "calls are nested too deep"))
  | nesting + 1, data => do
    let handlers := (← Operation.read).delegate.subscribers data.domain data.action
    Operation.emit (.debug "delegate call"
      [("domain", data.domain), ("action", data.action), ("handlers", toString handlers.length)])
    runAll data (Script.run (callWithin nesting)) handlers

def call (data : Data) : Operation (Exchange τ) DelegateError Unit :=
  callWithin maxNesting data

end Delegate

end Accounts

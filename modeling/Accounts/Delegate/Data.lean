import Accounts.Fault
import Accounts.Json.Fault

/-!
# Calls between domains

A call names a domain and one of its actions and carries parameters. It fails if a subscriber
fails or finds the parameters unfit.
-/

namespace Accounts

structure Data where
  domain : String
  action : String
  params : Json
  deriving Repr

namespace Data

/-- Whether two calls say the same. -/
def beq (a b : Data) : Bool :=
  a.domain == b.domain && a.action == b.action && a.params == b.params

instance : BEq Data := ⟨beq⟩

end Data

inductive DelegateError
  | handler (domain action : String) (source : Fault)
  | params (fault : Json.ShapeFault)
  deriving DecidableEq, Repr

namespace DelegateError

def message : DelegateError → String
  | .handler domain action source =>
    "action: " ++ action ++ " for domain: " ++ domain ++ " failed: " ++ source.text
  | .params fault => "action params: " ++ fault.message

def causes : DelegateError → List String
  | .handler _ _ source => source.chain
  | .params fault => [fault.message]

/-- The error, as a subscriber passes it on. -/
def toFault (e : DelegateError) : Fault :=
  ⟨e.message, e.causes⟩

end DelegateError

end Accounts

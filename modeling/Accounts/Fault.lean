/-!
# Foreign errors

Of an error that comes from outside only its text and the texts of its causes are known,
the nearest cause first.
-/

namespace Accounts

structure Fault where
  text : String
  causes : List String
  deriving DecidableEq, Repr

namespace Fault

/-- An error without a cause. -/
def ofText (text : String) : Fault :=
  ⟨text, []⟩

/-- An error that `cause` brought about. -/
def wrap (text : String) (cause : Fault) : Fault :=
  ⟨text, cause.text :: cause.causes⟩

/-- The fault and its causes, as the causes of an error that it is the source of. -/
def chain (f : Fault) : List String :=
  f.text :: f.causes

end Fault

end Accounts

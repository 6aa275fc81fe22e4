/-!
# Roles

Role names are exact; administrators order before plain users.
-/

namespace Accounts

inductive Role
  | admin
  | user
  deriving DecidableEq, Repr

/-- A name that no role has. -/
structure RoleError where
  name : String
  deriving DecidableEq, Repr

def RoleError.message (e : RoleError) : String :=
  "invalid role: '" ++ e.name ++ "'"

namespace Role

def name : Role → String
  | .admin => "ADMIN"
  | .user => "USER"

def parse (s : String) : Except RoleError Role :=
  if s = "ADMIN" then .ok .admin
  else if s = "USER" then .ok .user
  else .error ⟨s⟩

/-- Stops at the first unknown name. -/
def parseMany : List String → Except RoleError (List Role)
  | [] => .ok []
  | s :: rest => do return (← parse s) :: (← parseMany rest)

/-- Administrators come first. -/
def rank : Role → Nat
  | .admin => 0
  | .user => 1

theorem parse_name (r : Role) : parse r.name = .ok r := by
  cases r <;> simp [parse, name]

end Role

end Accounts

import Accounts.Bcrypt.Hash

/-!
# Passwords

Passwords are kept as salted hashes of one fixed cost. What cannot be verified does not match.
-/

namespace Accounts.Password

/-- The cost of every hash that is made here. -/
def cost : Nat := 12

def hash (salt : Bcrypt.Salt) (password : String) : Except Bcrypt.Error String :=
  Bcrypt.hash cost salt password

def verify (password hash : String) : Bool :=
  Bcrypt.verify? password hash == some true

/-- Verifies against a hash that no known password has, for the sake of the work. -/
def verifyDummy (reference : Option String) (password : String) : Bool :=
  match reference with
  | some hash => verify password hash
  | none => false

end Accounts.Password

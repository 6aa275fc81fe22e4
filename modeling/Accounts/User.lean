import Accounts.Email
import Accounts.Role
import Accounts.Text.Outline
import Accounts.Time
import Accounts.Uuid

/-!
# Users

A user as it is stored, the request for a new one, and the request for a change. Outlines of the
requests show that there is a password and never which.
-/

namespace Accounts

structure User where
  id : Uuid
  name : String
  email : Email
  passwordHash : String
  roles : List Role
  department : Option String
  enabled : Bool
  created : Timestamp
  updated : Timestamp
  deriving DecidableEq, Repr

/-- What a caller says about a user who does not exist yet. -/
structure NewUser where
  name : String
  email : Email
  password : String
  roles : List Role
  department : Option String
  deriving DecidableEq, Repr

/-- What shall change; a field without a value stays as it is. -/
structure UserUpdate where
  name : Option String
  email : Option Email
  roles : Option (List Role)
  department : Option String
  password : Option String
  enabled : Option Bool
  deriving DecidableEq, Repr

/-- What stands in the place of every password. -/
def maskedPassword : Text.Outline :=
  .text "***"

def Email.outline (e : Email) : Text.Outline :=
  .tuple "Email" [.text e.address]

def Role.outline : Role → Text.Outline
  | .admin => .word "Admin"
  | .user => .word "User"

def Role.outlines (roles : List Role) : Text.Outline :=
  .list (roles.map Role.outline)

def NewUser.outline (n : NewUser) : Text.Outline :=
  .record "NewUser"
    [("name", .text n.name), ("email", n.email.outline), ("password", maskedPassword),
      ("roles", Role.outlines n.roles), ("department", .ofOption .text n.department)]

namespace UserUpdate

def outline (u : UserUpdate) : Text.Outline :=
  .record "UpdateUser"
    [("name", .ofOption .text u.name), ("email", .ofOption Email.outline u.email),
      ("roles", .ofOption Role.outlines u.roles), ("department", .ofOption .text u.department),
      ("password", .ofOption (fun _ => maskedPassword) u.password),
      ("enabled", .ofOption .ofBool u.enabled)]

/-- The user after the change, given the hash of the new password if there is one. A department
can be given but not taken away. -/
def apply (u : UserUpdate) (hash : Option String) (now : Timestamp) (user : User) : User :=
  { user with
    name := u.name.getD user.name
    email := u.email.getD user.email
    roles := u.roles.getD user.roles
    passwordHash := hash.getD user.passwordHash
    department := u.department <|> user.department
    enabled := u.enabled.getD user.enabled
    updated := now }

end UserUpdate

end Accounts

import Accounts.OrderBy
import Accounts.Page

/-!
# Limits of requests

The configuration bounds the rows of a page. The orders that a request may ask for are fixed.
-/

namespace Accounts

namespace OrderBy

def byId : String := "user_id"
def byName : String := "name"
def byEmail : String := "email"
def byRoles : String := "roles"
def byEnabled : String := "enabled"

/-- The external name of every sort field, and the field itself. -/
def userFields : List (String × String) :=
  [byId, byName, byEmail, byRoles, byEnabled].map fun field => (field, field)

def userDefault : OrderBy := ⟨byId, .asc⟩

end OrderBy

structure Config where
  defaultRows : UInt32
  maxRows : UInt32
  deriving DecidableEq, Repr

namespace Config

def default : Config := ⟨10, 100⟩

instance : Inhabited Config := ⟨default⟩

def page (c : Config) (page rows : String) : Except PageError Page :=
  Page.parse page rows c.defaultRows c.maxRows

def orderBy (_ : Config) (raw : String) : Except OrderError OrderBy :=
  OrderBy.parse OrderBy.userFields raw OrderBy.userDefault

end Config

end Accounts

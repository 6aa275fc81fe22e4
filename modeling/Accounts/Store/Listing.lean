import Accounts.Config
import Accounts.Filter
import Accounts.Keyed
import Accounts.Store.Error

/-!
# Listings

The rows that a filter accepts, in the order of a field and then of their ids, one page at a
time. Downwards the whole order is turned around, that of the ids too.
-/

namespace Accounts

abbrev Table := Keyed Uuid User

/-- The fields that a listing can be sorted by. -/
inductive SortField
  | id
  | name
  | email
  | roles
  | enabled
  deriving DecidableEq, Repr

namespace SortField

def ofName? (name : String) : Option SortField :=
  if name = OrderBy.byId then some .id
  else if name = OrderBy.byName then some .name
  else if name = OrderBy.byEmail then some .email
  else if name = OrderBy.byRoles then some .roles
  else if name = OrderBy.byEnabled then some .enabled
  else none

/-- Texts go by their characters, lists of roles by their first difference, and what is not
enabled comes first. -/
def compare : SortField → User → User → Ordering
  | .id, a, b => Ord.compare a.id.toNat b.id.toNat
  | .name, a, b => Ord.compare a.name b.name
  | .email, a, b => Ord.compare a.email.address b.email.address
  | .roles, a, b => Ord.compare (a.roles.map Role.rank) (b.roles.map Role.rank)
  | .enabled, a, b => Ord.compare a.enabled b.enabled

end SortField

namespace Listing

/-- The order of two rows in a listing. -/
def rowOrder (field : SortField) (direction : Direction) (a b : User) : Ordering :=
  let upwards := (field.compare a b).then (compare a.id.toNat b.id.toNat)
  match direction with
  | .asc => upwards
  | .desc => upwards.swap

/-- All the rows that a filter accepts, in order. -/
def sorted (rows : Table) (filter : Filter) (field : SortField) (direction : Direction) :
    List User :=
  (rows.values.filter filter.accepts).mergeSort fun a b => (rowOrder field direction a b).isLE

def page (users : List User) (page : Page) : List User :=
  (users.drop page.offset).take page.rows.toNat

def unknownField (name : String) : StoreError :=
  .ofText ("unknown order field: " ++ name)

/-- One page of the listing of a table. -/
def select (rows : Table) (filter : Filter) (orderBy : OrderBy) (p : Page) :
    Except StoreError (List User) :=
  match SortField.ofName? orderBy.field with
  | none => .error (unknownField orderBy.field)
  | some field => .ok (page (sorted rows filter field orderBy.direction) p)

/-- How many rows a filter accepts. -/
def count (rows : Table) (filter : Filter) : Nat :=
  rows.values.countP filter.accepts

end Listing

end Accounts

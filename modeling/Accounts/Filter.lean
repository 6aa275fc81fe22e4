import Accounts.User

/-!
# Filters

The conditions of a listing. A condition without a value holds of every user.
-/

namespace Accounts

structure Filter where
  id : Option Uuid
  /-- A part of the name. -/
  name : Option String
  /-- A part of the address. -/
  email : Option String
  /-- The earliest and the latest time of creation. -/
  createdFrom : Option Timestamp
  createdTo : Option Timestamp
  deriving DecidableEq, Repr

namespace Filter

def all : Filter :=
  ⟨none, none, none, none, none⟩

instance : Inhabited Filter := ⟨all⟩

/-- Whether some end of a text begins with `part`. -/
def occursIn (part : List Char) : List Char → Bool
  | [] => part.isEmpty
  | c :: rest => part.isPrefixOf (c :: rest) || occursIn part rest

theorem occursIn_iff (part whole : List Char) : occursIn part whole = true ↔ part <:+: whole := by
  induction whole with
  | nil => simp [occursIn]
  | cons c rest ih => simp [occursIn, ih, List.infix_cons_iff]

def isPart (part whole : String) : Bool :=
  occursIn part.toList whole.toList

def accepts (f : Filter) (u : User) : Bool :=
  f.id.all (· == u.id) &&
    f.name.all (isPart · u.name) &&
    f.email.all (isPart · u.email.address) &&
    f.createdFrom.all (· ≤ u.created) &&
    f.createdTo.all (u.created ≤ ·)

end Filter

end Accounts

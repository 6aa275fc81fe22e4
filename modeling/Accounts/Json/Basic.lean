/-!
# JSON values

Whole numbers that fit in 64 bits are exact; every other number is a binary64 value, kept by its
bits. The members of an object that was read stand in the order of their keys, each key once;
those of a record that is written stand in its own order.
-/

namespace Accounts

namespace Json

inductive Number
  | natural (n : UInt64)
  /-- The number `-(n + 1)`. -/
  | negSucc (n : Fin 0x8000000000000000)
  | binary (bits : UInt64)
  deriving DecidableEq, Repr

end Json

inductive Json
  | null
  | bool (b : Bool)
  | number (n : Json.Number)
  | string (s : String)
  | array (items : List Json)
  | object (members : List (String × Json))
  deriving Repr

namespace Json

abbrev Members := List (String × Json)

/-- Gives a key its value, whatever it had before, and keeps the keys in order. -/
def Members.insert (key : String) (value : Json) : Members → Members
  | [] => [(key, value)]
  | (other, old) :: rest =>
    if key = other then (key, value) :: rest
    else if key < other then (key, value) :: (other, old) :: rest
    else (other, old) :: Members.insert key value rest

def Members.find? (key : String) (members : Members) : Option Json :=
  (List.find? (·.1 == key) members).map (·.2)

/-- The object with these members; of two with one key the later counts. -/
def ofMembers (members : Members) : Json :=
  .object (members.foldl (fun acc m => Members.insert m.1 m.2 acc) [])

def natural (n : Nat) : Json :=
  .number (.natural n.toUInt64)

def strings (items : List String) : Json :=
  .array (items.map .string)

/-- The value of a member; none of anything but an object that has it. -/
def get? (key : String) : Json → Option Json
  | .object members => Members.find? key members
  | _ => none

mutual

/-- Whether two values are the same. -/
def beq : Json → Json → Bool
  | .null, .null => true
  | .bool a, .bool b => a == b
  | .number a, .number b => a == b
  | .string a, .string b => a == b
  | .array a, .array b => beqItems a b
  | .object a, .object b => beqMembers a b
  | _, _ => false

def beqItems : List Json → List Json → Bool
  | [], [] => true
  | a :: as, b :: bs => beq a b && beqItems as bs
  | _, _ => false

def beqMembers : List (String × Json) → List (String × Json) → Bool
  | [], [] => true
  | (k, a) :: as, (l, b) :: bs => k == l && beq a b && beqMembers as bs
  | _, _ => false

end

instance : BEq Json := ⟨beq⟩

end Json

end Accounts

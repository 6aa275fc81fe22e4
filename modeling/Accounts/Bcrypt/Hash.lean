import Accounts.Bcrypt.Base64
import Accounts.Bcrypt.Cipher
import Accounts.Text.Blank
import Accounts.Text.Bytes
import Accounts.Text.Numeral

/-!
# Password hashes as text

A hash names its version and its cost and holds the salt and the digest. A password counts with
the zero byte behind it and is refused if it is too long.
-/

namespace Accounts.Bcrypt

inductive Error
  | costNotAllowed (cost : Nat)
  | truncation (length : Nat)
  | invalidSaltLength (length : Nat)
  | invalidCost (text : String)
  | invalidVersion (text : String)
  | invalidHash (text : String)
  deriving DecidableEq, Repr

def minCost : Nat := 4
def maxCost : Nat := 31

/-- The longest input, its zero byte included. -/
def maxLength : Nat := 72

def saltLength : Nat := 16

def Error.message : Error → String
  | .costNotAllowed cost =>
    "Cost needs to be between " ++ toString minCost ++ " and " ++ toString maxCost ++ ", got " ++
      toString cost
  | .truncation length =>
    "Expected " ++ toString maxLength ++ " bytes or fewer; found " ++ toString length ++ " bytes"
  | .invalidSaltLength length =>
    "Invalid salt len: expected " ++ toString saltLength ++ ", received " ++ toString length
  | .invalidCost text => "Invalid Cost: " ++ text
  | .invalidVersion text => "Invalid Prefix: " ++ text
  | .invalidHash text => "Invalid hash: " ++ text

structure Salt where
  bytes : List UInt8
  length_eq : bytes.length = saltLength
  deriving DecidableEq, Repr

/-- The bytes of a password and the zero byte behind them. -/
def terminated (password : String) : List UInt8 :=
  password.toUTF8.toList ++ [0]

/-- The digest of a password, if the cost is allowed and the password is not too long. -/
def hashBytes (cost : Nat) (salt : Salt) (password : String) : Except Error (List UInt8) :=
  if cost < minCost ∨ maxCost < cost then .error (.costNotAllowed cost)
  else if maxLength < (terminated password).length then
    .error (.truncation (terminated password).length)
  else .ok (digest cost salt.bytes (terminated password))

/-- The cost in at least two digits. -/
def costText (cost : Nat) : String :=
  if cost < 10 then "0" ++ toString cost else toString cost

/-- The text of a salt and a digest under the newest version. -/
def hashText (cost : Nat) (salt : Salt) (digest : List UInt8) : String :=
  "$2b$" ++ costText cost ++ "$" ++ String.ofList (encode64 salt.bytes ++ encode64 digest)

def hash (cost : Nat) (salt : Salt) (password : String) : Except Error String :=
  (hashBytes cost salt password).map (hashText cost salt)

/-- What the text of a hash says. -/
structure Parsed where
  cost : Nat
  salt : List Char
  digest : List Char
  deriving DecidableEq, Repr

/-- The versions, which all mean the same. -/
def versions : List String := ["2y", "2b", "2a", "2x"]

/-- The first 22 bytes of 53, if they are whole characters. -/
def splitBytes? (cs : List Char) : Option (List Char × List Char) :=
  if Text.byteLength cs = 53 then go 22 [] cs else none
where
  go (left : Nat) (taken : List Char) : List Char → Option (List Char × List Char)
    | [] => none
    | c :: rest =>
      if left = 0 then some (taken.reverse, c :: rest)
      else if c.utf8Size ≤ left then go (left - c.utf8Size) (c :: taken) rest
      else none

/-- Reads the three pieces between dollar signs; empty pieces do not count. -/
def parse (hash : String) : Except Error Parsed :=
  match ((Text.pieces '$' hash.toList).filter (!·.isEmpty)).map String.ofList with
  | [version, cost, body] =>
    if version ∉ versions then .error (.invalidVersion version)
    else match Text.readWord cost with
      | .error _ => .error (.invalidCost cost)
      | .ok cost =>
        match splitBytes? body.toList with
        | none => .error (.invalidHash hash)
        | some (salt, digest) => .ok ⟨cost.toNat, salt, digest⟩
  | _ => .error (.invalidHash hash)

/-- Whether a password has this hash; none if the hash or the password is unfit. -/
def verify? (password hash : String) : Option Bool := do
  let parsed ← (parse hash).toOption
  let salt ← decode64? parsed.salt
  if h : salt.length = saltLength then
    let found ← (hashBytes parsed.cost ⟨salt, h⟩ password).toOption
    let expected ← decode64? parsed.digest
    return found == expected
  else none

end Accounts.Bcrypt

import Accounts.Bcrypt.Hash
import Accounts.Delegate.Data
import Accounts.Email
import Accounts.Store.Error
import Accounts.Uuid

/-!
# Errors of the business

An error names the operation that failed, or the key that was looked up. Its kind says what a
caller can do about it, however many layers it has come through.
-/

namespace Accounts

/-- What a user was looked up by. -/
inductive LookupKey
  | id (id : Uuid)
  | email (email : Email)
  deriving DecidableEq, Repr

def LookupKey.text : LookupKey → String
  | .id u => "userID[" ++ u.text ++ "]"
  | .email e => "email[" ++ e.address ++ "]"

inductive ErrorKind
  | notFound
  | uniqueEmail
  | authenticationFailure
  | hashing
  | notification
  | storage
  deriving DecidableEq, Repr

inductive UserError
  | notFound (key : LookupKey)
  | uniqueEmail (op : String)
  | authenticationFailure
  | hashing (error : Bcrypt.Error)
  | notification (action : String) (source : DelegateError)
  | storage (op : String) (source : StoreError)
  deriving DecidableEq, Repr

namespace UserError

/-- The failure of a store in an operation. -/
def store (op : String) : StoreError → UserError
  | .uniqueEmail => .uniqueEmail op
  | source => .storage op source

/-- The failure of a store to find the user with a key. -/
def lookup (key : LookupKey) : StoreError → UserError
  | .notFound => .notFound key
  | source => store "query" source

def kind : UserError → ErrorKind
  | .notFound _ => .notFound
  | .uniqueEmail _ => .uniqueEmail
  | .authenticationFailure => .authenticationFailure
  | .hashing _ => .hashing
  | .notification _ _ => .notification
  | .storage _ .notFound => .notFound
  | .storage _ _ => .storage

def isNotFound (e : UserError) : Bool :=
  e.kind = .notFound

def message : UserError → String
  | .notFound key => "query: " ++ key.text ++ ": user not found"
  | .uniqueEmail op => op ++ ": email is not unique"
  | .authenticationFailure => "authentication failed"
  | .hashing error => "generatefrompassword: " ++ error.message
  | .notification action source => "failed to execute `" ++ action ++ "` action: " ++ source.message
  | .storage op source => op ++ ": " ++ source.message

/-- The texts of the causes, the nearest first. -/
def causes : UserError → List String
  | .hashing error => [error.message]
  | .notification _ source => source.message :: source.causes
  | .storage _ source => source.message :: source.causes
  | _ => []

end UserError

end Accounts

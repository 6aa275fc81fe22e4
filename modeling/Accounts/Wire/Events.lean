import Accounts.Delegate.Data
import Accounts.Time
import Accounts.Uuid
import Accounts.Wire.Limits

/-!
# Events of the user domain

What other domains hear when a user is deleted, and the wire forms of calls and parameters.
-/

namespace Accounts

open Json (ReadError Reader Record Field ShapeFault)

namespace Uuid

/-- The UUID that a text of a wire form spells. -/
def ofWire (s : String) : Except ShapeFault Uuid :=
  (parse s).mapError fun fault => .refused ("UUID parsing failed: " ++ fault.message)

/-- What is expected where a UUID should stand. -/
def expected : String := "a formatted UUID string"

def json (u : Uuid) : Json :=
  .string u.text

end Uuid

namespace Data

/-- The fields of a call that have been read. -/
structure Draft where
  domain : Option String
  action : Option String
  params : Option Json

def wire : Record Draft Data where
  name := "Data"
  start := ⟨none, none, none⟩
  fields :=
    [.of "domain" (·.domain) (fun s d => { d with domain := some s })
        (fun _ => Reader.text "a string") none,
      .of "action" (·.action) (fun s d => { d with action := some s })
        (fun _ => Reader.text "a string") none,
      .of "raw_params" (·.params) (fun j d => { d with params := some j }) Reader.value none]
  closed := false
  build
    | ⟨some domain, some action, some params⟩ => .ok ⟨domain, action, params⟩
    | ⟨none, _, _⟩ => .error (.missingField "domain")
    | ⟨_, none, _⟩ => .error (.missingField "action")
    | ⟨_, _, none⟩ => .error (.missingField "raw_params")

def ofText (text : String) : Except ReadError Data :=
  Json.ofText wire text

def json (d : Data) : Json :=
  .object [("domain", .string d.domain), ("action", .string d.action), ("raw_params", d.params)]

end Data

/-- The parameters of the call that announces a deletion. -/
structure DeletedParams where
  userId : Uuid
  deriving DecidableEq, Repr

namespace DeletedParams

def name : String := "ActionDeletedParams"
def key : String := "user_id"

def wire : Record (Option Uuid) DeletedParams where
  name := name
  start := none
  fields :=
    [.of key id (fun u _ => some u)
      (fun _ => do Record.ofShape (Uuid.ofWire (← Reader.text Uuid.expected))) none]
  closed := false
  build
    | some u => .ok ⟨u⟩
    | none => .error (.missingField key)

def ofText (text : String) : Except ReadError DeletedParams :=
  Json.ofText wire text

def json (p : DeletedParams) : Json :=
  .object [(key, p.userId.json)]

def userIdOfJson : Json → Except ShapeFault Uuid
  | .string s => Uuid.ofWire s
  | j => .error (.invalidType j.found Uuid.expected)

/-- The parameters in an object, which may have other members, or in an array, which may not
have other items. -/
def ofJson : Json → Except ShapeFault DeletedParams
  | .object members =>
    match Json.Members.find? key members with
    | some j => (userIdOfJson j).map DeletedParams.mk
    | none => .error (.missingField key)
  | .array [] => .error (.invalidLength 0 wire.lengthText)
  | .array (j :: rest) => do
    let userId ← userIdOfJson j
    if rest.isEmpty then return ⟨userId⟩
    else .error (.invalidLength (rest.length + 1) "fewer elements in array")
  | j => .error (.invalidType j.found ("struct " ++ name))

/-- The parameters that a call carries. -/
def ofData (data : Data) : Except DelegateError DeletedParams :=
  (ofJson data.params).mapError .params

end DeletedParams

inductive Event
  | deleted (id : Uuid) (time : Timestamp)
  deriving DecidableEq, Repr

namespace Event

def domain : String := "user"
def actionDeleted : String := "deleted"

/-- The call that announces the deletion of a user. -/
def deletedData (id : Uuid) : Data :=
  ⟨domain, actionDeleted, (DeletedParams.mk id).json⟩

def action : Event → String
  | .deleted _ _ => actionDeleted

def data : Event → Data
  | .deleted id _ => deletedData id

end Event

end Accounts

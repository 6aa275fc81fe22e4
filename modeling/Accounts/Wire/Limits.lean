import Accounts.Config
import Accounts.Json.Record

/-!
# Pages, orders and limits in JSON

The wire forms of what bounds and sorts a listing.
-/

namespace Accounts

open Json (ReadError Reader Record Field)

/-- The wire form of a type whose values are records. -/
def Json.ofText {ρ α : Type} (r : Record ρ α) (text : String) : Except ReadError α :=
  Json.decode (r.read (Reader.maxDepth - 1)) text

namespace Page

/-- The fields of a page that have been read. -/
structure Draft where
  number : Option UInt32
  rows : Option UInt32

/-- The numbers of a page are judged when both have been read. -/
def wire : Record Draft Page where
  name := "RawPage"
  start := ⟨none, none⟩
  fields :=
    [.of "number" (·.number) (fun n d => { d with number := some n }) (fun _ => Reader.word32) none,
      .of "rows" (·.rows) (fun n d => { d with rows := some n }) (fun _ => Reader.word32) none]
  closed := false
  build
    | ⟨some number, some rows⟩ => (Page.new number rows).mapError fun e => .refused e.message
    | ⟨none, _⟩ => .error (.missingField "number")
    | ⟨_, none⟩ => .error (.missingField "rows")

def ofText (text : String) : Except ReadError Page :=
  Json.ofText wire text

def json (p : Page) : Json :=
  .object [("number", .natural p.number.toNat), ("rows", .natural p.rows.toNat)]

end Page

namespace Direction

def names : List String :=
  [asc.name, desc.name]

def ofName (name : String) : Except Json.ShapeFault Direction :=
  if name = asc.name then .ok .asc
  else if name = desc.name then .ok .desc
  else .error (.unknownVariant name names)

/-- The rest of an object whose only member has a direction as its key and null as its value. -/
def readMember : Reader Direction := do
  let direction ← Record.ofShape (ofName (← Reader.key Reader.string (← Reader.peek)))
  Reader.colon
  match ← Reader.peek with
  | some 'n' => Reader.word ['n', 'u', 'l', 'l']
  | _ => Reader.wrongType "unit"
  match ← Reader.peek with
  | none => throw .ended
  | some c =>
    if c = '\x7d' then
      Reader.advance
      return direction
    else throw .malformed

/-- A direction is a string or an object, which takes one container of `depth`. -/
def read (depth : Nat) : Reader Direction := do
  match ← Reader.peek with
  | none => throw .ended
  | some c =>
    if c = '"' then do
      Record.ofShape (ofName (← Reader.key Reader.string (some c)))
    else if c = '\x7b' ∧ depth ≠ 0 then
      Reader.advance
      readMember
    else throw .malformed

def ofText (text : String) : Except ReadError Direction :=
  Json.decode (read Reader.maxDepth) text

def json (d : Direction) : Json :=
  .string d.name

end Direction

namespace OrderBy

/-- The fields of an order that have been read. -/
structure Draft where
  field : Option String
  direction : Option Direction

def wire : Record Draft OrderBy where
  name := "By"
  start := ⟨none, none⟩
  fields :=
    [.of "field" (·.field) (fun s d => { d with field := some s })
        (fun _ => Reader.text "a string") none,
      .of "direction" (·.direction) (fun x d => { d with direction := some x })
        Direction.read none]
  closed := false
  build
    | ⟨some field, some direction⟩ => .ok ⟨field, direction⟩
    | ⟨none, _⟩ => .error (.missingField "field")
    | ⟨_, none⟩ => .error (.missingField "direction")

def ofText (text : String) : Except ReadError OrderBy :=
  Json.ofText wire text

def json (o : OrderBy) : Json :=
  .object [("field", .string o.field), ("direction", o.direction.json)]

end OrderBy

namespace Config

/-- The limits that have been read. -/
structure Draft where
  defaultRows : Option UInt32
  maxRows : Option UInt32

/-- Each limit that is left out has its default, and there are no other keys. -/
def wire : Record Draft Config where
  name := "UsersConfig"
  start := ⟨none, none⟩
  fields :=
    [.of "default_rows_per_page" (·.defaultRows) (fun n d => { d with defaultRows := some n })
        (fun _ => Reader.word32) (some default.defaultRows),
      .of "max_rows_per_page" (·.maxRows) (fun n d => { d with maxRows := some n })
        (fun _ => Reader.word32) (some default.maxRows)]
  closed := true
  build d := .ok ⟨d.defaultRows.getD default.defaultRows, d.maxRows.getD default.maxRows⟩

def ofText (text : String) : Except ReadError Config :=
  Json.ofText wire text

def json (c : Config) : Json :=
  .object [("default_rows_per_page", .natural c.defaultRows.toNat),
    ("max_rows_per_page", .natural c.maxRows.toNat)]

end Config

end Accounts

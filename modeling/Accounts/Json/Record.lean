import Accounts.Json.Reader

/-!
# Records in JSON text

A record is written as an object, in any order of its keys, or as an array of its fields in their
own order. A record that is not closed skips the keys it does not know.
-/

namespace Accounts.Json

/-- A field of a record whose fields, as far as they are known, make up a `ρ`. -/
structure Field (ρ : Type) where
  key : String
  isSet : ρ → Bool
  /-- Reads the field's value, which may nest this many containers. -/
  read : Nat → ρ → Reader ρ
  /-- What stands for a field that is left out, if it may be. -/
  fallback : Option (ρ → ρ)

/-- A field by its place in the record and the reader of its values. -/
def Field.of {ρ α : Type} (key : String) (get : ρ → Option α) (set : α → ρ → ρ)
    (read : Nat → Reader α) (fallback : Option α) : Field ρ where
  key := key
  isSet state := (get state).isSome
  read depth state := return set (← read depth) state
  fallback := fallback.map set

/-- A wire form of `α`, put together in a `ρ`. -/
structure Record (ρ α : Type) where
  name : String
  start : ρ
  fields : List (Field ρ)
  closed : Bool
  build : ρ → Except ShapeFault α

namespace Record

variable {ρ α : Type}

def lengthText (r : Record ρ α) : String :=
  "struct " ++ r.name ++ " with " ++ toString r.fields.length ++
    (if r.fields.length = 1 then " element" else " elements")

def refuse {β : Type} (fault : ShapeFault) : Reader β :=
  throw (.shape fault)

/-- A known key counts once; an unknown one is refused or skipped with its value. -/
def readMember (r : Record ρ α) (depth : Nat) (state : ρ) (key : String) : Reader ρ :=
  match r.fields.find? (·.key == key) with
  | some field =>
    if field.isSet state then refuse (.duplicateField key)
    else do
      Reader.colon
      field.read depth state
  | none =>
    if r.closed then refuse (.unknownField key (r.fields.map (·.key)))
    else do
      Reader.colon
      Reader.skip
      return state

/-- Fills in what was left out; the first field that may not be left out is reported. -/
def complete : List (Field ρ) → ρ → Except ShapeFault ρ
  | [], state => .ok state
  | field :: fields, state =>
    if field.isSet state then complete fields state
    else match field.fallback with
      | some fill => complete fields (fill state)
      | none => .error (.missingField field.key)

/-- The fields from position `index` on, out of an array. -/
def readItems (r : Record ρ α) (depth : Nat) : Nat → List (Field ρ) → ρ → Reader ρ
  | _, [], state => return state
  | index, field :: fields, state => do
    if ← Reader.nextItem (index = 0) then
      readItems r depth (index + 1) fields (← field.read depth state)
    else match field.fallback with
      | some fill => readItems r depth (index + 1) fields (fill state)
      | none => refuse (.invalidLength index r.lengthText)

/-- The closing bracket of an array that has no more items. -/
def closeArray : Reader Unit := do
  match ← Reader.peek with
  | none => throw .ended
  | some c => if c = ']' then Reader.advance else throw .malformed

def ofShape {β : Type} : Except ShapeFault β → Reader β
  | .ok b => pure b
  | .error fault => refuse fault

/-- The record, in an array or an object that may nest `depth` containers. -/
def read (r : Record ρ α) (depth : Nat) : Reader α := do
  let state ← Reader.valueWith
    (fun c => do refuse (.invalidType (← Reader.scalar c).found ("struct " ++ r.name)))
    (do
      let state ← r.readItems depth 0 r.fields r.start
      closeArray
      return state)
    (do ofShape (complete r.fields (← Reader.members (r.readMember depth) r.start)))
  ofShape (r.build state)

end Record

namespace Reader

/-- Refuses whatever value comes next. -/
def wrongType {α : Type} (expected : String) : Reader α :=
  valueWith
    (fun c => do throw (.shape (.invalidType (← scalar c).found expected)))
    (throw (.shape (.invalidType .sequence expected)))
    (throw (.shape (.invalidType .map expected)))

/-- A string token. -/
def text (expected : String) : Reader String := do
  match ← peek with
  | none => throw .ended
  | some c =>
    if c = '"' then do
      advance
      string
    else wrongType expected

/-- The 32-bit number of a whole number. -/
def toWord : Number → Except ShapeFault UInt32
  | .natural n =>
    if n.toNat < UInt32.size then .ok n.toNat.toUInt32
    else .error (.invalidValue (.number (.natural n)) "u32")
  | .negSucc n => .error (.invalidValue (.number (.negSucc n)) "u32")
  | .binary bits => .error (.invalidType (.number (.binary bits)) "u32")

def word32 : Reader UInt32 := do
  match ← peek with
  | none => throw .ended
  | some c =>
    if c = '-' then do
      advance
      Record.ofShape (toWord (← number true))
    else if c.isDigit then do
      Record.ofShape (toWord (← number false))
    else wrongType "u32"

end Reader

end Accounts.Json

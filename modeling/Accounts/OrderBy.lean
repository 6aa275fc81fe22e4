import Accounts.Text.Blank

/-!
# Sort orders of requests

A request names a sort field and, after a comma, a direction. External names are translated by
a list of mappings, of which the first with the requested name counts.
-/

namespace Accounts

inductive Direction
  | asc
  | desc
  deriving DecidableEq, Repr

inductive OrderError
  | unknownField (text : String)
  | unknownDirection (text : String)
  deriving DecidableEq, Repr

def OrderError.message : OrderError → String
  | .unknownField text => "unknown order: " ++ text
  | .unknownDirection text => "unknown direction: " ++ text

namespace Direction

def name : Direction → String
  | .asc => "ASC"
  | .desc => "DESC"

/-- Blanks around the name are ignored, its case is not. -/
def parse (s : String) : Except OrderError Direction :=
  let requested := Text.trim s
  if requested = "ASC" then .ok .asc
  else if requested = "DESC" then .ok .desc
  else .error (.unknownDirection requested)

end Direction

/-- A storage field and the direction to sort it in. -/
structure OrderBy where
  field : String
  direction : Direction
  deriving DecidableEq, Repr

namespace OrderBy

/-- The form that `parse` reads. -/
def display (o : OrderBy) : String :=
  o.field ++ "," ++ o.direction.name

/-- The storage field of an external name: that of the first mapping with this name. -/
def fieldOf? (mappings : List (String × String)) (name : String) : Option String :=
  (mappings.find? (·.1 == name)).map (·.2)

/-- A blank text asks for the default. The field is looked up before the number of commas is
judged, and the direction is read last. -/
def parse (mappings : List (String × String)) (raw : String) (default : OrderBy) :
    Except OrderError OrderBy :=
  if Text.trim raw = "" then .ok default
  else
    let parts := (Text.pieces ',' raw.toList).map String.ofList
    let requested := Text.trim (parts.headD "")
    match fieldOf? mappings requested with
    | none => .error (.unknownField requested)
    | some field =>
      match parts with
      | [_, direction] => (Direction.parse direction).map (OrderBy.mk field)
      | _ :: _ :: _ :: _ => .error (.unknownField raw)
      | _ => .ok ⟨field, .asc⟩

end OrderBy

end Accounts

import Accounts.Text.Quoted

/-!
# Outlines

A value shown as its structure: on one line, or with a line for each part.
-/

namespace Accounts.Text

inductive Outline
  | word (w : String)
  | text (s : String)
  | list (items : List Outline)
  /-- A name with nameless parts. -/
  | tuple (name : String) (items : List Outline)
  /-- A name with named parts. -/
  | record (name : String) (fields : List (String × Outline))
  deriving Repr

namespace Outline

def ofBool (b : Bool) : Outline :=
  .word (if b then "true" else "false")

/-- What may be missing. -/
def ofOption {α : Type} (outline : α → Outline) : Option α → Outline
  | none => .word "None"
  | some a => .tuple "Some" [outline a]

mutual

/-- The outline on one line. -/
def line : Outline → String
  | .word w => w
  | .text s => quoted s
  | .list items => "[" ++ ", ".intercalate (lines items) ++ "]"
  | .tuple name items => name ++ "(" ++ ", ".intercalate (lines items) ++ ")"
  | .record name fields =>
    if fields.isEmpty then name
    else name ++ " \x7b " ++ ", ".intercalate (fieldLines fields) ++ " \x7d"

def lines : List Outline → List String
  | [] => []
  | item :: items => item.line :: lines items

def fieldLines : List (String × Outline) → List String
  | [] => []
  | (name, value) :: fields => (name ++ ": " ++ value.line) :: fieldLines fields

end

/-- Four blanks for each level. -/
def margin (level : Nat) : String :=
  String.ofList (List.replicate (4 * level) ' ')

/-- Parts between brackets, each on its own line if there are any. -/
def block (level : Nat) (opening closing : String) (parts : List String) : String :=
  if parts.isEmpty then opening ++ closing
  else opening ++ "\n" ++
    String.join (parts.map fun part => margin (level + 1) ++ part ++ ",\n") ++
    margin level ++ closing

mutual

/-- The outline with a line for each part, inside of `level` others. -/
def indented (level : Nat) : Outline → String
  | .word w => w
  | .text s => quoted s
  | .list items => block level "[" "]" (indentedItems (level + 1) items)
  | .tuple name items => block level (name ++ "(") ")" (indentedItems (level + 1) items)
  | .record name fields =>
    if fields.isEmpty then name
    else block level (name ++ " \x7b") "\x7d" (indentedFields (level + 1) fields)

def indentedItems (level : Nat) : List Outline → List String
  | [] => []
  | item :: items => item.indented level :: indentedItems level items

def indentedFields (level : Nat) : List (String × Outline) → List String
  | [] => []
  | (name, value) :: fields =>
    (name ++ ": " ++ value.indented level) :: indentedFields level fields

end

end Outline

end Accounts.Text

import Accounts.Json.Scanner

/-!
# Reading JSON text

Readers take characters from the front of a text and stop at the first fault. A value may nest
127 containers; a value that is skipped may nest any number of them.
-/

namespace Accounts.Json

abbrev Reader := StateT (List Char) (Except ReadError)

namespace Reader

def isGap (c : Char) : Bool :=
  c == ' ' || c == '\n' || c == '\t' || c == '\r'

/-- The next character that is no gap; it is not taken. -/
def peek : Reader (Option Char) := fun cs =>
  let rest := cs.dropWhile isGap
  .ok (rest.head?, rest)

def advance : Reader Unit := fun cs =>
  .ok ((), cs.drop 1)

/-- Exactly these characters. -/
def word : List Char → Reader Unit
  | [] => pure ()
  | c :: more => fun
    | [] => .error .ended
    | d :: rest => if d = c then word more rest else .error .malformed

/-- The rest of a string token whose opening quote has been taken. -/
def string : Reader String := fun cs =>
  (scanString true .plain cs).map fun (s, rest) => (String.ofList s, rest)

def number (negative : Bool) : Reader Number := fun cs => do
  let (t, rest) ← scanNumber cs
  match t.value? negative with
  | some n => .ok (n, rest)
  | none => .error .malformed

/-- The value that is no container and starts with `c`, which has been peeked at. -/
def scalar (c : Char) : Reader Json := do
  if c = 'n' then
    word ['n', 'u', 'l', 'l']
    return .null
  else if c = 't' then
    word ['t', 'r', 'u', 'e']
    return .bool true
  else if c = 'f' then
    word ['f', 'a', 'l', 's', 'e']
    return .bool false
  else if c = '-' then
    advance
    return .number (← number true)
  else if c.isDigit then
    return .number (← number false)
  else if c = '"' then
    advance
    return .string (← string)
  else throw .malformed

/-- Whether an item follows in an array whose closing bracket is left alone. -/
def nextItem (first : Bool) : Reader Bool := do
  match ← peek with
  | none => throw .ended
  | some c =>
    if c = ']' then return false
    else if first then return true
    else if c = ',' then
      advance
      match ← peek with
      | none => throw .ended
      | some d => if d = ']' then throw .malformed else return true
    else throw .malformed

/-- A key, read by `token` behind its opening quote, which has been peeked at. -/
def key {κ : Type} (token : Reader κ) : Option Char → Reader κ
  | none => throw .ended
  | some c =>
    if c = '"' then do
      advance
      token
    else throw .malformed

/-- The next key of an object whose closing brace is left alone. -/
def nextKey {κ : Type} (token : Reader κ) (first : Bool) : Reader (Option κ) := do
  match ← peek with
  | none => throw .ended
  | some c =>
    if c = '}' then return none
    else if first then return some (← key token (some c))
    else if c = ',' then
      advance
      return some (← key token (← peek))
    else throw .malformed

def colon : Reader Unit := do
  match ← peek with
  | none => throw .ended
  | some c => if c = ':' then advance else throw .malformed

/-- The items of an array up to and with its closing bracket. -/
def itemsFrom {α : Type} (item : Reader α) : Nat → Bool → Reader (List α)
  | 0, _ => throw .malformed
  | fuel + 1, first => do
    if ← nextItem first then
      let value ← item
      return value :: (← itemsFrom item fuel false)
    else
      advance
      return []

/-- Every item takes a character, so the length of the text bounds their number. -/
def items {α : Type} (item : Reader α) : Reader (List α) := do
  itemsFrom item ((← get).length + 1) true

/-- Runs `step` on each key of an object up to and with its closing brace. -/
def membersFrom {κ ρ : Type} (token : Reader κ) (step : ρ → κ → Reader ρ) :
    Nat → Bool → ρ → Reader ρ
  | 0, _, _ => throw .malformed
  | fuel + 1, first, state => do
    match ← nextKey token first with
    | some key => membersFrom token step fuel false (← step state key)
    | none =>
      advance
      return state

/-- Every member takes a character, so the length of the text bounds their number. -/
def membersBy {κ ρ : Type} (token : Reader κ) (step : ρ → κ → Reader ρ) (start : ρ) :
    Reader ρ := do
  membersFrom token step ((← get).length + 1) true start

def members {ρ : Type} (step : ρ → String → Reader ρ) (start : ρ) : Reader ρ :=
  membersBy string step start

/-- A value of any kind, given what to do behind an opening bracket and an opening brace. -/
def valueWith {α : Type} (onScalar : Char → Reader α) (onArray onObject : Reader α) :
    Reader α := do
  match ← peek with
  | none => throw .ended
  | some c =>
    if c = '[' then
      advance
      onArray
    else if c = '{' then
      advance
      onObject
    else onScalar c

/-- A value that nests at most `depth` containers. -/
def value : Nat → Reader Json
  | 0 => valueWith scalar (throw .malformed) (throw .malformed)
  | depth + 1 =>
    valueWith scalar
      (return .array (← items (value depth)))
      (return .object (← members (member (value depth)) []))
where
  member (value : Reader Json) (found : Members) (key : String) : Reader Members := do
    colon
    return Members.insert key (← value) found

/-- A number whose value does not matter; running out of text is no better than a bad digit. -/
def skipNumber : Reader Unit := fun cs =>
  match scanNumber cs with
  | .ok (_, rest) => .ok ((), rest)
  | .error _ => .error .malformed

/-- The rest of a string token that is not kept, so that the halves of pairs need not match. -/
def skipString : Reader Unit := fun cs =>
  (scanString false .plain cs).map fun (_, rest) => ((), rest)

def skipScalar (c : Char) : Reader Unit := do
  if c = 'n' then word ['n', 'u', 'l', 'l']
  else if c = 't' then word ['t', 'r', 'u', 'e']
  else if c = 'f' then word ['f', 'a', 'l', 's', 'e']
  else if c = '-' then
    advance
    skipNumber
  else if c.isDigit then skipNumber
  else if c = '"' then
    advance
    skipString
  else throw .malformed

/-- A value that nests fewer than `fuel` containers. -/
def skipFrom : Nat → Reader Unit
  | 0 => throw .malformed
  | fuel + 1 =>
    valueWith skipScalar
      (do let _ ← items (skipFrom fuel))
      (membersBy skipString (fun _ _ => do colon; skipFrom fuel) ())

/-- A value of any depth, of which nothing is kept. -/
def skip : Reader Unit := do
  skipFrom ((← get).length + 1)

/-- How many containers may nest. -/
def maxDepth : Nat := 127

end Reader

/-- Reads the whole of a text; only gaps may follow the value. -/
def decode {α : Type} (reader : Reader α) (text : String) : Except ReadError α := do
  let (value, rest) ← reader text.toList
  if (rest.dropWhile Reader.isGap).isEmpty then .ok value else .error .malformed

/-- The value of a JSON text. -/
def parse (text : String) : Except ReadError Json :=
  decode (Reader.value Reader.maxDepth) text

end Accounts.Json

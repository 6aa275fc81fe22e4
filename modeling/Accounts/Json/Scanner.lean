import Accounts.Json.Fault
import Accounts.Text.Bytes

/-!
# Tokens of JSON text

Strings are scanned one character at a time, with the state of the escape under way. A number is
first cut out as text; its value is exact when it is a whole number that fits in 64 bits.
-/

namespace Accounts.Json

/-- What the last characters of a string token promised. -/
inductive StringState
  | plain
  | escape
  /-- Digits of a UTF-16 unit still to come, after the first half of a pair if there is one. -/
  | unit (high : Option Nat) (left : Nat) (value : Nat)
  /-- The first half of a pair, with the backslash of the second half to come. -/
  | pairSlash (high : Nat)
  /-- The same, with the letter after that backslash to come. -/
  | pairLetter (high : Nat)
  deriving DecidableEq, Repr

def simpleEscape? : Char → Option Char
  | '"' => some '"'
  | '\\' => some '\\'
  | '/' => some '/'
  | 'b' => some '\x08'
  | 'f' => some '\x0c'
  | 'n' => some '\n'
  | 'r' => some '\r'
  | 't' => some '\t'
  | _ => none

def isHighHalf (unit : Nat) : Bool :=
  0xD800 ≤ unit && unit ≤ 0xDBFF

def isLowHalf (unit : Nat) : Bool :=
  0xDC00 ≤ unit && unit ≤ 0xDFFF

/-- The character of two halves of a pair. -/
def pairChar (high low : Nat) : Char :=
  Char.ofNat (0x10000 + (high - 0xD800) * 0x400 + (low - 0xDC00))

/-- Four digits need four bytes to stand in. -/
def hasFourBytes (cs : List Char) : Bool :=
  4 ≤ Text.byteLength (cs.take 4)

/-- The characters of a string token up to its closing quote, and the text after it. Halves of
pairs must match if `paired`; otherwise a unit may be anything and its value is not kept. -/
def scanString (paired : Bool) :
    StringState → List Char → Except ReadError (List Char × List Char)
  | _, [] => .error .ended
  | .plain, c :: rest =>
    if c = '"' then .ok ([], rest)
    else if c = '\\' then scanString paired .escape rest
    else if c.toNat < 0x20 then .error .malformed
    else push c (scanString paired .plain rest)
  | .escape, c :: rest =>
    if c = 'u' then
      if hasFourBytes rest then scanString paired (.unit none 4 0) rest else .error .ended
    else match simpleEscape? c with
      | some e => push e (scanString paired .plain rest)
      | none => .error .malformed
  | .unit high left value, c :: rest =>
    match Text.hexDigit? c with
    | none => .error .malformed
    | some d =>
      let unit := value * 16 + d
      if 1 < left then scanString paired (.unit high (left - 1) unit) rest
      else if !paired then scanString paired .plain rest
      else match high with
        | some h =>
          if isLowHalf unit then push (pairChar h unit) (scanString paired .plain rest)
          else .error .malformed
        | none =>
          if isLowHalf unit then .error .malformed
          else if isHighHalf unit then scanString paired (.pairSlash unit) rest
          else push (Char.ofNat unit) (scanString paired .plain rest)
  | .pairSlash high, c :: rest =>
    if c = '\\' then scanString paired (.pairLetter high) rest else .error .malformed
  | .pairLetter high, c :: rest =>
    if c = 'u' then
      if hasFourBytes rest then scanString paired (.unit (some high) 4 0) rest else .error .ended
    else .error .malformed
where
  push (c : Char) (r : Except ReadError (List Char × List Char)) :
      Except ReadError (List Char × List Char) :=
    r.map fun (cs, rest) => (c :: cs, rest)

/-- The parts of a number, its sign apart. -/
structure NumberText where
  whole : List Char
  fraction : List Char
  exponent : Option Int
  deriving DecidableEq, Repr

def digitValue (c : Char) : Nat :=
  c.toNat - '0'.toNat

/-- The number that a run of decimal digits stands for. -/
def decimalValue (cs : List Char) : Nat :=
  cs.foldl (fun n c => n * 10 + digitValue c) 0

def scanExponent : List Char → Except ReadError (Option Int × List Char)
  | c :: rest =>
    if c = 'e' ∨ c = 'E' then
      match rest with
      | '-' :: digits => number (fun n => -(n : Int)) digits
      | '+' :: digits => number (fun n => (n : Int)) digits
      | digits => number (fun n => (n : Int)) digits
    else .ok (none, c :: rest)
  | [] => .ok (none, [])
where
  number (sign : Nat → Int) (cs : List Char) : Except ReadError (Option Int × List Char) :=
    match cs.span Char.isDigit with
    | ([], []) => .error .ended
    | ([], _) => .error .malformed
    | (digits, rest) => .ok (some (sign (decimalValue digits)), rest)

def scanFraction : List Char → Except ReadError (List Char × List Char)
  | '.' :: rest =>
    match rest.span Char.isDigit with
    | ([], []) => .error .ended
    | ([], _) => .error .malformed
    | (digits, rest) => .ok (digits, rest)
  | rest => .ok ([], rest)

/-- A zero stands alone in front of the point. -/
def scanNumber (cs : List Char) : Except ReadError (NumberText × List Char) := do
  match cs.span Char.isDigit with
  | ([], []) => .error .ended
  | ([], _) => .error .malformed
  | ('0' :: _ :: _, _) => .error .malformed
  | (whole, rest) =>
    let (fraction, rest) ← scanFraction rest
    let (exponent, rest) ← scanExponent rest
    .ok (⟨whole, fraction, exponent⟩, rest)

/-- Takes digits onto `value` as long as the result fits in 64 bits, and counts them. -/
def absorb (value : Nat) : List Char → Nat × Nat
  | [] => (value, 0)
  | c :: rest =>
    if value * 10 + digitValue c < UInt64.size then
      let (total, count) := absorb (value * 10 + digitValue c) rest
      (total, count + 1)
    else (value, 0)

/-- The binary64 value nearest to the leading digits that fit in 64 bits. -/
def NumberText.binary? (negative : Bool) (t : NumberText) : Option Number :=
  let (head, wholeCount) := absorb 0 t.whole
  let (significand, fractionCount) := absorb head t.fraction
  let scale := (t.whole.length : Int) - wholeCount - fractionCount + t.exponent.getD 0
  (Binary64.ofParts? negative significand.toUInt64 scale).map .binary

/-- No value is too large to be finite. -/
def NumberText.value? (negative : Bool) (t : NumberText) : Option Number :=
  let n := decimalValue t.whole
  if t.fraction.isEmpty && t.exponent.isNone then
    if !negative && n < UInt64.size then some (.natural n.toUInt64)
    else if h : negative = true ∧ 0 < n ∧ n ≤ 0x8000000000000000 then some (.negSucc ⟨n - 1, by omega⟩)
    else t.binary? negative
  else t.binary? negative

end Accounts.Json

/-!
# Decimal numerals of 32-bit numbers

A numeral is an optional plus sign and at least one digit. `readWord` reads it from left to
right and reports the first fault it meets.
-/

namespace Accounts.Text

namespace Numeral

/-- Why a text is not the numeral of a 32-bit number. -/
inductive Fault
  | empty
  | invalidDigit
  | tooLarge
  deriving DecidableEq, Repr

def Fault.message : Fault → String
  | .empty => "cannot parse integer from empty string"
  | .invalidDigit => "invalid digit found in string"
  | .tooLarge => "number too large to fit in target type"

/-- The value of a decimal digit. -/
def digit? (c : Char) : Option Nat :=
  if '0' ≤ c ∧ c ≤ '9' then some (c.toNat - '0'.toNat) else none

/-- Reads digits onto `value`; at each character a bad digit is noticed before an overflow. -/
def readDigits (limit : Nat) : Nat → List Char → Except Fault Nat
  | value, [] => .ok value
  | value, c :: rest =>
    match digit? c with
    | none => .error .invalidDigit
    | some d =>
      if value * 10 + d ≤ limit then readDigits limit (value * 10 + d) rest
      else .error .tooLarge

/-- A sign needs a digit after it. -/
def readChars (limit : Nat) : List Char → Except Fault Nat
  | [] => .error .empty
  | ['+'] => .error .invalidDigit
  | '+' :: rest => readDigits limit 0 rest
  | cs => readDigits limit 0 cs

end Numeral

/-- The 32-bit number that a numeral stands for. -/
def readWord (s : String) : Except Numeral.Fault UInt32 :=
  (Numeral.readChars (UInt32.size - 1) s.toList).map Nat.toUInt32

end Accounts.Text

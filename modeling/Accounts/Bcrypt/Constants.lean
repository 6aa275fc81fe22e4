/-!
# The constants of the cipher

The cipher starts from the binary digits of π behind the point, cut into words. They are computed
from Machin's formula `π = 16 arctan (1/5) - 4 arctan (1/239)`, with some digits to spare.
-/

namespace Accounts.Bcrypt

/-- The terms of `power / odd - power / (square (odd + 2)) + …` until `power` vanishes. -/
def alternating (square : Nat) : Nat → Nat → Nat → Int
  | 0, _, _ => 0
  | fuel + 1, power, odd =>
    if power = 0 then 0
    else (power / odd : Nat) - alternating square fuel (power / square) (odd + 2)

/-- `2 ^ bits * arctan (1 / x)`, too small by less than a unit per term. -/
def arctanInverse (bits x : Nat) : Int :=
  alternating (x * x) bits ((1 <<< bits) / x) 1

/-- Words in a key schedule: the round keys, then four boxes. -/
def scheduleSize : Nat := 18 + 4 * 256

def piBits : Nat := 32 * scheduleSize

/-- Digits to spare for the errors of the series. -/
def spareBits : Nat := 64

/-- The digits of π behind the point, as one number. -/
def piFraction : Nat :=
  let bits := piBits + spareBits
  let pi := 16 * arctanInverse bits 5 - 4 * arctanInverse bits 239
  (pi.toNat >>> spareBits) % (1 <<< piBits)

def piWord (fraction index : Nat) : UInt32 :=
  (fraction >>> (piBits - 32 * (index + 1))).toUInt32

def piWords : Array UInt32 :=
  let fraction := piFraction
  (Array.range scheduleSize).map (piWord fraction)

end Accounts.Bcrypt

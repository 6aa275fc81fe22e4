/-!
# Shortest decimals of binary64 values

`shortest` finds the fewest digits that lie between the neighbours of a binary64 value, and of
those the nearest. `Binary64.text` writes them: positionally from 10⁻⁵ to below 10¹⁶, and with an
exponent elsewhere.
-/

namespace Accounts.Decimal

/-- A positive binary64 value `mantissa * 2 ^ exponent`. -/
structure Dyadic where
  mantissa : Nat
  exponent : Int
  /-- The value below is half as far as the value above. -/
  atPowerOfTwo : Bool

/-- The magnitude of a finite value other than zero, by its bits. -/
def Dyadic.ofBits (bits : UInt64) : Dyadic :=
  let fraction := (bits &&& 0xFFFFFFFFFFFFF).toNat
  let biased := (bits >>> 52 &&& 0x7FF).toNat
  if biased = 0 then ⟨fraction, -1074, false⟩
  else ⟨fraction + 0x10000000000000, (biased : Int) - 1075, fraction == 0 && biased != 1⟩

/-- The values that round to a dyadic, between `low / den` and `high / den`. -/
structure Interval where
  low : Nat
  value : Nat
  high : Nat
  den : Nat
  /-- Whether the ends belong to it. -/
  closed : Bool

def Dyadic.interval (d : Dyadic) : Interval :=
  let up := 1 <<< d.exponent.toNat
  { low := (4 * d.mantissa - if d.atPowerOfTwo then 1 else 2) * up
    value := 4 * d.mantissa * up
    high := (4 * d.mantissa + 2) * up
    den := 4 <<< (-d.exponent).toNat
    closed := d.mantissa % 2 == 0 }

/-- The greatest `e` with `10 ^ e ≤ num / den`, looked for within `fuel` places of one. -/
def decade (num den : Nat) : Nat → Int
  | 0 => 0
  | fuel + 1 =>
    if num < den then decade (num * 10) den fuel - 1
    else if num < den * 10 then 0
    else decade num (den * 10) fuel + 1

/-- Significant digits as one number, and the power of ten of the last of them. -/
structure Digits where
  digits : Nat
  scale : Int
  deriving DecidableEq, Repr

/-- The multiple of `10 ^ scale` in the interval that is nearest to its value; a tie goes to
the even one. -/
def Interval.gridPoint? (i : Interval) (scale : Int) : Option Digits :=
  let unit := Nat.pow 10 scale.toNat * i.den
  let stretch := Nat.pow 10 (-scale).toNat
  let value := i.value * stretch
  let below := value / unit
  let inside (k : Nat) : Bool :=
    let point := k * unit
    if i.closed then i.low * stretch ≤ point && point ≤ i.high * stretch
    else i.low * stretch < point && point < i.high * stretch
  let rest := value - below * unit
  let above := below + 1
  let nearerBelow := 2 * rest < unit || (2 * rest == unit && below % 2 == 0)
  match inside below, inside above with
  | true, true => some ⟨if nearerBelow then below else above, scale⟩
  | true, false => some ⟨below, scale⟩
  | false, true => some ⟨above, scale⟩
  | false, false => none

/-- Without the zeros at its end. -/
def Digits.strip (d : Digits) : Nat → Digits
  | 0 => d
  | fuel + 1 =>
    if d.digits % 10 == 0 && d.digits != 0 then strip ⟨d.digits / 10, d.scale + 1⟩ fuel else d

/-- The fewest digits that read back as this value. -/
def shortest (d : Dyadic) : Digits :=
  let i := d.interval
  let top := decade i.value i.den 400
  let grids := (List.range 17).filterMap fun n : Nat => i.gridPoint? (top - (n : Int))
  (grids.headD ⟨0, 0⟩).strip 20

end Accounts.Decimal

namespace Accounts.Binary64

open Accounts.Decimal

def isNegative (bits : UInt64) : Bool :=
  bits >>> 63 == 1

/-- Digits with a point in them; `top` is the power of ten of the first digit. -/
def positional (digits : String) (top : Int) : String :=
  let zeros (n : Int) : String := String.ofList (List.replicate n.toNat '0')
  let count : Int := digits.length
  if count - 1 ≤ top then digits ++ zeros (top + 1 - count) ++ ".0"
  else if 0 ≤ top then
    let cut := (top + 1).toNat
    String.ofList (digits.toList.take cut) ++ "." ++ String.ofList (digits.toList.drop cut)
  else "0." ++ zeros (-top - 1) ++ digits

/-- One digit, the others behind a point, and the exponent with its sign. -/
def scientific (digits : String) (top : Int) : String :=
  let lead := digits.toList.take 1
  let others := digits.toList.drop 1
  let tail := if others.isEmpty then [] else '.' :: others
  String.ofList (lead ++ tail) ++ "e" ++ (if top < 0 then "-" else "+") ++ toString top.natAbs

/-- The text of a finite binary64 value. -/
def text (bits : UInt64) : String :=
  let sign := if isNegative bits then "-" else ""
  if bits &&& 0x7FFFFFFFFFFFFFFF == 0 then sign ++ "0.0"
  else
    let d := shortest (.ofBits bits)
    let digits := toString d.digits
    let top := d.scale + digits.length - 1
    sign ++ if -5 ≤ top && top ≤ 15 then positional digits top else scientific digits top

/-- `significand * 10 ^ exponent` in one rounded step of binary64 arithmetic per 308 decimal
places, and nothing beyond the largest finite value. -/
def ofParts? (negative : Bool) (significand : UInt64) (exponent : Int) : Option UInt64 :=
  let signed (x : Float) : UInt64 := (if negative then -x else x).toBits
  let start := significand.toFloat
  if exponent < 0 then some (signed (shrink start (-exponent).toNat))
  else if significand == 0 then some (signed start)
  else if 308 < exponent then none
  else
    let x := start * Float.ofScientific 1 false exponent.toNat
    if x.isInf then none else some (signed x)
where
  /-- Divides by `10 ^ places`; a value that has vanished stays as it is. -/
  shrink (x : Float) (places : Nat) : Float :=
    if places ≤ 308 then x / Float.ofScientific 1 false places
    else if x == 0 then x
    else shrink (x / 1e308) (places - 308)
  termination_by places

end Accounts.Binary64

import Accounts.Text.Blank

/-!
# Punycode

A text as ASCII letters, digits and hyphens: its ASCII characters as they are, and behind the
last hyphen the steps at which the other characters are inserted, in the order of their code
points. The numbers have variable length, and their bias adapts to the steps before.
-/

namespace Accounts.Hostname.Punycode

def base : Nat := 36
def minThreshold : Nat := 1
def maxThreshold : Nat := 26
def skew : Nat := 38
def damping : Nat := 700
def initialBias : Nat := 72
def initialCode : Nat := 128

def digitChar (d : Nat) : Char :=
  Char.ofNat (if d < 26 then 'a'.toNat + d else '0'.toNat + (d - 26))

def digit? (c : Char) : Option Nat :=
  if 'a' ≤ c ∧ c ≤ 'z' then some (c.toNat - 'a'.toNat)
  else if 'A' ≤ c ∧ c ≤ 'Z' then some (c.toNat - 'A'.toNat)
  else if '0' ≤ c ∧ c ≤ '9' then some (c.toNat - '0'.toNat + 26)
  else none

/-- Below the threshold a digit ends its number. -/
def threshold (bias position : Nat) : Nat :=
  max minThreshold (min maxThreshold (position - bias))

theorem one_le_threshold (bias position : Nat) : 1 ≤ threshold bias position :=
  Nat.le_max_left _ _

theorem threshold_le (bias position : Nat) : threshold bias position ≤ 26 :=
  Nat.max_le.mpr ⟨by decide, Nat.min_le_left _ _⟩

/-- The bias for a step: large steps are divided until they are small, small ones count in
proportion. -/
def scaleDown (delta bias : Nat) : Nat :=
  if 455 < delta then scaleDown (delta / 35) (bias + base)
  else bias + base * delta / (delta + skew)
termination_by delta
decreasing_by exact Nat.div_lt_self (by omega) (by omega)

/-- The bias behind a step, when `count` characters are in place. -/
def adapt (delta count : Nat) (first : Bool) : Nat :=
  let delta := if first then delta / damping else delta / 2
  scaleDown (delta + delta / count) 0

/-- The digits of a step. -/
def numeral (bias position delta : Nat) : List Char :=
  let t := threshold bias position
  if delta < t then [digitChar delta]
  else digitChar (t + (delta - t) % (base - t)) ::
    numeral bias (position + base) ((delta - t) / (base - t))
termination_by delta
decreasing_by
  have h := one_le_threshold bias position
  exact Nat.lt_of_le_of_lt (Nat.div_le_self _ _) (by omega)

/-- A number, and what follows its digits. -/
def readNumeral (bias : Nat) : Nat → Nat → Nat → List Char → Option (Nat × List Char)
  | _, _, _, [] => none
  | position, weight, value, c :: rest => do
    let d ← digit? c
    let t := threshold bias position
    if d < t then return (value + d * weight, rest)
    else readNumeral bias (position + base) (weight * (base - t)) (value + d * weight) rest

theorem length_of_readNumeral {bias position weight value : Nat} {cs : List Char}
    {r : Nat × List Char} (h : readNumeral bias position weight value cs = some r) :
    r.2.length < cs.length := by
  induction cs generalizing position weight value with
  | nil => simp [readNumeral] at h
  | cons c rest ih =>
    simp only [readNumeral, Option.bind_eq_bind, Option.bind_eq_some_iff] at h
    obtain ⟨d, -, h⟩ := h
    split at h
    · cases h
      simp
    · exact Nat.lt_succ_of_lt (ih h)

/-- The characters of Unicode, as far as they are no surrogates. -/
def isScalar (code : Nat) : Bool :=
  code < 0xD800 || (0xDFFF < code && code < 0x110000)

/-- Inserts characters into `placed` as the numerals say. -/
def insertFrom (placed : List Char) (code index bias : Nat) (cs : List Char) :
    Option (List Char) :=
  match _h : readNumeral bias base 1 index cs with
  | none => if cs.isEmpty then some placed else none
  | some (value, rest) =>
    let count := placed.length + 1
    let code := code + value / count
    if isScalar code then
      insertFrom (placed.insertIdx (value % count) (Char.ofNat code)) code (value % count + 1)
        (adapt (value - index) count (index = 0)) rest
    else none
termination_by cs.length
decreasing_by exact length_of_readNumeral ‹_›

/-- The text that ASCII characters stand for. A hyphen needs something in front of it. -/
def decode? (cs : List Char) : Option (List Char) :=
  if cs.contains '-' then
    let tail := (cs.reverse.takeWhile (· != '-')).reverse
    let plain := cs.take (cs.length - tail.length - 1)
    if plain.isEmpty then none else insertFrom plain initialCode 0 initialBias tail
  else insertFrom [] initialCode 0 initialBias cs

/-- Where an encoder stands: the step to the next insertion, the bias, the number of characters
in place, and the digits so far. -/
structure Progress where
  delta : Nat
  bias : Nat
  placed : Nat
  digits : List Char

/-- Passes a character while the characters with this code are inserted. -/
def Progress.pass (plain code : Nat) (p : Progress) (c : Char) : Progress :=
  if c.toNat < code then { p with delta := p.delta + 1 }
  else if c.toNat = code then
    { delta := 0
      bias := adapt p.delta (p.placed + 1) (p.placed = plain)
      placed := p.placed + 1
      digits := p.digits ++ numeral p.bias base p.delta }
  else p

/-- Inserts the characters of each code in turn, `code` being the first that may come. -/
def Progress.insertCodes (text : List Char) (plain : Nat) :
    Nat → List Nat → Progress → Progress
  | _, [], p => p
  | code, next :: rest, p =>
    let start := { p with delta := p.delta + (next - code) * (p.placed + 1) }
    let done := text.foldl (Progress.pass plain next) start
    insertCodes text plain (next + 1) rest { done with delta := done.delta + 1 }

def encode (cs : List Char) : List Char :=
  let plain := cs.filter (·.toNat < initialCode)
  let codes := (((cs.map Char.toNat).filter (initialCode ≤ ·)).mergeSort).eraseDups
  let done := Progress.insertCodes cs plain.length initialCode codes
    ⟨0, initialBias, plain.length, []⟩
  (if plain.isEmpty then [] else plain ++ ['-']) ++ done.digits

end Accounts.Hostname.Punycode

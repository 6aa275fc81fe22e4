import Accounts.Text.Blank
import Accounts.Text.CodePoints

/-!
# Addresses of the internet protocol

The texts of addresses of versions 4 and 6. Numbers of version 4 have no leading zeros; in
version 6 two colons stand for at least one group, and the last two groups may be written as an
address of version 4.
-/

namespace Accounts.IpAddress

def isDigit (c : Char) : Bool :=
  '0' ≤ c && c ≤ '9'

/-- A number up to 255, in as few digits as it takes. -/
def isOctet (cs : List Char) : Bool :=
  !cs.isEmpty && cs.length ≤ 3 && cs.all isDigit && (cs.head? != some '0' || cs.length == 1) &&
    cs.foldl (fun n c => n * 10 + (c.toNat - '0'.toNat)) 0 ≤ 255

def isV4 (cs : List Char) : Bool :=
  let octets := Text.pieces '.' cs
  octets.length == 4 && octets.all isOctet

/-- A group of one to four hexadecimal digits. -/
def isGroup (cs : List Char) : Bool :=
  !cs.isEmpty && cs.length ≤ 4 && cs.all fun c => (Text.hexDigit? c).isSome

/-- How many groups a list of pieces is; only the last may be an address of version 4. -/
def groupCount? : List (List Char) → Option Nat
  | [] => some 0
  | [last] => if isGroup last then some 1 else if isV4 last then some 2 else none
  | piece :: rest => if isGroup piece then (groupCount? rest).map (· + 1) else none

/-- What stands in front of the first two colons in a row, and what stands behind them. -/
def splitGap : List Char → Option (List Char × List Char)
  | ':' :: ':' :: rest => some ([], rest)
  | c :: rest => (splitGap rest).map fun (front, back) => (c :: front, back)
  | [] => none

/-- The groups of one side of a gap, which may have none. -/
def sideCount? (cs : List Char) : Option Nat :=
  if cs.isEmpty then some 0 else groupCount? (Text.pieces ':' cs)

def isV6 (cs : List Char) : Bool :=
  match splitGap cs with
  | none => groupCount? (Text.pieces ':' cs) == some 8
  | some (front, back) =>
    match sideCount? front, sideCount? back with
    | some m, some n => m + n ≤ 7 && !front.contains '.'
    | _, _ => false

def isValid (cs : List Char) : Bool :=
  isV4 cs || isV6 cs

end Accounts.IpAddress

import Accounts.Json.Printer
import Accounts.Text.Blank
import Accounts.Text.Bytes
import Accounts.Text.CodePoints

/-!
# UUIDs

A UUID is written in five hyphenated groups of small hexadecimal digits. It is read in four
spellings, in letters of either case: hyphenated, as 32 digits, in braces, or behind `urn:uuid:`.
-/

namespace Accounts

structure Uuid where
  bits : BitVec 128
  deriving DecidableEq, Repr

namespace Uuid

/-- The number whose big-endian bytes the UUID is. -/
def toNat (u : Uuid) : Nat :=
  u.bits.toNat

/-- The digit at `index`, from the left. -/
def digit (u : Uuid) (index : Nat) : Char :=
  Json.hexDigit ((u.toNat >>> (4 * (31 - index))) % 16)

/-- The 32 digits. -/
def digits (u : Uuid) : List Char :=
  (List.range 32).map u.digit

/-- Digits in five groups. -/
def hyphenate (digits : List Char) : List Char :=
  digits.take 8 ++ '-' :: (digits.drop 8).take 4 ++ '-' :: (digits.drop 12).take 4 ++
    '-' :: (digits.drop 16).take 4 ++ '-' :: digits.drop 20

def text (u : Uuid) : String :=
  String.ofList (hyphenate u.digits)

/-- The version field. -/
def version (u : Uuid) : Nat :=
  (u.toNat >>> 76) % 16

/-- A UUID of version 4: random but for the fields of the version and the variant. -/
def ofRandom (n : Nat) : Uuid :=
  let low := n % 0x4000000000000000
  let middle := (n >>> 62) % 0x1000
  let high := (n >>> 74) % 0x1000000000000
  ⟨BitVec.ofNat 128 (high * 0x100000000000000000000 + (0x4000 + middle) * 0x10000000000000000 +
    0x8000000000000000 + low)⟩

theorem version_ofRandom (n : Nat) : (ofRandom n).version = 4 := by
  have hl : n % 0x4000000000000000 < 0x4000000000000000 := Nat.mod_lt _ (by decide)
  have hm : (n >>> 62) % 0x1000 < 0x1000 := Nat.mod_lt _ (by decide)
  have hh : (n >>> 74) % 0x1000000000000 < 0x1000000000000 := Nat.mod_lt _ (by decide)
  simp only [version, toNat, ofRandom, BitVec.toNat_ofNat]
  generalize n % 0x4000000000000000 = low at hl ⊢
  generalize (n >>> 62) % 0x1000 = middle at hm ⊢
  generalize (n >>> 74) % 0x1000000000000 = high at hh ⊢
  rw [Nat.shiftRight_eq_div_pow]
  omega

inductive Fault
  | character (c : Char) (index : Nat)
  | length (found : Nat)
  | groupCount (found : Nat)
  | groupLength (group expected found : Nat)
  deriving DecidableEq, Repr

def Fault.message : Fault → String
  | .character c index =>
    "invalid character: found `" ++ String.ofList [c] ++ "` at " ++ toString index
  | .length found => "invalid length: found " ++ toString found
  | .groupCount found => "invalid group count: expected 5, found " ++ toString found
  | .groupLength group expected found =>
    "invalid group length in group " ++ toString group ++ ": expected " ++ toString expected ++
      ", found " ++ toString found

def isHex (c : Char) : Bool :=
  (Text.hexDigit? c).isSome

def groupLengths : List Nat := [8, 4, 4, 4, 12]

/-- The digits of five groups of the right lengths. -/
def hyphenated? (cs : List Char) : Option (List Char) :=
  let groups := Text.pieces '-' cs
  if groups.map List.length = groupLengths ∧ groups.flatten.all isHex then some groups.flatten
  else none

def simple? (cs : List Char) : Option (List Char) :=
  if cs.length = 32 ∧ cs.all isHex then some cs else none

/-- What stands between braces. -/
def braced? : List Char → Option (List Char)
  | '{' :: rest => if rest.getLast? = some '}' then some rest.dropLast else none
  | _ => none

def urnPrefix : List Char := "urn:uuid:".toList

/-- What stands behind the prefix of a URN, in letters of either case. -/
def urn? (cs : List Char) : Option (List Char) :=
  if (cs.take urnPrefix.length).map Char.toLower = urnPrefix then some (cs.drop urnPrefix.length)
  else none

/-- The 32 digits that a text spells. -/
def digits? (cs : List Char) : Option (List Char) :=
  simple? cs <|> hyphenated? cs <|> (braced? cs).bind hyphenated? <|> (urn? cs).bind hyphenated?

/-- The first character that is neither a digit nor a hyphen, and the bytes in front of it. -/
def strayFrom? (index : Nat) : List Char → Option (Char × Nat)
  | [] => none
  | c :: rest =>
    if c = '-' ∨ isHex c then strayFrom? (index + c.utf8Size) rest else some (c, index)

/-- The first of the first four groups that has the wrong length. -/
def badGroup? (group : Nat) : List (List Char) → List Nat → Option Fault
  | found :: groups, expected :: lengths =>
    if found.length = expected then badGroup? (group + 1) groups lengths
    else if lengths.isEmpty then none
    else some (.groupLength group expected found.length)
  | _, _ => none

/-- The bytes of five groups and the hyphens between them. -/
def groupedLength : Nat := 36

/-- The bytes of the longest spelling, which is that of a URN. -/
def longest : Nat := 45

/-- What must be five groups, in a text whose bytes are as many as those of a spelling with groups
in it. -/
def groupsOf? (cs : List Char) : Option (List Char) :=
  if Text.byteLength cs = groupedLength then some cs
  else ((braced? cs).orElse fun _ => urn? cs).filter (Text.byteLength · = groupedLength)

/-- What is wrong with groups that begin `offset` bytes behind the front of a text of `size`
bytes: a stray character, their number, or the length of one, in this order. To the last group
counts all but the bytes of the others. -/
def diagnoseGroups (offset size : Nat) (body : List Char) : Fault :=
  match strayFrom? offset body with
  | some (c, index) => .character c index
  | none =>
    let groups := Text.pieces '-' body
    if groups.length ≠ 5 then .groupCount groups.length
    else (badGroup? 0 groups groupLengths).getD (.groupLength 4 12 (size - 24))

/-- Why a text is no spelling. Where its length is that of a spelling with groups, the groups are
to blame, and characters are counted from the first of them. -/
def diagnose (cs : List Char) : Fault :=
  let size := Text.byteLength cs
  match groupsOf? cs with
  | some body => diagnoseGroups 0 groupedLength body
  | none =>
    if longest < size then .length size
    else match braced? cs, urn? cs with
      | some inner, _ => diagnoseGroups 1 size inner
      | none, some rest => diagnoseGroups urnPrefix.length size rest
      | none, none =>
        if cs.all isHex then .length size else diagnoseGroups 0 size cs

def parse (s : String) : Except Fault Uuid :=
  match digits? s.toList with
  | some digits => .ok ⟨BitVec.ofNat 128 (Text.hexValue digits)⟩
  | none => .error (diagnose s.toList)

end Uuid

end Accounts

/-!
# Sets of code points

Character properties are kept as lists of ranges, written in hexadecimal: `41-5a 61` is the set
of the capital Latin letters and the small `a`.
-/

namespace Accounts.Text

/-- The value of a hexadecimal digit. -/
def hexDigit? (c : Char) : Option Nat :=
  if '0' ≤ c ∧ c ≤ '9' then some (c.toNat - '0'.toNat)
  else if 'a' ≤ c ∧ c ≤ 'f' then some (c.toNat - 'a'.toNat + 10)
  else if 'A' ≤ c ∧ c ≤ 'F' then some (c.toNat - 'A'.toNat + 10)
  else none

/-- The number that a run of hexadecimal digits stands for; other characters count as zeros. -/
def hexValue (cs : List Char) : Nat :=
  cs.foldl (fun n c => n * 16 + (hexDigit? c).getD 0) 0

/-- The words of a table, which are separated by blanks and line ends. -/
def words (table : String) : List (List Char) :=
  (pieces [] table.toList).filter (!·.isEmpty)
where
  pieces (word : List Char) : List Char → List (List Char)
    | [] => [word.reverse]
    | c :: rest =>
      if c == ' ' || c == '\n' then word.reverse :: pieces [] rest else pieces (c :: word) rest

/-- A code point, or two with a hyphen between them. -/
def rangeOf (word : List Char) : Nat × Nat :=
  match word.span (· != '-') with
  | (low, []) => (hexValue low, hexValue low)
  | (low, _ :: high) => (hexValue low, hexValue high)

structure CodePoints where
  ranges : List (Nat × Nat)

namespace CodePoints

def ofTable (table : String) : CodePoints :=
  ⟨(words table).map rangeOf⟩

def contains (s : CodePoints) (c : Char) : Bool :=
  s.ranges.any fun (low, high) => low ≤ c.toNat && c.toNat ≤ high

end CodePoints

end Accounts.Text

import Accounts.Text.Blank
import Accounts.Text.Numeral

/-!
# Pages of a listing

A page is a one-based number and a count of rows, neither of them zero. Requests give both as
texts; a blank text asks for the default.
-/

namespace Accounts

inductive PageError
  | invalidNumber (cause : Text.Numeral.Fault)
  | invalidRows (cause : Text.Numeral.Fault)
  | rowsTooLarge (max : UInt32)
  | numberTooSmall
  | rowsTooSmall
  deriving DecidableEq, Repr

def PageError.message : PageError → String
  | .invalidNumber cause => "page conversion: " ++ cause.message
  | .invalidRows cause => "rows conversion: " ++ cause.message
  | .rowsTooLarge max => "rows value too large, must be less than " ++ toString max.toNat
  | .numberTooSmall => "page value too small, must be larger than 0"
  | .rowsTooSmall => "rows value too small, must be larger than 0"

/-- Which page, and how many rows each page has. -/
structure Page where
  number : UInt32
  rows : UInt32
  number_ne_zero : number ≠ 0
  rows_ne_zero : rows ≠ 0
  deriving DecidableEq, Repr

namespace Page

/-- The number is judged before the rows. -/
def new (number rows : UInt32) : Except PageError Page :=
  if hn : number = 0 then .error .numberTooSmall
  else if hr : rows = 0 then .error .rowsTooSmall
  else .ok ⟨number, rows, hn, hr⟩

/-- The first page of ten rows. -/
def default : Page :=
  ⟨1, 10, by decide, by decide⟩

instance : Inhabited Page := ⟨default⟩

/-- The number a request text stands for, `blank` if it is blank. -/
def readOr (blank : UInt32) (s : String) : Except Text.Numeral.Fault UInt32 :=
  let trimmed := Text.trim s
  if trimmed = "" then .ok blank else Text.readWord trimmed

/-- Both texts are read before any limit is judged. -/
def parse (page rows : String) (defaultRows maxRows : UInt32) : Except PageError Page := do
  let number ← (readOr 1 page).mapError .invalidNumber
  let count ← (readOr defaultRows rows).mapError .invalidRows
  if maxRows < count then .error (.rowsTooLarge maxRows) else new number count

/-- The largest number of rows that a listing can skip. -/
def maxOffset : Nat := UInt64.size - 1

/-- How many rows stand before this page. -/
def offset (p : Page) : Nat :=
  min ((p.number.toNat - 1) * p.rows.toNat) maxOffset

theorem offset_eq (p : Page) : p.offset = (p.number.toNat - 1) * p.rows.toNat := by
  apply Nat.min_eq_left
  have hn := p.number.toNat_lt
  have hr := p.rows.toNat_lt
  calc (p.number.toNat - 1) * p.rows.toNat
      ≤ 0xFFFFFFFF * 0xFFFFFFFF := Nat.mul_le_mul (by omega) (by omega)
    _ ≤ maxOffset := by decide

end Page

end Accounts

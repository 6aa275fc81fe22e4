/-!
# Base 64 without padding

Three bytes make four digits. At the end of a text two digits make one byte and three make two;
the bits that are left over must be zero.
-/

namespace Accounts.Bcrypt

def base64Digits : List Char :=
  "./ABCDEFGHIJKLMNOPQRSTUVWXYZabcdefghijklmnopqrstuvwxyz0123456789".toList

def base64Digit (n : Nat) : Char :=
  base64Digits.getD n '.'

def base64Value? (c : Char) : Option Nat :=
  base64Digits.findIdx? (· == c)

def encode64 : List UInt8 → List Char
  | [] => []
  | [a] => [base64Digit (a.toNat / 4), base64Digit (a.toNat % 4 * 16)]
  | [a, b] =>
    [base64Digit (a.toNat / 4), base64Digit (a.toNat % 4 * 16 + b.toNat / 16),
      base64Digit (b.toNat % 16 * 4)]
  | a :: b :: c :: rest =>
    base64Digit (a.toNat / 4) :: base64Digit (a.toNat % 4 * 16 + b.toNat / 16) ::
      base64Digit (b.toNat % 16 * 4 + c.toNat / 64) :: base64Digit (c.toNat % 64) ::
      encode64 rest

/-- The bytes of digits with these values. -/
def decodeValues? : List Nat → Option (List UInt8)
  | [] => some []
  | [_] => none
  | [w, x] => if x % 16 = 0 then some [(w * 4 + x / 16).toUInt8] else none
  | [w, x, y] =>
    if y % 4 = 0 then some [(w * 4 + x / 16).toUInt8, (x % 16 * 16 + y / 4).toUInt8] else none
  | w :: x :: y :: z :: rest =>
    (decodeValues? rest).map fun bytes =>
      (w * 4 + x / 16).toUInt8 :: (x % 16 * 16 + y / 4).toUInt8 :: (y % 4 * 64 + z).toUInt8 ::
        bytes

def decode64? (cs : List Char) : Option (List UInt8) :=
  (cs.mapM base64Value?).bind decodeValues?

end Accounts.Bcrypt

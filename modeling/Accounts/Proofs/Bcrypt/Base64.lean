import Accounts.Bcrypt.Base64
import Mathlib.Data.UInt

/-!
# Reading base 64 back

What is written in base 64 is read back as the same bytes, and every character of it is one of
the 64 digits.
-/

namespace Accounts.Bcrypt

theorem base64Digit_mem : ∀ n < 64, base64Digit n ∈ base64Digits := by decide

theorem base64Value?_digit : ∀ n < 64, base64Value? (base64Digit n) = some n := by decide

/-- The values of the digits that bytes are written in. -/
def sextets : List UInt8 → List Nat
  | [] => []
  | [a] => [a.toNat / 4, a.toNat % 4 * 16]
  | [a, b] => [a.toNat / 4, a.toNat % 4 * 16 + b.toNat / 16, b.toNat % 16 * 4]
  | a :: b :: c :: rest =>
    a.toNat / 4 :: (a.toNat % 4 * 16 + b.toNat / 16) :: (b.toNat % 16 * 4 + c.toNat / 64) ::
      c.toNat % 64 :: sextets rest

theorem encode64_eq (bytes : List UInt8) : encode64 bytes = (sextets bytes).map base64Digit := by
  fun_induction sextets bytes with
  | case1 => rfl
  | case2 => rfl
  | case3 => rfl
  | case4 a b c rest ih => simp [encode64, ih]

theorem sextets_lt (bytes : List UInt8) : ∀ n ∈ sextets bytes, n < 64 := by
  fun_induction sextets bytes with
  | case1 => simp
  | case2 a =>
    have ha := a.toNat_lt
    simp only [List.forall_mem_cons]
    refine ⟨?_, ?_, by simp⟩ <;> omega
  | case3 a b =>
    have ha := a.toNat_lt
    have hb := b.toNat_lt
    simp only [List.forall_mem_cons]
    refine ⟨?_, ?_, ?_, by simp⟩ <;> omega
  | case4 a b c rest ih =>
    have ha := a.toNat_lt
    have hb := b.toNat_lt
    have hc := c.toNat_lt
    simp only [List.forall_mem_cons]
    refine ⟨?_, ?_, ?_, ?_, ih⟩ <;> omega

theorem toUInt8_eq {n : Nat} {byte : UInt8} (h : n = byte.toNat) : n.toUInt8 = byte := by
  subst h
  exact UInt8.ofNat_toNat

section
variable (a b c : UInt8)

/-- The first byte of a group has six bits in the first digit and two in the second; the other
four of the second digit, `low`, belong to the next byte. -/
theorem first_byte {low : Nat} (h : low < 16) :
    (a.toNat / 4 * 4 + (a.toNat % 4 * 16 + low) / 16).toUInt8 = a :=
  toUInt8_eq (by omega)

theorem second_byte (high : Nat) {low : Nat} (h : low < 4) :
    ((high * 16 + b.toNat / 16) % 16 * 16 + (b.toNat % 16 * 4 + low) / 4).toUInt8 = b := by
  have hb := b.toNat_lt
  exact toUInt8_eq (by omega)

theorem third_byte (high : Nat) :
    ((high * 4 + c.toNat / 64) % 4 * 64 + c.toNat % 64).toUInt8 = c := by
  have hc := c.toNat_lt
  exact toUInt8_eq (by omega)

end

theorem decodeValues?_sextets (bytes : List UInt8) :
    decodeValues? (sextets bytes) = some bytes := by
  fun_induction sextets bytes with
  | case1 => rfl
  | case2 a =>
    have ha := first_byte a (show 0 < 16 by decide)
    rw [Nat.add_zero] at ha
    rw [decodeValues?, if_pos (by omega), ha]
  | case3 a b =>
    have hb := b.toNat_lt
    have hlast := second_byte b (a.toNat % 4) (show 0 < 4 by decide)
    rw [Nat.add_zero] at hlast
    rw [decodeValues?, if_pos (by omega), first_byte a (by omega), hlast]
  | case4 a b c rest ih =>
    have hb := b.toNat_lt
    have hc := c.toNat_lt
    rw [decodeValues?, ih, Option.map_some, first_byte a (by omega), second_byte b _ (by omega),
      third_byte]

theorem mapM_base64Value? (values : List Nat) (h : ∀ n ∈ values, n < 64) :
    (values.map base64Digit).mapM base64Value? = some values := by
  induction values with
  | nil => rfl
  | cons n rest ih =>
    obtain ⟨hn, hrest⟩ := List.forall_mem_cons.mp h
    rw [List.map_cons, List.mapM_cons, base64Value?_digit n hn, ih hrest]
    rfl

theorem decode64?_encode64 (bytes : List UInt8) : decode64? (encode64 bytes) = some bytes := by
  rw [decode64?, encode64_eq, mapM_base64Value? _ (sextets_lt bytes), Option.bind_some,
    decodeValues?_sextets]

theorem mem_base64Digits_of_encode64 {bytes : List UInt8} {c : Char} (h : c ∈ encode64 bytes) :
    c ∈ base64Digits := by
  rw [encode64_eq] at h
  obtain ⟨n, hn, rfl⟩ := List.mem_map.mp h
  exact base64Digit_mem n (sextets_lt bytes n hn)

theorem length_encode64 (bytes : List UInt8) :
    (encode64 bytes).length = (4 * bytes.length + 2) / 3 := by
  rw [encode64_eq, List.length_map]
  fun_induction sextets bytes with
  | case1 => rfl
  | case2 => simp
  | case3 => simp
  | case4 a b c rest ih =>
    simp only [List.length_cons, ih]
    omega

end Accounts.Bcrypt

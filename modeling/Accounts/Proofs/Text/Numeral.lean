import Accounts.Proofs.Text.Blank
import Accounts.Text.Numeral

/-!
# What numerals stand for

The digits of a numeral are read onto a value that never shrinks, so that the first overflow is one
of the whole numeral. What is read is what the digits stand for, and every numeral within the limit
is read.
-/

namespace Accounts.Text

namespace Numeral

/-- Digits stand for a number, and so they do with one plus sign in front of them. -/
inductive Denotes : List Char → Nat → Prop
  | plain {digits : List Char} (hne : digits ≠ []) (hd : ∀ c ∈ digits, c.isDigit = true) :
      Denotes digits (Nat.ofDigitChars 10 digits 0)
  | signed {digits : List Char} (hne : digits ≠ []) (hd : ∀ c ∈ digits, c.isDigit = true) :
      Denotes ('+' :: digits) (Nat.ofDigitChars 10 digits 0)

variable {limit value n : Nat} {c : Char} {cs : List Char}

theorem isDigit_iff : c.isDigit = true ↔ '0' ≤ c ∧ c ≤ '9' := by
  simp [Char.isDigit, Char.le_def]

theorem digit?_of_isDigit (h : c.isDigit = true) : digit? c = some (c.toNat - '0'.toNat) :=
  if_pos (isDigit_iff.mp h)

theorem digit?_of_not_isDigit (h : ¬c.isDigit = true) : digit? c = none :=
  if_neg (mt isDigit_iff.mpr h)

theorem le_ofDigitChars (value : Nat) (cs : List Char) : value ≤ Nat.ofDigitChars 10 cs value := by
  induction cs generalizing value with
  | nil => exact Nat.le_refl value
  | cons c cs ih =>
    rw [Nat.ofDigitChars_cons]
    have hnext := ih (10 * value + (c.toNat - '0'.toNat))
    omega

theorem readDigits_eq_ok_iff (hv : value ≤ limit) : readDigits limit value cs = .ok n ↔
    (∀ c ∈ cs, c.isDigit = true) ∧ Nat.ofDigitChars 10 cs value = n ∧ n ≤ limit := by
  induction cs generalizing value with
  | nil =>
    simp only [readDigits, Except.ok.injEq, List.not_mem_nil, false_implies, implies_true, true_and,
      Nat.ofDigitChars_nil]
    exact ⟨fun h => ⟨h, h ▸ hv⟩, And.left⟩
  | cons c cs ih =>
    rw [readDigits, List.forall_mem_cons, Nat.ofDigitChars_cons, Nat.mul_comm 10 value]
    by_cases hc : c.isDigit = true
    · rw [digit?_of_isDigit hc]
      dsimp only
      split
      · rename_i hfits
        rw [ih hfits]
        simp [hc]
      · -- the value that is too large already only grows
        rename_i hlarge
        have hgrows := le_ofDigitChars (value * 10 + (c.toNat - '0'.toNat)) cs
        constructor
        · intro h
          cases h
        · rintro ⟨-, rfl, hle⟩
          exact absurd (Nat.le_trans hgrows hle) hlarge
    · rw [digit?_of_not_isDigit hc]
      simp [hc]

theorem readChars_signed (limit : Nat) (h : cs ≠ []) :
    readChars limit ('+' :: cs) = readDigits limit 0 cs := by
  cases cs with
  | nil => exact absurd rfl h
  | cons c rest => rfl

theorem readChars_plain (limit : Nat) (h : c ≠ '+') :
    readChars limit (c :: cs) = readDigits limit 0 (c :: cs) := by
  unfold readChars
  split
  · rename_i heq
    cases heq
  · rename_i heq
    exact absurd (List.cons.inj heq).1 h
  · rename_i heq
    exact absurd (List.cons.inj heq).1 h
  · rfl

/-- A numeral within the limit is read, and nothing else is. -/
theorem readChars_eq_ok_iff : readChars limit cs = .ok n ↔ Denotes cs n ∧ n ≤ limit := by
  constructor
  · intro h
    cases cs with
    | nil => cases h
    | cons c rest =>
      by_cases hc : c = '+'
      · subst hc
        cases rest with
        | nil => cases h
        | cons d rest =>
          rw [readChars_signed limit (by simp)] at h
          obtain ⟨hd, rfl, hle⟩ := (readDigits_eq_ok_iff (Nat.zero_le limit)).mp h
          exact ⟨.signed (by simp) hd, hle⟩
      · rw [readChars_plain limit hc] at h
        obtain ⟨hd, rfl, hle⟩ := (readDigits_eq_ok_iff (Nat.zero_le limit)).mp h
        exact ⟨.plain (by simp) hd, hle⟩
  · rintro ⟨hdenotes, hle⟩
    cases hdenotes with
    | signed hne hd =>
      rw [readChars_signed limit hne]
      exact (readDigits_eq_ok_iff (Nat.zero_le limit)).mpr ⟨hd, rfl, hle⟩
    | plain hne hd =>
      cases cs with
      | nil => exact absurd rfl hne
      | cons c rest =>
        have hc : c ≠ '+' := by
          rintro rfl
          exact absurd (hd '+' (by simp)) (by decide)
        rw [readChars_plain limit hc]
        exact (readDigits_eq_ok_iff (Nat.zero_le limit)).mpr ⟨hd, rfl, hle⟩

theorem Denotes.ne_nil (h : Denotes cs n) : cs ≠ [] := by
  cases h with
  | plain hne hd => exact hne
  | signed hne hd => simp

theorem isBlank_of_isDigit (h : c.isDigit = true) : isBlank c = false := by
  obtain ⟨hlow, hhigh⟩ := isDigit_iff.mp h
  have hlow' : 0x30 ≤ c.toNat := hlow
  have hhigh' : c.toNat ≤ 0x39 := hhigh
  exact isBlank_of_ascii (by omega) (by omega)

theorem Denotes.bare (h : Denotes cs n) : Bare cs := by
  cases h with
  | plain hne hd => exact .of_forall fun c hc => isBlank_of_isDigit (hd c hc)
  | signed hne hd =>
    exact .of_forall (List.forall_mem_cons.mpr ⟨by decide, fun c hc => isBlank_of_isDigit (hd c hc)⟩)

/-- A number may be written with any number of zeros in front of its own digits. -/
theorem denotes_padded (zeros n : Nat) :
    Denotes (List.replicate zeros '0' ++ Nat.toDigits 10 n) n := by
  have hvalue : Nat.ofDigitChars 10 (List.replicate zeros '0' ++ Nat.toDigits 10 n) 0 = n := by
    rw [Nat.ofDigitChars_append, Nat.ofDigitChars_replicate_zero, Nat.mul_zero,
      Nat.ofDigitChars_ten_toDigits]
  have hdigits : ∀ c ∈ List.replicate zeros '0' ++ Nat.toDigits 10 n, c.isDigit = true := by
    intro c hc
    rcases List.mem_append.mp hc with hc | hc
    · rw [List.eq_of_mem_replicate hc]
      rfl
    · exact Nat.isDigit_of_mem_toDigits (by decide) (by decide) hc
  have hdenotes := Denotes.plain (by simp [Nat.toDigits_ne_nil]) hdigits
  rwa [hvalue] at hdenotes

end Numeral

theorem readWord_eq_ok_iff {s : String} {n : UInt32} :
    readWord s = .ok n ↔ Numeral.Denotes s.toList n.toNat := by
  have hsize : n.toNat ≤ UInt32.size - 1 := Nat.le_sub_one_of_lt n.toNat_lt
  constructor
  · intro h
    cases hread : Numeral.readChars (UInt32.size - 1) s.toList with
    | error fault =>
      rw [readWord, hread] at h
      cases h
    | ok m =>
      obtain ⟨hdenotes, hle⟩ := Numeral.readChars_eq_ok_iff.mp hread
      rw [readWord, hread] at h
      have hm : m.toUInt32 = n := Except.ok.inj h
      have hlt : m < UInt32.size := Nat.lt_of_le_sub_one (by decide) hle
      rwa [← hm, Nat.toUInt32_eq, UInt32.toNat_ofNat_of_lt' hlt]
  · intro h
    rw [readWord, Numeral.readChars_eq_ok_iff.mpr ⟨h, hsize⟩]
    exact congrArg Except.ok UInt32.ofNat_toNat

end Accounts.Text

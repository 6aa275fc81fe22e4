import Accounts.Json.Reader
import Mathlib.Data.List.Basic
import Mathlib.Data.List.TakeDrop

/-!
# Tokens read back

What the text of a number and the text of a string are made of, and what the scanners take them
for, whatever stands behind them. A number ends where the text does, or at a gap, a comma or a
closing bracket. A string may spell its characters in any way that there is.
-/

namespace Accounts

theorem Text.hexDigit?_hexDigit : ∀ n < 16, hexDigit? (Json.hexDigit n) = some n := by decide

namespace Json

/-- What can stand behind a value: nothing, a gap, a comma or a closing bracket. -/
def Ends : List Char → Prop
  | [] => True
  | c :: _ => Reader.isGap c = true ∨ c = ',' ∨ c = ']' ∨ c = '}'

-- ---------------------------------------------------------------------------
-- Digits
-- ---------------------------------------------------------------------------

/-- One or more decimal digits. -/
structure Digits (cs : List Char) : Prop where
  ne_nil : cs ≠ []
  isDigit : ∀ c ∈ cs, c.isDigit = true

theorem decimalValue_toDigits (n : Nat) : decimalValue (Nat.toDigits 10 n) = n := by
  have hvalue := Nat.ofDigitChars_ten_toDigits (n := n)
  rw [Nat.ofDigitChars_eq_foldl] at hvalue
  simpa only [decimalValue, digitValue, Nat.mul_comm] using hvalue

theorem digits_toDigits (n : Nat) : Digits (Nat.toDigits 10 n) :=
  ⟨Nat.toDigits_ne_nil, fun _ hc => Nat.isDigit_of_mem_toDigits (by decide) (by decide) hc⟩

theorem digitChar_ne_zero : ∀ n < 10, 0 < n → n.digitChar ≠ '0' := by decide

/-- Only the number zero is written with a zero in front. -/
theorem head?_toDigits {n : Nat} (h : 0 < n) : (Nat.toDigits 10 n).head? ≠ some '0' := by
  induction n using Nat.strongRecOn with
  | ind n ih =>
    by_cases hn : n < 10
    · rw [Nat.toDigits_of_lt_base hn]
      exact mt Option.some.inj (digitChar_ne_zero n hn h)
    · rw [Nat.toDigits_of_base_le (by decide) (by omega),
        List.head?_append_of_ne_nil _ Nat.toDigits_ne_nil]
      exact ih (n / 10) (by omega) (by omega)

/-- A character that no token but a number begins with. -/
theorem ne_of_isDigit {c d : Char} (h : c.isDigit = true) (hd : d.isDigit = false) : c ≠ d := by
  rintro rfl
  rw [h] at hd
  cases hd

theorem Ends.head {c : Char} {rest : List Char} (h : Ends (c :: rest)) :
    c.isDigit = false ∧ c ≠ '.' ∧ ¬(c = 'e' ∨ c = 'E') := by
  simp only [Ends, Reader.isGap, Bool.or_eq_true, beq_iff_eq] at h
  obtain (((rfl | rfl) | rfl) | rfl) | rfl | rfl | rfl := h <;> decide

/-- No digit comes next. -/
def Stops (rest : List Char) : Prop :=
  ∀ c ∈ rest.head?, c.isDigit = false

theorem Stops.cons {c : Char} (h : c.isDigit = false) (rest : List Char) : Stops (c :: rest) := by
  rintro _ ⟨⟩
  exact h

theorem Ends.stops {rest : List Char} (h : Ends rest) : Stops rest := by
  cases rest with
  | nil => nofun
  | cons c rest => exact .cons h.head.1 rest

theorem span_digits {ds rest : List Char} (hd : ∀ c ∈ ds, c.isDigit = true) (h : Stops rest) :
    (ds ++ rest).span Char.isDigit = (ds, rest) := by
  rw [List.span_eq_takeWhile_dropWhile, List.takeWhile_append_of_pos hd,
    List.dropWhile_append_of_pos hd]
  cases rest with
  | nil => simp
  | cons c rest => simp [h c rfl]

-- ---------------------------------------------------------------------------
-- Numbers
-- ---------------------------------------------------------------------------

/-- The point and the digits behind it, or nothing. -/
inductive Fraction : List Char → List Char → Prop
  | none : Fraction [] []
  | point {ds : List Char} (h : Digits ds) : Fraction ('.' :: ds) ds

/-- The exponent, always with its sign, or nothing. -/
inductive Exponent : List Char → Option Int → Prop
  | none : Exponent [] none
  | plus {ds : List Char} (h : Digits ds) : Exponent ('e' :: '+' :: ds) (some (decimalValue ds))
  | minus {ds : List Char} (h : Digits ds) :
    Exponent ('e' :: '-' :: ds) (some (-(decimalValue ds : Int)))

/-- A number without its sign: a zero in front of other digits stands behind a point. -/
inductive Magnitude : List Char → NumberText → Prop
  | mk {whole point fraction power : List Char} {exponent : Option Int} (hw : Digits whole)
    (hz : ∀ d ds, whole ≠ '0' :: d :: ds) (hf : Fraction point fraction)
    (he : Exponent power exponent) :
    Magnitude (whole ++ (point ++ power)) ⟨whole, fraction, exponent⟩

section
variable {rest : List Char} (h : Ends rest)
include h

theorem scanExponent_number {ds : List Char} (hd : Digits ds) (sign : Nat → Int) :
    scanExponent.number sign (ds ++ rest) = .ok (some (sign (decimalValue ds)), rest) := by
  rw [scanExponent.number, span_digits hd.isDigit h.stops]
  cases ds with
  | nil => exact absurd rfl hd.ne_nil
  | cons c ds => rfl

theorem scanExponent_run {cs : List Char} {exponent : Option Int} (he : Exponent cs exponent) :
    scanExponent (cs ++ rest) = .ok (exponent, rest) := by
  cases he with
  | none =>
    cases rest with
    | nil => rfl
    | cons c rest => exact if_neg h.head.2.2
  | plus hd => exact scanExponent_number h hd fun n => n
  | minus hd => exact scanExponent_number h hd fun n => -n

theorem Exponent.stops {cs : List Char} {exponent : Option Int} (he : Exponent cs exponent) :
    Stops (cs ++ rest) := by
  cases he with
  | none => exact h.stops
  | plus | minus => exact .cons rfl _

theorem scanFraction_run {cs fraction power : List Char} {exponent : Option Int}
    (hf : Fraction cs fraction) (he : Exponent power exponent) :
    scanFraction (cs ++ (power ++ rest)) = .ok (fraction, power ++ rest) := by
  cases hf with
  | none =>
    cases he with
    | none =>
      cases rest with
      | nil => rfl
      | cons c rest =>
        rw [List.nil_append, List.nil_append, scanFraction]
        exact fun more hmore => h.head.2.1 (List.cons.inj hmore).1
    | plus | minus => rfl
  | point hd =>
    rw [List.cons_append, scanFraction, span_digits hd.isDigit (he.stops h)]
    cases fraction with
    | nil => exact absurd rfl hd.ne_nil
    | cons c ds => rfl

theorem Fraction.stops {cs fraction power : List Char} {exponent : Option Int}
    (hf : Fraction cs fraction) (he : Exponent power exponent) : Stops (cs ++ (power ++ rest)) := by
  cases hf with
  | none => exact he.stops h
  | point => exact .cons rfl _

theorem scanNumber_run {cs : List Char} {t : NumberText} (hm : Magnitude cs t) :
    scanNumber (cs ++ rest) = .ok (t, rest) := by
  obtain ⟨hw, hz, hf, he⟩ := hm
  rw [List.append_assoc, List.append_assoc, scanNumber, span_digits hw.isDigit (hf.stops h he)]
  split
  · rename_i heq
    exact absurd (Prod.mk.inj heq).1 hw.ne_nil
  · rename_i heq
    exact absurd (Prod.mk.inj heq).1 hw.ne_nil
  · rename_i heq
    exact absurd (Prod.mk.inj heq).1 (hz _ _)
  · rename_i heq
    obtain ⟨rfl, rfl⟩ := Prod.mk.inj heq
    simp only [scanFraction_run h hf he, scanExponent_run h he, bind, Except.bind]

end

theorem magnitude_toDigits (n : Nat) :
    Magnitude (Nat.toDigits 10 n) ⟨Nat.toDigits 10 n, [], none⟩ := by
  have hzero : ∀ d ds, Nat.toDigits 10 n ≠ '0' :: d :: ds := by
    intro d ds hd
    by_cases hn : 0 < n
    · exact head?_toDigits hn (by rw [hd]; rfl)
    · rw [Nat.eq_zero_of_not_pos hn, Nat.toDigits_zero] at hd
      cases hd
  simpa using Magnitude.mk (digits_toDigits n) hzero .none .none

-- ---------------------------------------------------------------------------
-- Strings
-- ---------------------------------------------------------------------------

/-- Four digits of a UTF-16 unit. -/
inductive Unit16 : List Char → Nat → Prop
  | mk {a b c d : Char} {i j k l : Nat} (ha : Text.hexDigit? a = some i)
    (hb : Text.hexDigit? b = some j) (hc : Text.hexDigit? c = some k)
    (hd : Text.hexDigit? d = some l) : Unit16 [a, b, c, d] (((i * 16 + j) * 16 + k) * 16 + l)

/-- Characters, and how they may stand in a string token behind its opening quote. -/
inductive Spells : List Char → List Char → Prop
  | close : Spells [] ['"']
  | plain {c : Char} {cs body : List Char} (hq : c ≠ '"') (hs : c ≠ '\\') (hc : ¬c.toNat < 0x20)
    (h : Spells cs body) : Spells (c :: cs) (c :: body)
  | escape {e c : Char} {cs body : List Char} (he : simpleEscape? e = some c)
    (h : Spells cs body) : Spells (c :: cs) ('\\' :: e :: body)
  | unit {ds cs body : List Char} {n : Nat} (hd : Unit16 ds n) (hl : isLowHalf n = false)
    (hh : isHighHalf n = false) (h : Spells cs body) :
    Spells (Char.ofNat n :: cs) ('\\' :: 'u' :: (ds ++ body))
  | pair {ds ds' cs body : List Char} {high low : Nat} (hd : Unit16 ds high)
    (hh : isHighHalf high = true) (hd' : Unit16 ds' low) (hl : isLowHalf low = true)
    (h : Spells cs body) :
    Spells (pairChar high low :: cs) ('\\' :: 'u' :: (ds ++ '\\' :: 'u' :: (ds' ++ body)))

theorem hasFourBytes_of_length {cs : List Char} (h : 4 ≤ cs.length) : hasFourBytes cs = true := by
  have hbytes := Text.length_le_byteLength (cs.take 4)
  rw [List.length_take, Nat.min_eq_left h] at hbytes
  exact decide_eq_true hbytes

-- The scanner is opened in the steps that come first; what follows goes through these.

theorem scanString_plain (paired : Bool) (c : Char) (rest : List Char) :
    scanString paired .plain (c :: rest) =
      if c = '"' then .ok ([], rest)
      else if c = '\\' then scanString paired .escape rest
      else if c.toNat < 0x20 then .error .malformed
      else scanString.push c (scanString paired .plain rest) := rfl

theorem scanString_escape (paired : Bool) {e c : Char} (he : simpleEscape? e = some c)
    (rest : List Char) :
    scanString paired .plain ('\\' :: e :: rest) =
      scanString.push c (scanString paired .plain rest) := by
  have hu : e ≠ 'u' := by
    rintro rfl
    cases he
  change (if e = 'u' then _ else _) = _
  rw [if_neg hu, he]

/-- What comes of a unit with its last digit. -/
def scanUnit (paired : Bool) (high : Option Nat) (n : Nat) (rest : List Char) :
    Except ReadError (List Char × List Char) :=
  if !paired then scanString paired .plain rest
  else match high with
    | some h =>
      if isLowHalf n then scanString.push (pairChar h n) (scanString paired .plain rest)
      else .error .malformed
    | none =>
      if isLowHalf n then .error .malformed
      else if isHighHalf n then scanString paired (.pairSlash n) rest
      else scanString.push (Char.ofNat n) (scanString paired .plain rest)

theorem scanString_digit (paired : Bool) (high : Option Nat) (left value : Nat) {c : Char}
    {d : Nat} (hd : Text.hexDigit? c = some d) (rest : List Char) :
    scanString paired (.unit high left value) (c :: rest) =
      if 1 < left then scanString paired (.unit high (left - 1) (value * 16 + d)) rest
      else scanUnit paired high (value * 16 + d) rest := by
  rw [scanString, hd]
  rfl

theorem Unit16.length {ds : List Char} {n : Nat} (h : Unit16 ds n) (rest : List Char) :
    4 ≤ (ds ++ rest).length := by
  cases h
  exact Nat.le_add_left ..

section
variable {ds : List Char} {n : Nat} (hd : Unit16 ds n) (rest : List Char)
include hd

theorem scanString_unit (paired : Bool) (high : Option Nat) :
    scanString paired (.unit high 4 0) (ds ++ rest) = scanUnit paired high n rest := by
  obtain ⟨ha, hb, hc, hd⟩ := hd
  simp [scanString_digit _ _ _ _ ha, scanString_digit _ _ _ _ hb, scanString_digit _ _ _ _ hc,
    scanString_digit _ _ _ _ hd]

theorem scanString_u (paired : Bool) :
    scanString paired .plain ('\\' :: 'u' :: (ds ++ rest)) = scanUnit paired none n rest := by
  rw [← scanString_unit hd]
  exact if_pos (hasFourBytes_of_length (hd.length rest))

theorem scanString_slashU (paired : Bool) (half : Nat) :
    scanString paired (.pairSlash half) ('\\' :: 'u' :: (ds ++ rest)) =
      scanUnit paired (some half) n rest := by
  rw [← scanString_unit hd]
  exact if_pos (hasFourBytes_of_length (hd.length rest))

end

/-- Where nothing is kept it does not matter what the unit stands for. -/
theorem scanUnit_unkept (high : Option Nat) (n : Nat) (rest : List Char) :
    scanUnit false high n rest = scanString false .plain rest := rfl

section
variable {n : Nat} (rest : List Char)

theorem scanUnit_char (hl : isLowHalf n = false) (hh : isHighHalf n = false) :
    scanUnit true none n rest =
      scanString.push (Char.ofNat n) (scanString true .plain rest) := by
  simp [scanUnit, hl, hh]

theorem scanUnit_highHalf (hl : isLowHalf n = false) (hh : isHighHalf n = true) :
    scanUnit true none n rest = scanString true (.pairSlash n) rest := by
  simp [scanUnit, hl, hh]

theorem scanUnit_lowHalf (half : Nat) (hl : isLowHalf n = true) :
    scanUnit true (some half) n rest =
      scanString.push (pairChar half n) (scanString true .plain rest) := by
  simp [scanUnit, hl]

end

/-- No half of a pair is both the first and the second. -/
theorem isLowHalf_of_isHighHalf {n : Nat} (h : isHighHalf n = true) : isLowHalf n = false := by
  simp only [isHighHalf, Bool.and_eq_true, decide_eq_true_eq] at h
  simp only [isLowHalf, Bool.and_eq_false_iff, decide_eq_false_iff_not]
  omega

/-- However a string is spelled, it is scanned as its characters, and skipped up to its end. -/
theorem scanString_run {cs body : List Char} (h : Spells cs body) (paired : Bool)
    (rest : List Char) :
    ∃ kept, scanString paired .plain (body ++ rest) = .ok (kept, rest) ∧
      (paired = true → kept = cs) := by
  induction h with
  | close => exact ⟨[], rfl, fun _ => rfl⟩
  | @plain c cs body hq hs hc _ ih =>
    obtain ⟨kept, hrun, hkept⟩ := ih
    refine ⟨c :: kept, ?_, fun hp => by rw [hkept hp]⟩
    rw [List.cons_append, scanString_plain, if_neg hq, if_neg hs, if_neg hc, hrun]
    rfl
  | @escape e c cs body he _ ih =>
    obtain ⟨kept, hrun, hkept⟩ := ih
    refine ⟨c :: kept, ?_, fun hp => by rw [hkept hp]⟩
    rw [List.cons_append, List.cons_append, scanString_escape paired he, hrun]
    rfl
  | @unit ds cs body n hd hl hh _ ih =>
    obtain ⟨kept, hrun, hkept⟩ := ih
    simp only [List.cons_append, List.append_assoc, scanString_u hd]
    cases paired with
    | false => exact ⟨kept, (scanUnit_unkept none n _).trans hrun, nofun⟩
    | true =>
      refine ⟨Char.ofNat n :: kept, ?_, fun hp => by rw [hkept hp]⟩
      rw [scanUnit_char _ hl hh, hrun]
      rfl
  | @pair ds es cs body high low hd hh he hl _ ih =>
    obtain ⟨kept, hrun, hkept⟩ := ih
    simp only [List.cons_append, List.append_assoc, scanString_u hd]
    cases paired with
    | false =>
      refine ⟨kept, ?_, nofun⟩
      rw [scanUnit_unkept, scanString_u he, scanUnit_unkept, hrun]
    | true =>
      refine ⟨pairChar high low :: kept, ?_, fun hp => by rw [hkept hp]⟩
      rw [scanUnit_highHalf _ (isLowHalf_of_isHighHalf hh) hh, scanString_slashU he,
        scanUnit_lowHalf _ high hl, hrun]
      rfl

theorem string_run {s : String} {body : List Char} (h : Spells s.toList body)
    (rest : List Char) : Reader.string (body ++ rest) = .ok (s, rest) := by
  obtain ⟨kept, hrun, hkept⟩ := scanString_run h true rest
  rw [Reader.string, hrun, hkept rfl]
  simp [Except.map]

theorem skipString_run {cs body : List Char} (h : Spells cs body) (rest : List Char) :
    Reader.skipString (body ++ rest) = .ok ((), rest) := by
  obtain ⟨kept, hrun, -⟩ := scanString_run h false rest
  rw [Reader.skipString, hrun]
  rfl

/-- A control character is spelled by its number. -/
theorem Spells.control {c : Char} {cs body : List Char} (hc : c.toNat < 0x20)
    (h : Spells cs body) :
    Spells (c :: cs)
      (['\\', 'u', '0', '0', hexDigit (c.toNat / 16), hexDigit (c.toNat % 16)] ++ body) := by
  have hzero : Text.hexDigit? '0' = some 0 := by decide
  have hunit := Unit16.mk hzero hzero (Text.hexDigit?_hexDigit (c.toNat / 16) (by omega))
    (Text.hexDigit?_hexDigit (c.toNat % 16) (by omega))
  have hn : ((0 * 16 + 0) * 16 + c.toNat / 16) * 16 + c.toNat % 16 = c.toNat := by omega
  have hlow : isLowHalf c.toNat = false := by
    simp only [isLowHalf, Bool.and_eq_false_iff, decide_eq_false_iff_not]
    omega
  have hhigh : isHighHalf c.toNat = false := by
    simp only [isHighHalf, Bool.and_eq_false_iff, decide_eq_false_iff_not]
    omega
  rw [hn] at hunit
  simpa using Spells.unit hunit hlow hhigh h

theorem Spells.escapeChar (c : Char) {cs body : List Char} (h : Spells cs body) :
    Spells (c :: cs) (escapeChar c ++ body) := by
  unfold Json.escapeChar
  split
  iterate 7 exact .escape rfl h
  split
  · rename_i hc
    exact .control hc h
  · rename_i hquote hslash _ _ _ _ _ hc
    exact .plain hquote hslash hc h

/-- The characters of a quoted text behind the opening quote. -/
def quoteBody (s : String) : List Char :=
  s.toList.flatMap escapeChar ++ ['"']

theorem spells_quoteBody (s : String) : Spells s.toList (quoteBody s) := by
  rw [quoteBody]
  induction s.toList with
  | nil => exact .close
  | cons c cs ih =>
    rw [List.flatMap_cons, List.append_assoc]
    exact ih.escapeChar c

end Json

end Accounts

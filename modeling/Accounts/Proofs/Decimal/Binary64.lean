import Accounts.Decimal.Binary64
import Accounts.Proofs.Json.Tokens

/-!
# Texts of binary64 values

The digits that are found for a value other than zero do not begin with a zero. So its text is
that of a number with a point or an exponent, as every JSON text may have it.
-/

namespace Accounts.Decimal

theorem Dyadic.mantissa_pos {bits : UInt64} (h : bits &&& 0x7FFFFFFFFFFFFFFF ≠ 0) :
    0 < (Dyadic.ofBits bits).mantissa := by
  have hmagnitude : bits.toNat % 2 ^ 63 ≠ 0 := by
    intro hz
    refine h (UInt64.toNat_inj.mp ?_)
    rw [UInt64.toNat_and]
    exact (Nat.and_two_pow_sub_one_eq_mod bits.toNat 63).trans hz
  have hfraction : (bits &&& 0xFFFFFFFFFFFFF).toNat = bits.toNat % 2 ^ 52 := by
    rw [UInt64.toNat_and]
    exact Nat.and_two_pow_sub_one_eq_mod bits.toNat 52
  have hbiased : (bits >>> 52 &&& 0x7FF).toNat = bits.toNat / 2 ^ 52 % 2 ^ 11 := by
    rw [UInt64.toNat_and, UInt64.toNat_shiftRight, Nat.shiftRight_eq_div_pow]
    exact Nat.and_two_pow_sub_one_eq_mod (bits.toNat / 2 ^ 52) 11
  rw [ofBits]
  split
  · rename_i hz
    rw [hbiased] at hz
    dsimp only
    rw [hfraction]
    omega
  · exact Nat.add_pos_right _ (by decide)

theorem Dyadic.low_pos {d : Dyadic} (h : 0 < d.mantissa) : 0 < d.interval.low := by
  refine Nat.mul_pos ?_ ?_
  · split <;> omega
  · rw [Nat.one_shiftLeft]
    exact Nat.two_pow_pos _

/-- Zero does not lie in the interval. -/
theorem Interval.gridPoint?_pos {i : Interval} {scale : Int} {d : Digits} (hl : 0 < i.low)
    (h : i.gridPoint? scale = some d) : 0 < d.digits := by
  have hlow : 0 < i.low * Nat.pow 10 (-scale).toNat :=
    Nat.mul_pos hl (Nat.pow_pos (by decide))
  -- a multiple of the unit that lies inside is not the one with nothing
  have hpos : ∀ {unit high k : Nat}, (if i.closed = true
      then decide (i.low * Nat.pow 10 (-scale).toNat ≤ k * unit) && decide (k * unit ≤ high)
      else decide (i.low * Nat.pow 10 (-scale).toNat < k * unit) && decide (k * unit < high)) =
        true → 0 < k := by
    intro unit high k hk
    refine Nat.pos_of_ne_zero fun hz => ?_
    subst hz
    rw [Nat.zero_mul] at hk
    split at hk <;> simp only [Bool.and_eq_true, decide_eq_true_eq] at hk <;> omega
  simp only [gridPoint?] at h
  split at h
  · rename_i hbelow _
    cases h
    dsimp only
    split
    · exact hpos hbelow
    · exact Nat.succ_pos _
  · rename_i hbelow _
    cases h
    exact hpos hbelow
  · cases h
    exact Nat.succ_pos _
  · cases h

theorem Digits.strip_pos {d : Digits} (h : 0 < d.digits) (fuel : Nat) :
    0 < (d.strip fuel).digits := by
  induction fuel generalizing d with
  | zero => exact h
  | succ fuel ih =>
    rw [strip]
    split
    · rename_i hz
      simp only [Bool.and_eq_true, beq_iff_eq] at hz
      refine ih ?_
      dsimp only
      omega
    · exact h

/-- If no grid has a point in the interval, the digits are those of zero. -/
theorem shortest_pos_or_zero {d : Dyadic} (h : 0 < d.mantissa) :
    0 < (shortest d).digits ∨ shortest d = ⟨0, 0⟩ := by
  rw [shortest]
  generalize hg : ((List.range 17).filterMap fun n : Nat =>
    d.interval.gridPoint? (decade d.interval.value d.interval.den 400 - (n : Int))) = grids
  cases grids with
  | nil => exact .inr rfl
  | cons first rest =>
    have hmem : first ∈ (List.range 17).filterMap fun n : Nat =>
        d.interval.gridPoint? (decade d.interval.value d.interval.den 400 - (n : Int)) := by
      rw [hg]
      exact List.mem_cons_self
    obtain ⟨n, -, hfirst⟩ := List.mem_filterMap.mp hmem
    exact .inl (Digits.strip_pos (Interval.gridPoint?_pos (Dyadic.low_pos h) hfirst) 20)

end Accounts.Decimal

namespace Accounts.Binary64

open Json (Digits Magnitude Fraction Exponent)

theorem ne_zero_cons {cs : List Char} (h : cs.head? ≠ some '0') (d : Char) (ds : List Char) :
    cs ≠ '0' :: d :: ds := by
  rintro rfl
  exact h rfl

theorem digits_zero : Digits ['0'] := ⟨nofun, by simp⟩

section
variable {ds : List Char} (h : Digits ds)
include h

theorem digits_append {es : List Char} (he : ∀ c ∈ es, c.isDigit = true) : Digits (ds ++ es) :=
  ⟨fun hn => h.ne_nil (List.append_eq_nil_iff.mp hn).1,
    List.forall_mem_append.mpr ⟨h.isDigit, he⟩⟩

theorem digits_prepend {es : List Char} (he : ∀ c ∈ es, c.isDigit = true) : Digits (es ++ ds) :=
  ⟨fun hn => h.ne_nil (List.append_eq_nil_iff.mp hn).2,
    List.forall_mem_append.mpr ⟨he, h.isDigit⟩⟩

theorem digits_take {n : Nat} (hn : n ≠ 0) : Digits (ds.take n) := by
  refine ⟨fun hnil => ?_, fun c hc => h.isDigit c (List.mem_of_mem_take hc)⟩
  cases List.take_eq_nil_iff.mp hnil with
  | inl hzero => exact hn hzero
  | inr hds => exact h.ne_nil hds

theorem digits_drop {n : Nat} (hn : n < ds.length) : Digits (ds.drop n) :=
  ⟨fun hnil => Nat.not_le.mpr hn (List.drop_eq_nil_iff.mp hnil),
    fun c hc => h.isDigit c (List.mem_of_mem_drop hc)⟩

end

theorem isDigit_of_mem_zeros {n : Nat} : ∀ c ∈ List.replicate n '0', c.isDigit = true := by
  intro c hc
  rw [List.eq_of_mem_replicate hc]
  rfl

/-- The exponent is written with its sign. -/
theorem exponent_power (top : Int) :
    ∃ e, Exponent ('e' :: (if top < 0 then "-" else "+").toList ++ (toString top.natAbs).toList)
      e := by
  have hdigits : Digits (toString top.natAbs).toList := by
    rw [Nat.toString_eq_ofList_toDigits, String.toList_ofList]
    exact Json.digits_toDigits _
  split
  · exact ⟨_, .minus hdigits⟩
  · exact ⟨_, .plus hdigits⟩

section
variable {digits : String} {top : Int} (hd : Digits digits.toList)
include hd

theorem magnitude_positional (hz : digits.toList.head? ≠ some '0' ∨ digits = "0" ∧ top = 0) :
    ∃ t, Magnitude (positional digits top).toList t := by
  have hcount : 0 < digits.toList.length := List.length_pos_iff.mpr hd.ne_nil
  rw [String.length_toList] at hcount
  rw [positional]
  dsimp only
  split
  · -- the digits are filled up with zeros to a whole number
    have hfilled := digits_append hd
      (isDigit_of_mem_zeros (n := (top + 1 - (digits.length : Int)).toNat))
    have hwhole : ∀ d ds, digits.toList ++
        List.replicate (top + 1 - (digits.length : Int)).toNat '0' ≠ '0' :: d :: ds := by
      rcases hz with hz | ⟨rfl, rfl⟩
      · exact ne_zero_cons (List.head?_append_of_ne_nil _ hd.ne_nil ▸ hz)
      · nofun
    exact ⟨_, by simpa using Magnitude.mk hfilled hwhole (.point digits_zero) .none⟩
  · rename_i hlong
    split
    · -- the point stands among the digits, so that there is more than one of them
      have hne : digits.toList.head? ≠ some '0' := by
        rcases hz with hz | ⟨rfl, rfl⟩
        · exact hz
        · exact absurd (by decide) hlong
      have hcut : (top + 1).toNat ≠ 0 := by omega
      have hlength : (top + 1).toNat < digits.toList.length := by
        rw [String.length_toList]
        omega
      have hhead : (digits.toList.take (top + 1).toNat).head? ≠ some '0' := by
        rwa [List.head?_take, if_neg hcut]
      have hmagnitude := Magnitude.mk (digits_take hd hcut) (ne_zero_cons hhead)
        (.point (digits_drop hd hlength)) .none
      exact ⟨_, by simpa using hmagnitude⟩
    · have hfraction := digits_prepend hd (isDigit_of_mem_zeros (n := (-top - 1).toNat))
      exact ⟨_, by simpa using Magnitude.mk digits_zero nofun (.point hfraction) .none⟩

theorem magnitude_scientific : ∃ t, Magnitude (scientific digits top).toList t := by
  obtain ⟨e, he⟩ := exponent_power top
  rw [scientific]
  cases hcs : digits.toList with
  | nil => exact absurd hcs hd.ne_nil
  | cons c others =>
    rw [hcs] at hd
    have hlead : Digits [c] := ⟨nofun, fun d hm =>
      hd.isDigit d (List.mem_singleton.mp hm ▸ List.mem_cons_self)⟩
    have hone : ∀ d ds, [c] ≠ '0' :: d :: ds := nofun
    cases others with
    | nil => exact ⟨_, by simpa using Magnitude.mk hlead hone .none he⟩
    | cons d others =>
      have hothers : Digits (d :: others) :=
        ⟨nofun, fun x hx => hd.isDigit x (List.mem_cons_of_mem _ hx)⟩
      exact ⟨_, by simpa using Magnitude.mk hlead hone (.point hothers) he⟩

end

/-- A sign, if there is one, and what stands behind it. -/
theorem magnitude_text (bits : UInt64) :
    ∃ cs t, (text bits).toList = (if isNegative bits then ['-'] else []) ++ cs ∧
      Magnitude cs t := by
  have hsigned : ∀ s : String, (∃ t, Magnitude s.toList t) →
      ∃ cs t, ((if isNegative bits then "-" else "") ++ s).toList =
        (if isNegative bits then ['-'] else []) ++ cs ∧ Magnitude cs t := by
    rintro s ⟨t, ht⟩
    refine ⟨s.toList, t, ?_, ht⟩
    rw [String.toList_append]
    split <;> rfl
  rw [text]
  dsimp only
  split
  · exact hsigned "0.0" ⟨_, .mk digits_zero nofun (.point digits_zero) .none⟩
  · rename_i hbits
    have hpos := Decimal.shortest_pos_or_zero (Decimal.Dyadic.mantissa_pos (by simpa using hbits))
    generalize Decimal.shortest (.ofBits bits) = d at hpos
    have hlist : (toString d.digits).toList = Nat.toDigits 10 d.digits := by
      rw [Nat.toString_eq_ofList_toDigits, String.toList_ofList]
    have hdigits : Digits (toString d.digits).toList := by
      rw [hlist]
      exact Json.digits_toDigits _
    refine hsigned _ ?_
    split
    · refine magnitude_positional hdigits ?_
      rcases hpos with hpos | rfl
      · rw [hlist]
        exact .inl (Json.head?_toDigits hpos)
      · exact .inr ⟨rfl, rfl⟩
    · exact magnitude_scientific hdigits

end Accounts.Binary64

import Accounts.Json.Record
import Accounts.Proofs.Json.Values

/-!
# Readers of fields

Readers that take texts and 32-bit numbers, and refuse every other value. What they make of a
value does not depend on its text.
-/

namespace Accounts.Json

namespace HasText

variable {j : Json} {c : Char} {cs : List Char}

theorem number_begins {n : Number} (h : (Json.number n).HasText (c :: cs)) :
    c = '-' ∨ c.isDigit = true := by
  obtain ⟨negative, t, hn⟩ := exists_signed n
  generalize hchars : c :: cs = text at h
  cases h
  rw [← hchars] at hn
  cases hn with
  | negative => exact .inl rfl
  | positive hm =>
    obtain ⟨_, _, hcs, hc⟩ := hm.exists_digit
    cases hcs
    exact .inr hc

/-- Nothing but a string begins with a quote. -/
theorem eq_string (h : j.HasText ('"' :: cs)) : ∃ s, j = .string s := by
  cases j with
  | string s => exact ⟨s, rfl⟩
  | number n => exact absurd h.number_begins (by decide)
  | bool b => cases b <;> cases h
  | null | array | object => cases h

/-- Nothing but an object begins with a brace. -/
theorem eq_object (h : j.HasText ('{' :: cs)) : ∃ members, j = .object members := by
  cases j with
  | object members => exact ⟨members, rfl⟩
  | number n => exact absurd h.number_begins (by decide)
  | bool b => cases b <;> cases h
  | null | string | array => cases h

/-- Nothing but null begins with an n. -/
theorem eq_null (h : j.HasText ('n' :: cs)) : j = .null := by
  cases j with
  | null => rfl
  | number n => exact absurd h.number_begins (by decide)
  | bool b => cases b <;> cases h
  | string | array | object => cases h

/-- Nothing but a number begins with a minus or a digit. -/
theorem eq_number (h : j.HasText (c :: cs)) (hc : c = '-' ∨ c.isDigit = true) :
    ∃ n, j = .number n := by
  cases j with
  | number n => exact ⟨n, rfl⟩
  | bool b => cases b <;> cases h <;> exact absurd hc (by decide)
  | null | string | array | object =>
    cases h
    exact absurd hc (by decide)

end HasText

namespace Reader

theorem settles_wrongType {α : Type} (expected : String) :
    Settles (wrongType expected : Reader α) := by
  refine settles_of_exists fun j => ?_
  obtain hs | ⟨items, rfl⟩ | ⟨members, rfl⟩ := j.scalar_or_container
  · obtain ⟨r, -, h⟩ := exists_scalar hs
    refine ⟨r >>= fun j => .error (.shape (.invalidType j.found expected)),
      yields_scalar hs fun c cs rest hcs he => ?_⟩
    rw [bind_map (h c cs rest hcs he)]
    cases r <;> rfl
  · exact ⟨.error (.shape (.invalidType .sequence expected)), yields_array fun _ _ _ => rfl⟩
  · exact ⟨.error (.shape (.invalidType .map expected)), yields_object fun _ _ _ => rfl⟩

/-- A reader that looks at the next character first. -/
theorem yields_peek {α : Type} {reader : Option Char → Reader α} {j : Json}
    {r : Except ReadError α}
    (h : ∀ c cs rest, j.HasText (c :: cs) → Ends rest →
      reader (some c) (c :: (cs ++ rest)) = r.map (·, rest)) : Yields (peek >>= reader) j r := by
  intro g cs rest hg hcs he
  obtain ⟨c, ds, rfl, hc, -⟩ := hcs.opens
  rw [List.cons_append, bind_run (peek_run hg hc _)]
  exact h c ds rest hcs he

theorem reads_text (expected s : String) : Reads (text expected) (.string s) s := by
  refine yields_peek fun c cs rest hcs _ => ?_
  cases hcs with
  | string hb => exact string_run hb rest

theorem settles_text (expected : String) : Settles (text expected) := by
  refine settles_of_exists fun j => ?_
  by_cases hj : ∃ s, j = .string s
  · obtain ⟨s, rfl⟩ := hj
    exact ⟨_, reads_text expected s⟩
  · refine ⟨outcome (wrongType expected : Reader String) j, yields_peek fun c cs rest hcs he => ?_⟩
    have hc : c ≠ '"' := by
      rintro rfl
      exact hj hcs.eq_string
    dsimp only
    rw [if_neg hc]
    exact settles_wrongType expected j [] (c :: cs) rest .nil hcs he

theorem ofShape_number {negative : Bool} {t : NumberText} {cs rest : List Char}
    (hm : Magnitude cs t) (he : Ends rest) :
    (do Record.ofShape (toWord (← number negative)) : Reader UInt32) (cs ++ rest) =
      (t.result negative >>= fun n => (toWord n).mapError .shape).map (·, rest) := by
  rw [bind_map (number_run hm he negative)]
  cases t.result negative with
  | error e => rfl
  | ok n =>
    change (Record.ofShape (toWord n) : Reader UInt32) rest =
      ((toWord n).mapError ReadError.shape).map (·, rest)
    cases toWord n <;> rfl

theorem yields_word32 {n : Number} {negative : Bool} {t : NumberText}
    (hn : Signed n.text.toList negative t) :
    Yields word32 (.number n) (t.result negative >>= fun n => (toWord n).mapError .shape) := by
  refine yields_peek fun c cs rest hcs he => ?_
  generalize hchars : c :: cs = text at hcs
  cases hcs
  rw [← hchars] at hn
  cases hn with
  | negative hm => exact ofShape_number hm he
  | positive hm =>
    obtain ⟨_, _, heq, hc⟩ := hm.exists_digit
    cases heq
    dsimp only
    rw [if_neg (ne_of_isDigit hc rfl), if_pos hc]
    exact ofShape_number hm he

theorem toWord_natural (n : UInt32) : toWord (.natural n.toNat.toUInt64) = .ok n := by
  have hlt : n.toNat < UInt32.size := n.toNat_lt
  simp [toWord, hlt]

theorem reads_word32 (n : UInt32) : Reads word32 (.natural n.toNat) n := by
  have hword := yields_word32 (signed_natural n.toNat.toUInt64)
  rw [result_natural] at hword
  change Yields _ _ ((toWord (.natural n.toNat.toUInt64)).mapError .shape) at hword
  rwa [toWord_natural] at hword

theorem settles_word32 : Settles word32 := by
  refine settles_of_exists fun j => ?_
  by_cases hj : ∃ n, j = .number n
  · obtain ⟨n, rfl⟩ := hj
    obtain ⟨negative, t, hn⟩ := exists_signed n
    exact ⟨_, yields_word32 hn⟩
  · refine ⟨outcome (wrongType "u32" : Reader UInt32) j, yields_peek fun c cs rest hcs he => ?_⟩
    have hc : ¬(c = '-' ∨ c.isDigit = true) := fun hc => hj (hcs.eq_number hc)
    dsimp only
    rw [if_neg (mt .inl hc), if_neg (mt .inr hc)]
    exact settles_wrongType "u32" j [] (c :: cs) rest .nil hcs he

end Reader

end Accounts.Json

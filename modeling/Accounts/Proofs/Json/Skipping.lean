import Accounts.Proofs.Json.Readers

/-!
# Values skipped

A value of which nothing is kept is skipped up to its end, whatever it is: however deep it nests,
and binary numbers and keys that occur twice included.
-/

namespace Accounts.Json

/-- The value nests no more than `depth` containers. -/
def Within : Nat → Json → Prop
  | 0, .array _ => False
  | 0, .object _ => False
  | depth + 1, .array items => ∀ j ∈ items, Within depth j
  | depth + 1, .object members => ∀ m ∈ members, Within depth m.2
  | _, _ => True

/-- Every container takes a character. -/
theorem HasText.within {j : Json} {cs : List Char} (h : j.HasText cs) {depth : Nat}
    (hd : cs.length ≤ depth) : j.Within depth := by
  induction depth generalizing j cs with
  | zero =>
    obtain ⟨c, rest, rfl, -⟩ := h.opens
    cases hd
  | succ depth ih =>
    cases h with
    | array hb =>
      intro j hj
      obtain ⟨cs, hcs, hl⟩ := hb.exists_text hj
      exact ih hcs (Nat.le_trans hl (Nat.le_of_succ_le_succ hd))
    | object hb =>
      intro m hm
      obtain ⟨_, ⟨_, _, _, hcs⟩, hl⟩ := hb.exists_text hm
      refine ih hcs ?_
      simp only [List.length_cons, List.length_append] at hl hd
      omega
    | null | bool | number | string => trivial

namespace Reader

variable {cs rest : List Char}

theorem skipNumber_run {t : NumberText} (hm : Magnitude cs t) (he : Ends rest) :
    skipNumber (cs ++ rest) = .ok ((), rest) := by
  rw [skipNumber, scanNumber_run he hm]

theorem skipScalar_digit {c : Char} (h : c.isDigit = true) : skipScalar c = skipNumber := by
  simp only [skipScalar, if_neg (ne_of_isDigit h (d := 'n') rfl),
    if_neg (ne_of_isDigit h (d := 't') rfl), if_neg (ne_of_isDigit h (d := 'f') rfl),
    if_neg (ne_of_isDigit h (d := '-') rfl), if_pos h]

theorem skipScalar_run {j : Json} {c : Char} (hs : j.IsScalar) (h : j.HasText (c :: cs))
    (he : Ends rest) : skipScalar c (c :: (cs ++ rest)) = .ok ((), rest) := by
  generalize hchars : c :: cs = text at h
  cases h with
  | null =>
    cases hchars
    rfl
  | bool b => cases b <;> cases hchars <;> rfl
  | string hb =>
    cases hchars
    exact skipString_run hb rest
  | number n =>
    obtain ⟨negative, t, hn⟩ := exists_signed n
    rw [← hchars] at hn
    cases hn with
    | negative hm => exact skipNumber_run hm he
    | positive hm =>
      obtain ⟨_, _, hcs, hc⟩ := hm.exists_digit
      cases hcs
      rw [skipScalar_digit hc, ← List.cons_append]
      exact skipNumber_run hm he
  | array | object => cases hs

theorem mapM_skip (items : List Json) :
    items.mapM (fun _ => (.ok () : Except ReadError Unit)) = .ok (items.map fun _ => ()) :=
  List.mapM_pure (f := fun _ => ())

theorem foldlM_skip (members : Members) :
    members.foldlM (fun _ _ => (.ok () : Except ReadError Unit)) () = .ok () := by
  induction members with
  | nil => rfl
  | cons m members ih => exact ih

theorem reads_skipFrom {depth fuel : Nat} (hd : depth < fuel) {j : Json} (h : j.Within depth) :
    Reads (skipFrom fuel) j () := by
  induction depth generalizing fuel j with
  | zero =>
    obtain ⟨fuel, rfl⟩ := Nat.exists_eq_add_one_of_ne_zero (Nat.ne_of_gt hd)
    obtain hs | ⟨items, rfl⟩ | ⟨members, rfl⟩ := j.scalar_or_container
    · exact yields_scalar hs fun c cs rest hcs he => skipScalar_run hs hcs he
    · cases h
    · cases h
  | succ depth ih =>
    obtain ⟨fuel, rfl⟩ := Nat.exists_eq_add_one_of_ne_zero (Nat.ne_of_gt (Nat.zero_lt_of_lt hd))
    have hfuel : depth < fuel := Nat.lt_of_succ_lt_succ hd
    obtain hs | ⟨items, rfl⟩ | ⟨members, rfl⟩ := j.scalar_or_container
    · exact yields_scalar hs fun c cs rest hcs he => skipScalar_run hs hcs he
    · refine yields_array fun body rest hb => ?_
      rw [bind_map (items_run hb (fun j hj => ih hfuel (h j hj)) rest), mapM_skip]
      rfl
    · refine yields_object fun body rest hb => ?_
      rw [membersBy_run (fun _ => ()) (fun _ _ _ hk => skipString_run hk _) hb
        (fun m hm _ => (ih hfuel (h m hm)).behind) () rest, foldlM_skip]

theorem reads_skip (j : Json) : Reads skip j () := by
  intro g cs rest hg hcs he
  have hfuel : skip (g ++ (cs ++ rest)) =
      skipFrom ((g ++ (cs ++ rest)).length + 1) (g ++ (cs ++ rest)) := rfl
  have hd : cs.length < (g ++ (cs ++ rest)).length + 1 := by
    simp only [List.length_append]
    omega
  rw [hfuel]
  exact reads_skipFrom hd (hcs.within (Nat.le_refl _)) g cs rest hg hcs he

end Reader

end Accounts.Json

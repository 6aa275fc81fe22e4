import Accounts.Proofs.Json.Readers

/-!
# Values read back

What the reader of values makes of a value does not depend on its text. A value is read as itself
if its numbers are whole, its objects have their keys in order, and it does not nest deeper than
the reader goes.
-/

namespace Accounts.Json

/-- A value without binary numbers that nests no more than `depth` containers. The members of its
objects stand as they do in a value that was read: in the order of their keys, each key once. -/
def Plain : Nat → Json → Prop
  | _, .null => True
  | _, .bool _ => True
  | _, .number (.natural _) => True
  | _, .number (.negSucc _) => True
  | _, .number (.binary _) => False
  | _, .string _ => True
  | 0, .array _ => False
  | 0, .object _ => False
  | depth + 1, .array items => ∀ j ∈ items, Plain depth j
  | depth + 1, .object members =>
    (members.map Prod.fst).Pairwise (· < ·) ∧ ∀ m ∈ members, Plain depth m.2

theorem Plain.mono {depth depth' : Nat} {j : Json} (h : j.Plain depth) (hd : depth ≤ depth') :
    j.Plain depth' := by
  induction depth generalizing depth' j with
  | zero =>
    cases j with
    | array => cases h
    | object => cases h
    | number n => cases n <;> cases depth' <;> exact h
    | null | bool | string => cases depth' <;> exact h
  | succ depth ih =>
    obtain ⟨depth', rfl⟩ := Nat.exists_eq_add_of_le hd
    rw [Nat.add_right_comm]
    cases j with
    | array items => exact fun j hj => ih (h j hj) (Nat.le_add_right ..)
    | object members => exact ⟨h.1, fun m hm => ih (h.2 m hm) (Nat.le_add_right ..)⟩
    | number n => cases n <;> exact h
    | null | bool | string => exact h

-- ---------------------------------------------------------------------------
-- Numbers
-- ---------------------------------------------------------------------------

/-- What a number is read as; one that is too large to be finite is refused. -/
def NumberText.result (negative : Bool) (t : NumberText) : Except ReadError Number :=
  (t.value? negative).elim (.error .malformed) .ok

theorem result_natural (n : UInt64) :
    NumberText.result false ⟨Nat.toDigits 10 n.toNat, [], none⟩ = .ok (.natural n) := by
  have hlt : n.toNat < UInt64.size := n.toNat_lt
  simp [NumberText.result, NumberText.value?, decimalValue_toDigits, hlt]

theorem result_negSucc (n : Fin 0x8000000000000000) :
    NumberText.result true ⟨Nat.toDigits 10 (n.val + 1), [], none⟩ = .ok (.negSucc n) := by
  have hlt : n.val + 1 ≤ 0x8000000000000000 := n.isLt
  simp [NumberText.result, NumberText.value?, decimalValue_toDigits, hlt]

namespace Reader

variable {cs rest : List Char} {t : NumberText}

theorem number_run (hm : Magnitude cs t) (he : Ends rest) (negative : Bool) :
    number negative (cs ++ rest) = (t.result negative).map (·, rest) := by
  simp only [number, scanNumber_run he hm, bind, Except.bind, NumberText.result]
  cases t.value? negative <;> rfl

theorem scalar_digit {c : Char} (h : c.isDigit = true) :
    scalar c = (do return .number (← number false)) := by
  simp only [scalar, if_neg (ne_of_isDigit h (d := 'n') rfl),
    if_neg (ne_of_isDigit h (d := 't') rfl), if_neg (ne_of_isDigit h (d := 'f') rfl),
    if_neg (ne_of_isDigit h (d := '-') rfl), if_pos h]

theorem scalar_number {c : Char} {negative : Bool} (hs : Signed (c :: cs) negative t)
    (he : Ends rest) :
    scalar c (c :: (cs ++ rest)) = ((t.result negative).map Json.number).map (·, rest) := by
  cases hs with
  | negative hm =>
    have hminus : scalar '-' ('-' :: (cs ++ rest)) =
        (do return .number (← number true) : Reader Json) (cs ++ rest) := rfl
    rw [hminus, bind_map (number_run hm he true)]
    cases t.result true <;> rfl
  | positive hm =>
    obtain ⟨_, _, hcs, hc⟩ := hm.exists_digit
    cases hcs
    rw [scalar_digit hc, ← List.cons_append, bind_map (number_run hm he false)]
    cases t.result false <;> rfl

end Reader

/-- A scalar is read as something, and as itself if it is no binary number. -/
theorem exists_scalar {j : Json} (hs : j.IsScalar) :
    ∃ r : Except ReadError Json, (j.Plain 0 → r = .ok j) ∧
      ∀ c cs rest, j.HasText (c :: cs) → Ends rest →
        Reader.scalar c (c :: (cs ++ rest)) = r.map (·, rest) := by
  cases j with
  | null =>
    refine ⟨.ok .null, fun _ => rfl, fun c cs rest hcs _ => ?_⟩
    cases hcs
    rfl
  | bool b =>
    refine ⟨.ok (.bool b), fun _ => rfl, fun c cs rest hcs _ => ?_⟩
    generalize hchars : c :: cs = text at hcs
    cases hcs
    cases b <;> cases hchars <;> rfl
  | string s =>
    refine ⟨.ok (.string s), fun _ => rfl, fun c cs rest hcs _ => ?_⟩
    cases hcs with
    | string hb =>
      have hquote : Reader.scalar '"' ('"' :: (cs ++ rest)) =
          (do return .string (← Reader.string) : Reader Json) (cs ++ rest) := rfl
      rw [hquote, Reader.bind_run (string_run hb rest)]
      rfl
  | number n =>
    have hread : ∀ negative t, Signed n.text.toList negative t → ∀ c cs rest,
        (number n).HasText (c :: cs) → Ends rest → Reader.scalar c (c :: (cs ++ rest)) =
          ((t.result negative).map Json.number).map (·, rest) := by
      intro negative t hn c cs rest hcs he
      generalize hchars : c :: cs = text at hcs
      cases hcs
      rw [← hchars] at hn
      exact Reader.scalar_number hn he
    cases n with
    | natural n =>
      refine ⟨_, fun _ => ?_, hread _ _ (signed_natural n)⟩
      rw [result_natural]
      rfl
    | negSucc n =>
      refine ⟨_, fun _ => ?_, hread _ _ (signed_negSucc n)⟩
      rw [result_negSucc]
      rfl
    | binary bits =>
      obtain ⟨negative, t, hn⟩ := exists_signed (.binary bits)
      exact ⟨_, fun h => h.elim, hread _ _ hn⟩
  | array => cases hs
  | object => cases hs

-- ---------------------------------------------------------------------------
-- Values
-- ---------------------------------------------------------------------------

section
variable {depth : Nat} {f : Json → Except ReadError Json}

theorem value_array {items : List Json} (h : ∀ j ∈ items, Yields (Reader.value depth) j (f j)) :
    Yields (Reader.value (depth + 1)) (.array items) ((items.mapM f).map .array) := by
  refine yields_array fun body rest hb => ?_
  rw [Reader.bind_map (items_run hb h rest)]
  cases items.mapM f <;> rfl

theorem value_object {members : Members}
    (h : ∀ m ∈ members, Yields (Reader.value depth) m.2 (f m.2)) :
    Yields (Reader.value (depth + 1)) (.object members)
      ((members.foldlM (fun found m => (f m.2).map (Members.insert m.1 · found)) []).map
        .object) := by
  refine yields_object fun body rest hb => ?_
  have hmembers : Reader.members (Reader.value.member (Reader.value depth)) [] (body ++ rest) = _ :=
    membersBy_run id (fun _ _ _ hk => string_run hk _) hb
      (fun m hm found => ((h m hm).map (Members.insert m.1 · found)).behind) [] rest
  rw [Reader.bind_map hmembers]
  cases members.foldlM (fun found m => (f m.2).map (Members.insert m.1 · found)) [] <;> rfl

theorem value_scalar {j : Json} (hs : j.IsScalar) (depth : Nat) :
    ∃ r : Except ReadError Json, (j.Plain 0 → r = .ok j) ∧ Yields (Reader.value depth) j r := by
  obtain ⟨r, hr, h⟩ := exists_scalar hs
  exact ⟨r, hr, by cases depth <;> exact yields_scalar hs h⟩

end

theorem settles_value (depth : Nat) : Settles (Reader.value depth) := by
  refine settles_of_exists fun j => ?_
  induction depth generalizing j with
  | zero =>
    obtain hs | ⟨items, rfl⟩ | ⟨members, rfl⟩ := j.scalar_or_container
    · exact (value_scalar hs 0).imp fun _ h => h.2
    · exact ⟨.error .malformed, yields_array fun _ _ _ => rfl⟩
    · exact ⟨.error .malformed, yields_object fun _ _ _ => rfl⟩
  | succ depth ih =>
    have hvalue : Settles (Reader.value depth) := settles_of_exists ih
    obtain hs | ⟨items, rfl⟩ | ⟨members, rfl⟩ := j.scalar_or_container
    · exact (value_scalar hs (depth + 1)).imp fun _ h => h.2
    · exact ⟨_, value_array fun j _ => hvalue j⟩
    · exact ⟨_, value_object fun m _ => hvalue m.2⟩

/-- A key that comes behind all others goes behind all others. -/
theorem Members.insert_last {key : String} {value : Json} {members : Members}
    (h : ∀ m ∈ members, m.1 < key) :
    Members.insert key value members = members ++ [(key, value)] := by
  induction members with
  | nil => rfl
  | cons member members ih =>
    obtain ⟨hm, hms⟩ := List.forall_mem_cons.mp h
    have hne : key ≠ member.1 := fun he => String.lt_irrefl key (he ▸ hm)
    rw [insert, if_neg hne, if_neg (String.lt_asymm hm), ih hms]
    rfl

/-- Members in the order of their keys are put behind those that have been read. -/
theorem foldlM_insert {members : Members} (found : Members)
    (hs : ((found ++ members).map Prod.fst).Pairwise (· < ·)) :
    members.foldlM (fun found m => (Except.ok m.2 : Except ReadError Json).map
      (Members.insert m.1 · found)) found = .ok (found ++ members) := by
  induction members generalizing found with
  | nil =>
    rw [List.append_nil]
    rfl
  | cons m members ih =>
    -- the keys in front of this one are all below it, so that it goes to the end
    have hlast : ∀ other ∈ found, other.1 < m.1 := by
      rw [List.map_append, List.pairwise_append] at hs
      exact fun other ho => hs.2.2 other.1 (List.mem_map_of_mem ho) m.1 List.mem_cons_self
    rw [List.append_cons] at hs ⊢
    rw [List.foldlM_cons, ← ih _ hs, ← Members.insert_last hlast]
    rfl

theorem Plain.scalar {depth : Nat} {j : Json} (h : j.Plain depth) (hs : j.IsScalar) :
    j.Plain 0 := by
  cases j with
  | array | object => cases hs
  | number n => cases n <;> cases depth <;> exact h
  | null | bool | string => trivial

theorem Plain.reads_scalar {depth : Nat} {j : Json} (h : j.Plain depth) (hs : j.IsScalar) :
    Reads (Reader.value depth) j j := by
  obtain ⟨r, hr, hv⟩ := value_scalar hs depth
  rwa [hr (h.scalar hs)] at hv

theorem Plain.reads {depth : Nat} {j : Json} (h : j.Plain depth) :
    Reads (Reader.value depth) j j := by
  -- on the depth: what stands in a container is read with one container less to go
  induction depth generalizing j with
  | zero =>
    obtain hs | ⟨items, rfl⟩ | ⟨members, rfl⟩ := j.scalar_or_container
    · exact h.reads_scalar hs
    · cases h
    · cases h
  | succ depth ih =>
    obtain hs | ⟨items, rfl⟩ | ⟨members, rfl⟩ := j.scalar_or_container
    · exact h.reads_scalar hs
    · have hitems := value_array fun j hj => ih (h j hj)
      have hself : items.mapM (Except.ok : Json → Except ReadError Json) = .ok items := by
        refine (List.mapM_pure (m := Except ReadError) (l := items) (f := id)).trans ?_
        rw [List.map_id]
        rfl
      rwa [hself] at hitems
    · have hmembers := value_object fun m hm => ih (h.2 m hm)
      rwa [foldlM_insert [] h.1] at hmembers

/-- The compact text of a value is read as the value. -/
theorem parse_compact {j : Json} (h : j.Plain Reader.maxDepth) : parse j.compact = .ok j :=
  h.reads.decode (written_compact j)

end Accounts.Json

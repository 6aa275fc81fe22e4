import Accounts.Proofs.Decimal.Binary64

/-!
# Texts of JSON values

All the texts that a value has: with gaps between the tokens, and with the characters of strings
and keys spelled in any way. Numbers stand as they are printed. The compact text of a value is one
of them.
-/

namespace Accounts.Json

/-- What may stand between two tokens. -/
def Gap (cs : List Char) : Prop :=
  ∀ c ∈ cs, Reader.isGap c = true

theorem Gap.nil : Gap [] := nofun

theorem Gap.ends {g rest : List Char} (hg : Gap g) (h : Ends rest) : Ends (g ++ rest) := by
  cases g with
  | nil => exact h
  | cons c g => exact .inl (hg c List.mem_cons_self)

section
variable {β : Type} (V : β → List Char → Prop) (close : Char)

/-- What stands behind an element: the others, each behind a comma, and what closes the list. -/
inductive Further : List β → List Char → Prop
  | done : Further [] [close]
  | next {b : β} {bs : List β} {g cs g' body : List Char} (hg : Gap g) (h : V b cs)
    (hg' : Gap g') (hs : Further bs body) : Further (b :: bs) (',' :: (g ++ (cs ++ (g' ++ body))))

/-- The elements of a list with commas between them, and what closes it. -/
inductive Listed : List β → List Char → Prop
  | empty {g : List Char} (hg : Gap g) : Listed [] (g ++ [close])
  | first {b : β} {bs : List β} {g cs g' body : List Char} (hg : Gap g) (h : V b cs)
    (hg' : Gap g') (hs : Further V close bs body) : Listed (b :: bs) (g ++ (cs ++ (g' ++ body)))

end

/-- A key in quotes, a colon, and a value. -/
inductive Member (V : Json → List Char → Prop) : String × Json → List Char → Prop
  | mk {key : String} {j : Json} {body g g' cs : List Char} (hk : Spells key.toList body)
    (hg : Gap g) (hg' : Gap g') (h : V j cs) :
    Member V (key, j) ('"' :: (body ++ (g ++ ':' :: (g' ++ cs))))

/-- The characters are a text of the value. -/
inductive HasText : Json → List Char → Prop
  | null : HasText .null ['n', 'u', 'l', 'l']
  | bool (b : Bool) : HasText (.bool b) (chars (.bool b))
  | number (n : Number) : HasText (.number n) n.text.toList
  | string {s : String} {body : List Char} (h : Spells s.toList body) :
    HasText (.string s) ('"' :: body)
  | array {items : List Json} {body : List Char} (h : Listed HasText ']' items body) :
    HasText (.array items) ('[' :: body)
  | object {members : Members} {body : List Char}
    (h : Listed (Member HasText) '}' members body) : HasText (.object members) ('{' :: body)

/-- The whole of a text, which may have gaps around the value. -/
inductive Written (j : Json) : String → Prop
  | mk {text : String} {g cs g' : List Char} (hg : Gap g) (h : j.HasText cs) (hg' : Gap g')
    (ht : text.toList = g ++ (cs ++ g')) : Written j text

-- ---------------------------------------------------------------------------
-- Compact texts
-- ---------------------------------------------------------------------------

mutual

theorem hasText_chars : ∀ j : Json, j.HasText j.chars
  | .null => .null
  | .bool b => .bool b
  | .number n => .number n
  | .string s => .string (spells_quoteBody s)
  | .array [] => .array (.empty .nil)
  | .array (item :: items) =>
    .array (.first .nil (hasText_chars item) .nil (further_itemsChars items))
  | .object [] => .object (.empty .nil)
  | .object ((key, value) :: members) =>
    .object (.first .nil (.mk (spells_quoteBody key) .nil .nil (hasText_chars value)) .nil
      (further_membersChars members))

theorem further_itemsChars : ∀ items : List Json, Further HasText ']' items (itemsChars items)
  | [] => .done
  | item :: items => .next .nil (hasText_chars item) .nil (further_itemsChars items)

theorem further_membersChars :
    ∀ members : List (String × Json),
      Further (Member HasText) '}' members (membersChars members)
  | [] => .done
  | (key, value) :: members =>
    .next .nil (.mk (spells_quoteBody key) .nil .nil (hasText_chars value)) .nil
      (further_membersChars members)

end

theorem written_compact (j : Json) : j.Written j.compact :=
  .mk .nil (hasText_chars j) .nil (by simp [compact])

-- ---------------------------------------------------------------------------
-- Lists of elements
-- ---------------------------------------------------------------------------

section
variable {β : Type} {V : β → List Char → Prop} {close : Char} {bs : List β} {body : List Char}

theorem Further.length_lt (h : Further V close bs body) : bs.length < body.length := by
  induction h with
  | done => exact Nat.zero_lt_one
  | next _ _ _ _ ih =>
    simp only [List.length_cons, List.length_append]
    omega

theorem Further.ends (h : Further V close bs body) (hc : close = ']' ∨ close = '}')
    (rest : List Char) : Ends (body ++ rest) := by
  cases h with
  | done => exact .inr (.inr hc)
  | next => exact .inr (.inl rfl)

theorem Further.exists_text (h : Further V close bs body) {b : β} (hb : b ∈ bs) :
    ∃ cs, V b cs ∧ cs.length < body.length := by
  induction h with
  | done => cases hb
  | @next other bs g cs g' body hg hv _ _ ih =>
    cases hb with
    | head =>
      refine ⟨cs, hv, ?_⟩
      simp only [List.length_cons, List.length_append]
      omega
    | tail _ hb =>
      obtain ⟨cs', hv', hl⟩ := ih hb
      refine ⟨cs', hv', ?_⟩
      simp only [List.length_cons, List.length_append]
      omega

/-- Every element has a text of its own inside. -/
theorem Listed.exists_text (h : Listed V close bs body) {b : β} (hb : b ∈ bs) :
    ∃ cs, V b cs ∧ cs.length ≤ body.length := by
  cases h with
  | empty => cases hb
  | @first other bs g cs g' body hg hv _ hs =>
    cases hb with
    | head =>
      refine ⟨cs, hv, ?_⟩
      simp only [List.length_append]
      omega
    | tail _ hb =>
      obtain ⟨cs', hv', hl⟩ := hs.exists_text hb
      refine ⟨cs', hv', ?_⟩
      simp only [List.length_append]
      omega

end

-- ---------------------------------------------------------------------------
-- How texts begin
-- ---------------------------------------------------------------------------

/-- A magnitude with or without a minus in front. -/
inductive Signed : List Char → Bool → NumberText → Prop
  | negative {cs : List Char} {t : NumberText} (h : Magnitude cs t) :
    Signed ('-' :: cs) true t
  | positive {cs : List Char} {t : NumberText} (h : Magnitude cs t) : Signed cs false t

theorem Magnitude.exists_digit {cs : List Char} {t : NumberText} (h : Magnitude cs t) :
    ∃ c ds, cs = c :: ds ∧ c.isDigit = true := by
  obtain ⟨hw, -, -, -⟩ := h
  rename_i whole _ _ _ _
  cases whole with
  | nil => exact absurd rfl hw.ne_nil
  | cons c ds => exact ⟨c, _, rfl, hw.isDigit c List.mem_cons_self⟩

theorem signed_natural (n : UInt64) :
    Signed (Number.natural n).text.toList false ⟨Nat.toDigits 10 n.toNat, [], none⟩ := by
  rw [Number.text, Nat.toString_eq_ofList_toDigits, String.toList_ofList]
  exact .positive (magnitude_toDigits _)

theorem signed_negSucc (n : Fin 0x8000000000000000) :
    Signed (Number.negSucc n).text.toList true
      ⟨Nat.toDigits 10 (n.val + 1), [], none⟩ := by
  rw [Number.text, String.toList_append, Nat.toString_eq_ofList_toDigits,
    String.toList_ofList (l := Nat.toDigits 10 (n.val + 1))]
  exact .negative (magnitude_toDigits _)

theorem exists_signed (n : Number) : ∃ negative t, Signed n.text.toList negative t := by
  cases n with
  | natural n => exact ⟨_, _, signed_natural n⟩
  | negSucc n => exact ⟨_, _, signed_negSucc n⟩
  | binary bits =>
    obtain ⟨cs, t, hcs, ht⟩ := Binary64.magnitude_text bits
    rw [Number.text, hcs]
    split
    · exact ⟨_, t, .negative ht⟩
    · exact ⟨_, t, .positive ht⟩

theorem isGap_of_isDigit {c : Char} (h : c.isDigit = true) : Reader.isGap c = false := by
  have hne : ∀ {d : Char}, d.isDigit = false → (c == d) = false := fun hd =>
    beq_eq_false_iff_ne.mpr (ne_of_isDigit h hd)
  rw [Reader.isGap, hne rfl, hne rfl, hne rfl, hne rfl]
  rfl

/-- A value that is no container. -/
def IsScalar : Json → Prop
  | .array _ => False
  | .object _ => False
  | _ => True

theorem scalar_or_container (j : Json) :
    j.IsScalar ∨ (∃ items, j = .array items) ∨ ∃ members, j = .object members := by
  cases j with
  | array items => exact .inr (.inl ⟨items, rfl⟩)
  | object members => exact .inr (.inr ⟨members, rfl⟩)
  | null | bool | number | string => exact .inl trivial

namespace HasText

variable {j : Json} {cs : List Char}

theorem opens_scalar (h : j.HasText cs) (hs : j.IsScalar) :
    ∃ c rest, cs = c :: rest ∧ Reader.isGap c = false ∧ c ≠ '[' ∧ c ≠ '{' ∧ c ≠ ']' := by
  cases h with
  | null | string => exact ⟨_, _, rfl, by decide, by decide, by decide, by decide⟩
  | bool b => cases b <;> exact ⟨_, _, rfl, by decide, by decide, by decide, by decide⟩
  | number n =>
    obtain ⟨negative, t, hn⟩ := exists_signed n
    generalize n.text.toList = cs at hn
    cases hn with
    | negative => exact ⟨_, _, rfl, by decide, by decide, by decide, by decide⟩
    | positive hm =>
      obtain ⟨c, ds, rfl, hc⟩ := hm.exists_digit
      exact ⟨c, ds, rfl, isGap_of_isDigit hc, ne_of_isDigit hc rfl, ne_of_isDigit hc rfl,
        ne_of_isDigit hc rfl⟩
  | array | object => cases hs

/-- A text begins with no gap and with nothing that closes a list. -/
theorem opens (h : j.HasText cs) :
    ∃ c rest, cs = c :: rest ∧ Reader.isGap c = false ∧ c ≠ ']' := by
  obtain hs | ⟨items, rfl⟩ | ⟨members, rfl⟩ := j.scalar_or_container
  · obtain ⟨c, rest, hcs, hg, -, -, hc⟩ := h.opens_scalar hs
    exact ⟨c, rest, hcs, hg, hc⟩
  · cases h
    exact ⟨_, _, rfl, by decide, by decide⟩
  · cases h
    exact ⟨_, _, rfl, by decide, by decide⟩

end HasText

end Accounts.Json

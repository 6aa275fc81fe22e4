import Accounts.Proofs.Json.Tokens
import Accounts.Uuid

/-!
# Reading UUIDs back

The digits of a UUID are read as the UUID in each of the four spellings, in letters of either
case. The text of a UUID is one of them.
-/

namespace Accounts

/-- Digits stand for the number whose places they are. -/
theorem Text.hexValue_map_hexDigit (ns : List Nat) (h : ∀ n ∈ ns, n < 16) :
    hexValue (ns.map Json.hexDigit) = ns.foldl (fun value n => value * 16 + n) 0 := by
  have hfold : ∀ start, (ns.map Json.hexDigit).foldl
      (fun value c => value * 16 + (hexDigit? c).getD 0) start =
        ns.foldl (fun value n => value * 16 + n) start := by
    induction ns with
    | nil => exact fun _ => rfl
    | cons n rest ih =>
      obtain ⟨hn, hrest⟩ := List.forall_mem_cons.mp h
      intro start
      rw [List.map_cons, List.foldl_cons, List.foldl_cons, hexDigit?_hexDigit n hn,
        Option.getD_some]
      exact ih hrest _
  exact hfold 0

theorem Text.hexDigit?_toLower (c : Char) : hexDigit? c.toLower = hexDigit? c := by
  have hupper : ∀ n < 91, 65 ≤ n →
      hexDigit? (Char.ofNat n).toLower = hexDigit? (Char.ofNat n) := by decide
  by_cases h : 65 ≤ c.toNat ∧ c.toNat ≤ 90
  · simpa only [Char.ofNat_toNat] using hupper c.toNat (Nat.lt_succ_of_le h.2) h.1
  · have hsame : c.toLower = c := dif_neg h
    rw [hsame]

theorem Text.hexValue_map_toLower (cs : List Char) :
    hexValue (cs.map Char.toLower) = hexValue cs := by
  rw [hexValue, List.foldl_map]
  simp only [hexDigit?_toLower]
  rfl

theorem Text.flatten_pieces (sep : Char) (cs : List Char) :
    (pieces sep cs).flatten = cs.filter (· != sep) := by
  induction cs with
  | nil => rfl
  | cons c cs ih =>
    by_cases h : c = sep
    · simp [pieces, h, ih]
    · simp only [pieces, h, if_false]
      rw [List.filter_cons_of_pos (by simp [h]), ← ih]
      split <;> simp_all

namespace Uuid

theorem isHex_toLower (c : Char) : isHex c.toLower = isHex c := by
  rw [isHex, Text.hexDigit?_toLower, isHex]

theorem isHex_hexDigit {n : Nat} (h : n < 16) : isHex (Json.hexDigit n) = true := by
  rw [isHex, Text.hexDigit?_hexDigit n h, Option.isSome_some]

-- ---------------------------------------------------------------------------
-- The value of the digits
-- ---------------------------------------------------------------------------

/-- The first `count` digits are what is left of the number without the others. -/
theorem foldl_places (u : Uuid) {count : Nat} (hc : count ≤ 32) :
    ((List.range count).map fun index => (u.toNat >>> (4 * (31 - index))) % 16).foldl
      (fun value digit => value * 16 + digit) 0 = u.toNat >>> (4 * (32 - count)) := by
  induction count with
  | zero => exact (Nat.shiftRight_eq_zero u.toNat 128 u.bits.isLt).symm
  | succ count ih =>
    have hshift : u.toNat >>> (4 * (32 - count)) = u.toNat >>> (4 * (31 - count)) / 16 := by
      rw [show 4 * (32 - count) = 4 * (31 - count) + 4 by omega, Nat.shiftRight_add]
      exact Nat.shiftRight_eq_div_pow _ 4
    rw [List.range_succ, List.map_append, List.foldl_append, ih (by omega), hshift,
      show 32 - (count + 1) = 31 - count by omega]
    exact Nat.div_add_mod' _ 16

theorem digits_eq (u : Uuid) :
    u.digits = ((List.range 32).map fun index => (u.toNat >>> (4 * (31 - index))) % 16).map
      Json.hexDigit := by
  rw [List.map_map]
  rfl

theorem hexValue_digits (u : Uuid) : Text.hexValue u.digits = u.toNat := by
  rw [digits_eq, Text.hexValue_map_hexDigit]
  · exact u.foldl_places (Nat.le_refl 32)
  · intro n hn
    obtain ⟨index, -, rfl⟩ := List.mem_map.mp hn
    exact Nat.mod_lt _ (by decide)

theorem length_digits (u : Uuid) : u.digits.length = 32 := by
  rw [digits, List.length_map, List.length_range]

theorem isHex_digits (u : Uuid) : u.digits.all isHex = true := by
  rw [digits, List.all_map, List.all_eq_true]
  intro index _
  exact isHex_hexDigit (Nat.mod_lt _ (by decide))

-- ---------------------------------------------------------------------------
-- The spelling in groups
-- ---------------------------------------------------------------------------

theorem hyphen_notMem {cs : List Char} (h : cs.all isHex = true) : '-' ∉ cs := by
  intro hm
  have hhex := List.all_eq_true.mp h '-' hm
  revert hhex
  decide

section
variable {ds : List Char}

theorem pieces_hyphenate (hx : ds.all isHex = true) :
    Text.pieces '-' (hyphenate ds) =
      [ds.take 8, (ds.drop 8).take 4, (ds.drop 12).take 4, (ds.drop 16).take 4, ds.drop 20] := by
  have hno : ∀ {part : List Char}, part.Sublist ds → '-' ∉ part := fun hs hm =>
    hyphen_notMem hx (hs.subset hm)
  have hgroup : ∀ i n, '-' ∉ (ds.drop i).take n := fun i n =>
    hno ((List.take_sublist n _).trans (List.drop_sublist i ds))
  simp only [hyphenate, List.append_assoc, List.cons_append]
  rw [Text.pieces_append (hno (List.take_sublist 8 ds)), Text.pieces_append (hgroup 8 4),
    Text.pieces_append (hgroup 12 4), Text.pieces_append (hgroup 16 4),
    Text.pieces_single (hno (List.drop_sublist 20 ds))]

theorem flatten_groups (ds : List Char) :
    [ds.take 8, (ds.drop 8).take 4, (ds.drop 12).take 4, (ds.drop 16).take 4,
      ds.drop 20].flatten = ds := by
  have hjoin : ∀ i n, (ds.drop i).take n ++ ds.drop (i + n) = ds.drop i := by
    intro i n
    rw [← List.drop_drop, List.take_append_drop]
  simp only [List.flatten_cons, List.flatten_nil, List.append_nil]
  rw [hjoin 16 4, hjoin 12 4, hjoin 8 4, List.take_append_drop]

theorem hyphenated?_hyphenate (hl : ds.length = 32) (hx : ds.all isHex = true) :
    hyphenated? (hyphenate ds) = some ds := by
  have hlengths : (Text.pieces '-' (hyphenate ds)).map List.length = groupLengths := by
    simp [pieces_hyphenate hx, hl, groupLengths]
  have hflat : (Text.pieces '-' (hyphenate ds)).flatten = ds := by
    rw [pieces_hyphenate hx, flatten_groups]
  simp only [hyphenated?, hflat, hlengths, hx, and_self, if_true]

theorem length_hyphenate (hl : ds.length = 32) : (hyphenate ds).length = 36 := by
  simp [hyphenate, hl]

end

-- ---------------------------------------------------------------------------
-- The four spellings
-- ---------------------------------------------------------------------------

/-- The characters that stand for a UUID: its digits, in letters of either case, without hyphens,
in groups, in braces, or behind the prefix of a URN. -/
inductive Spelling (u : Uuid) : List Char → Prop
  | simple {ds : List Char} (h : ds.map Char.toLower = u.digits) : Spelling u ds
  | hyphenated {ds : List Char} (h : ds.map Char.toLower = u.digits) : Spelling u (hyphenate ds)
  | braced {ds : List Char} (h : ds.map Char.toLower = u.digits) :
    Spelling u ('{' :: hyphenate ds ++ ['}'])
  | urn {ds : List Char} (h : ds.map Char.toLower = u.digits) :
    Spelling u (urnPrefix ++ hyphenate ds)

section
variable {u : Uuid} {ds : List Char} (h : ds.map Char.toLower = u.digits)
include h

theorem length_of_digits : ds.length = 32 := by
  rw [← u.length_digits, ← h, List.length_map]

theorem isHex_of_digits : ds.all isHex = true := by
  have hx := u.isHex_digits
  rw [← h, List.all_map] at hx
  simpa only [Function.comp_def, isHex_toLower] using hx

theorem ofNat_hexValue : BitVec.ofNat 128 (Text.hexValue ds) = u.bits := by
  rw [← Text.hexValue_map_toLower, h, hexValue_digits, toNat, BitVec.ofNat_toNat,
    BitVec.setWidth_eq]

end

theorem simple?_of_length {cs : List Char} (h : cs.length ≠ 32) : simple? cs = none :=
  if_neg fun hs => h hs.1

/-- No group can hold a character that is no digit. -/
theorem hyphenated?_stray {cs : List Char} {c : Char} (hm : c ∈ cs) (hc : c ≠ '-')
    (hx : isHex c = false) : hyphenated? cs = none := by
  have hflat : (Text.pieces '-' cs).flatten.all isHex = false := by
    rw [Text.flatten_pieces, List.all_eq_false]
    refine ⟨c, List.mem_filter.mpr ⟨hm, bne_iff_ne.mpr hc⟩, ?_⟩
    rw [hx]
    exact Bool.false_ne_true
  simp only [hyphenated?, hflat, Bool.false_eq_true, and_false, if_false]

/-- Whatever is spelled, its digits are found. -/
theorem Spelling.exists_digits {u : Uuid} {cs : List Char} (h : u.Spelling cs) :
    ∃ ds, digits? cs = some ds ∧ ds.map Char.toLower = u.digits := by
  cases h with
  | @simple ds h =>
    refine ⟨_, ?_, h⟩
    have hsimple : simple? cs = some cs := if_pos ⟨length_of_digits h, isHex_of_digits h⟩
    rw [digits?, hsimple]
    rfl
  | @hyphenated ds h =>
    refine ⟨ds, ?_, h⟩
    have hsimple : simple? (hyphenate ds) = none :=
      simple?_of_length (by rw [length_hyphenate (length_of_digits h)]; decide)
    rw [digits?, hsimple,
      hyphenated?_hyphenate (length_of_digits h) (isHex_of_digits h)]
    rfl
  | @braced ds h =>
    refine ⟨ds, ?_, h⟩
    have hsimple : simple? ('{' :: hyphenate ds ++ ['}']) = none :=
      simple?_of_length (by simp [length_hyphenate (length_of_digits h)])
    have hgroups : hyphenated? ('{' :: hyphenate ds ++ ['}']) = none :=
      hyphenated?_stray (c := '{') List.mem_cons_self (by decide) (by decide)
    have hinner : braced? ('{' :: hyphenate ds ++ ['}']) = some (hyphenate ds) := by
      simp [braced?]
    rw [digits?, hsimple, hgroups, hinner, Option.bind_some,
      hyphenated?_hyphenate (length_of_digits h) (isHex_of_digits h)]
    rfl
  | @urn ds h =>
    refine ⟨ds, ?_, h⟩
    have hprefix : urnPrefix.length = 9 := by decide
    have hsimple : simple? (urnPrefix ++ hyphenate ds) = none :=
      simple?_of_length (by simp [length_hyphenate (length_of_digits h), hprefix])
    have hgroups : hyphenated? (urnPrefix ++ hyphenate ds) = none :=
      hyphenated?_stray (List.mem_append_left _ (by decide : 'u' ∈ urnPrefix)) (by decide)
        (by decide)
    have hbraced : braced? (urnPrefix ++ hyphenate ds) = none := rfl
    have hrest : urn? (urnPrefix ++ hyphenate ds) = some (hyphenate ds) := rfl
    rw [digits?, hsimple, hgroups, hbraced, hrest, Option.bind_some,
      hyphenated?_hyphenate (length_of_digits h) (isHex_of_digits h)]
    rfl

theorem Spelling.parse {u : Uuid} {s : String} (h : u.Spelling s.toList) :
    Uuid.parse s = .ok u := by
  obtain ⟨ds, hdigits, hds⟩ := h.exists_digits
  simp only [Uuid.parse, hdigits, ofNat_hexValue hds]

theorem toLower_digits (u : Uuid) : u.digits.map Char.toLower = u.digits := by
  have hlower : ∀ n < 16, (Json.hexDigit n).toLower = Json.hexDigit n := by decide
  rw [digits_eq, List.map_map, List.map_congr_left]
  intro n hn
  obtain ⟨index, -, rfl⟩ := List.mem_map.mp hn
  exact hlower _ (Nat.mod_lt _ (by decide))

theorem spelling_text (u : Uuid) : u.Spelling u.text.toList := by
  rw [text, String.toList_ofList]
  exact .hyphenated u.toLower_digits

theorem parse_text (u : Uuid) : parse u.text = .ok u :=
  u.spelling_text.parse

end Uuid

end Accounts

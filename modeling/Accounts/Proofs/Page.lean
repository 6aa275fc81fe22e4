import Accounts.Proofs.Text.Blank
import Accounts.Proofs.Text.Numeral
import Accounts.Proofs.Wire.Texts

/-!
# What page a request asks for

The two texts of a request ask for numbers by themselves, and the page is judged by these numbers
only. So it does not matter how they are written, and neither whether they come in texts of their
own or in one JSON text.
-/

namespace Accounts.Page

open Text (Blank Strips)

variable {blank number count : UInt32} {s page rows : String} {defaultRows maxRows : UInt32}

-- ---------------------------------------------------------------------------
-- Numbers
-- ---------------------------------------------------------------------------

/-- A blank text asks for the number `blank`, and a numeral with blanks around it for its own. -/
inductive Asks (blank : UInt32) (s : String) : UInt32 → Prop
  | blank : Blank s.toList → Asks blank s blank
  | numeral {core : List Char} {n : UInt32} :
      Strips s.toList core → Text.Numeral.Denotes core n.toNat → Asks blank s n

theorem readOr_eq_ok_iff : readOr blank s = .ok number ↔ Asks blank s number := by
  constructor
  · intro h
    rw [readOr] at h
    split at h
    · rename_i hblank
      cases h
      exact .blank (Text.trim_eq_empty_iff.mp hblank)
    · exact .numeral (Text.strips_trim s) (Text.readWord_eq_ok_iff.mp h)
  · intro h
    cases h with
    | blank hblank => exact if_pos (Text.trim_eq_empty_iff.mpr hblank)
    | @numeral core n hstrips hdenotes =>
      have htrim : Text.trim s = String.ofList core :=
        Text.trim_eq_iff.mpr (by simpa using hstrips)
      have hne : Text.trim s ≠ "" := by
        rw [htrim]
        simpa using hdenotes.ne_nil
      rw [readOr, if_neg hne, Text.readWord_eq_ok_iff, htrim, String.toList_ofList]
      exact hdenotes

theorem readOr_eq_error_iff :
    (∃ fault, readOr blank s = .error fault) ↔ ∀ n, ¬Asks blank s n := by
  simp only [← readOr_eq_ok_iff]
  cases readOr blank s with
  | error fault => simp
  | ok n => simp

-- ---------------------------------------------------------------------------
-- Pages
-- ---------------------------------------------------------------------------

theorem new_eq_ok_iff {p : Page} : new number count = .ok p ↔ p.number = number ∧ p.rows = count := by
  constructor
  · intro h
    rw [new] at h
    split at h
    · cases h
    · split at h
      · cases h
      · cases h
        exact ⟨rfl, rfl⟩
  · rintro ⟨rfl, rfl⟩
    exact new_self p

theorem parse_of_asks (hn : Asks 1 page number) (hr : Asks defaultRows rows count) :
    parse page rows defaultRows maxRows =
      if maxRows < count then .error (.rowsTooLarge maxRows) else new number count := by
  rw [parse, readOr_eq_ok_iff.mpr hn, readOr_eq_ok_iff.mpr hr]
  rfl

/-- A page that cannot be read is refused before the rows are looked at. -/
theorem parse_of_bad_number (h : ∀ n, ¬Asks 1 page n) :
    ∃ cause, parse page rows defaultRows maxRows = .error (.invalidNumber cause) := by
  obtain ⟨cause, hread⟩ := readOr_eq_error_iff.mpr h
  rw [parse, hread]
  exact ⟨cause, rfl⟩

theorem parse_of_bad_rows (hn : Asks 1 page number) (h : ∀ r, ¬Asks defaultRows rows r) :
    ∃ cause, parse page rows defaultRows maxRows = .error (.invalidRows cause) := by
  obtain ⟨cause, hread⟩ := readOr_eq_error_iff.mpr h
  rw [parse, readOr_eq_ok_iff.mpr hn, hread]
  exact ⟨cause, rfl⟩

theorem parse_eq_ok_iff {p : Page} : parse page rows defaultRows maxRows = .ok p ↔
    Asks 1 page p.number ∧ Asks defaultRows rows p.rows ∧ p.rows ≤ maxRows := by
  constructor
  · intro h
    cases hn : readOr 1 page with
    | error fault => rw [parse, hn] at h; cases h
    | ok number =>
      cases hr : readOr defaultRows rows with
      | error fault => rw [parse, hn, hr] at h; cases h
      | ok count =>
        have hnumber := readOr_eq_ok_iff.mp hn
        have hcount := readOr_eq_ok_iff.mp hr
        rw [parse_of_asks hnumber hcount] at h
        split at h
        · cases h
        · rename_i hmax
          obtain ⟨rfl, rfl⟩ := new_eq_ok_iff.mp h
          exact ⟨hnumber, hcount, UInt32.not_lt.mp hmax⟩
  · rintro ⟨hn, hr, hmax⟩
    rw [parse_of_asks hn hr, if_neg (UInt32.not_lt.mpr hmax), new_self]

-- ---------------------------------------------------------------------------
-- The same numbers in other forms
-- ---------------------------------------------------------------------------

/-- A number in decimal digits, with zeros in front. -/
def padded (zeros : Nat) (n : UInt32) : String :=
  String.ofList (List.replicate zeros '0') ++ toString n.toNat

theorem asks_padded (blank : UInt32) (zeros : Nat) (n : UInt32) {w x : String}
    (hw : Blank w.toList) (hx : Blank x.toList) : Asks blank (w ++ padded zeros n ++ x) n := by
  have hdenotes := Text.Numeral.denotes_padded zeros n.toNat
  refine .numeral ⟨w.toList, x.toList, by simp [padded], hw, hx, ?_⟩ hdenotes
  exact hdenotes.bare

/-- The JSON text of two numbers under the names that pages give them. -/
def jsonText (number rows : UInt32) : String :=
  "\x7b\"number\":" ++ toString number.toNat ++ ",\"rows\":" ++ toString rows.toNat ++ "\x7d"

theorem jsonText_eq (number rows : UInt32) : jsonText number rows =
    (Json.object [("number", .natural number.toNat), ("rows", .natural rows.toNat)]).compact := by
  have hnumber : Json.quote "number" = "\"number\"".toList := by decide
  have hrows : Json.quote "rows" = "\"rows\"".toList := by decide
  rw [← String.toList_inj]
  simp [jsonText, Json.compact, Json.chars, Json.membersChars, hnumber, hrows, Json.natural,
    Json.Number.text]

theorem ofText_jsonText (number rows : UInt32) : ofText (jsonText number rows) =
    (new number rows).mapError fun e => .shape (.refused e.message) := by
  rw [jsonText_eq, ofText_numbers]

/-- The page is judged before the rows, the rows before any limit, the limit of rows before zeros.
Zeros in front of a number and blanks around it make no difference, and the same numbers come to
the same out of a JSON text. -/
theorem parse_told_by_numbers (page rows : String) (defaultRows maxRows : UInt32) :
    (∀ p, parse page rows defaultRows maxRows = .ok p ↔
      Asks 1 page p.number ∧ Asks defaultRows rows p.rows ∧ p.rows ≤ maxRows) ∧
    ((∀ n, ¬Asks 1 page n) →
      ∃ cause, parse page rows defaultRows maxRows = .error (.invalidNumber cause)) ∧
    (∀ n, Asks 1 page n →
      ((∀ r, ¬Asks defaultRows rows r) →
        ∃ cause, parse page rows defaultRows maxRows = .error (.invalidRows cause)) ∧
      ∀ r, Asks defaultRows rows r →
        (maxRows < r → parse page rows defaultRows maxRows = .error (.rowsTooLarge maxRows)) ∧
        (r ≤ maxRows → parse page rows defaultRows maxRows = new n r)) ∧
    ∀ n r : UInt32,
      (n = 0 → new n r = .error .numberTooSmall) ∧
      (n ≠ 0 → r = 0 → new n r = .error .rowsTooSmall) ∧
      (n ≠ 0 → r ≠ 0 → ∃ p, new n r = .ok p ∧ p.number = n ∧ p.rows = r) ∧
      (r ≤ maxRows → ∀ (i j : Nat) (w x y z : String), Blank w.toList → Blank x.toList →
        Blank y.toList → Blank z.toList →
          parse (w ++ padded i n ++ x) (y ++ padded j r ++ z) defaultRows maxRows = new n r) ∧
      ofText (jsonText n r) = (new n r).mapError fun e => .shape (.refused e.message) := by
  refine ⟨fun p => parse_eq_ok_iff, parse_of_bad_number, fun n hn =>
    ⟨parse_of_bad_rows hn, fun r hr => ?_⟩, fun n r => ⟨?_, ?_, ?_, ?_, ofText_jsonText n r⟩⟩
  · rw [parse_of_asks hn hr]
    exact ⟨fun hlt => if_pos hlt, fun hle => if_neg (UInt32.not_lt.mpr hle)⟩
  · exact fun hn => dif_pos hn
  · exact fun hn hr => (dif_neg hn).trans (dif_pos hr)
  · exact fun hn hr => ⟨⟨n, r, hn, hr⟩, (dif_neg hn).trans (dif_neg hr), rfl, rfl⟩
  · intro hle i j w x y z hw hx hy hz
    rw [parse_of_asks (asks_padded 1 i n hw hx) (asks_padded defaultRows j r hy hz),
      if_neg (UInt32.not_lt.mpr hle)]

/-- A page of 33 bits, a number of rows over the limit, the largest page with zeros and blanks
around its number, and no rows at all. -/
theorem parse_told_by_large_numbers :
    (∀ n, ¬Asks 1 "4294967296" n) ∧
      (∃ cause, parse "4294967296" "-1" 10 100 = .error (.invalidNumber cause)) ∧
      Asks 1 "" 1 ∧ Asks 10 "+101" 101 ∧ (100 : UInt32) < 101 ∧
      parse "" "+101" 10 100 = .error (.rowsTooLarge 100) ∧
      (20 : UInt32) ≤ 100 ∧ Blank "\u3000".toList ∧ Blank "".toList ∧
      (4294967295 : UInt32) ≠ 0 ∧ (20 : UInt32) ≠ 0 ∧
      (∃ p, parse ("\u3000" ++ padded 2 4294967295 ++ "") ("" ++ padded 1 20 ++ "\u3000") 10 100 =
        .ok p ∧ p.number = 4294967295 ∧ p.rows = 20) ∧
      ofText (jsonText 7 0) = .error (.shape (.refused PageError.rowsTooSmall.message)) := by
  obtain ⟨-, hbad, -⟩ := parse_told_by_numbers "4294967296" "-1" 10 100
  obtain ⟨-, -, hasked, -⟩ := parse_told_by_numbers "" "+101" 10 100
  obtain ⟨-, -, -, hforms⟩ := parse_told_by_numbers "" "" 10 100
  obtain ⟨-, -, hnew, hpadded, -⟩ := hforms 4294967295 20
  obtain ⟨-, hzero, -, -, hjson⟩ := hforms 7 0
  have hlarge : ∀ n, ¬Asks 1 "4294967296" n := by
    have hread : ∃ fault, readOr 1 "4294967296" = .error fault := ⟨.tooLarge, by decide⟩
    exact readOr_eq_error_iff.mp hread
  have hone : Asks 1 "" 1 := .blank (by decide)
  have hrows : Asks 10 "+101" 101 := readOr_eq_ok_iff.mp (by decide)
  obtain ⟨-, hlimit⟩ := hasked 1 hone
  have hread := hpadded (by decide) 2 1 "\u3000" "" "" "\u3000" (by decide) (by decide)
    (by decide) (by decide)
  obtain ⟨p, hp, hnumber, hcount⟩ := hnew (by decide) (by decide)
  refine ⟨hlarge, hbad hlarge, hone, hrows, by decide, (hlimit 101 hrows).1 (by decide), by decide,
    by decide, by decide, by decide, by decide, ⟨p, hread.trans hp, hnumber, hcount⟩, ?_⟩
  rw [hjson, hzero (by decide) rfl]
  rfl

end Accounts.Page

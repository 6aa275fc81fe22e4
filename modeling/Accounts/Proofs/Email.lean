import Accounts.Email
import Accounts.Proofs.Text.Blank

/-!
# What an address looks like

Whatever the ASCII forms of host names are, an accepted text is a user and a domain with a single
at sign between them, within the limits of length; and every user of plain characters at a domain
of two or more plain labels is accepted. The ASCII form of a domain is asked for only where the
domain as it stands is not one.
-/

namespace Accounts.Email

open Text (Bare Strips)

variable {toAscii? : String → Option String} {cs front back user domain : List Char}

-- ---------------------------------------------------------------------------
-- The last separator
-- ---------------------------------------------------------------------------

section
variable {sep : Char}

theorem splitLast_eq_none (h : sep ∉ cs) : splitLast sep cs = none := by
  induction cs with
  | nil => rfl
  | cons c rest ih =>
    obtain ⟨hc, hrest⟩ := not_or.mp (mt List.mem_cons.mpr h)
    rw [splitLast, ih hrest]
    exact if_neg (Ne.symm hc)

theorem splitLast_append (h : sep ∉ back) :
    splitLast sep (front ++ sep :: back) = some (front, back) := by
  induction front with
  | nil =>
    rw [List.nil_append, splitLast, splitLast_eq_none h]
    exact if_pos rfl
  | cons c front ih => rw [List.cons_append, splitLast, ih]

theorem eq_append_of_splitLast (h : splitLast sep cs = some (front, back)) :
    cs = front ++ sep :: back ∧ sep ∉ back := by
  by_cases hmem : sep ∈ cs.reverse
  · obtain ⟨last, first, hcs, hlast⟩ := List.eq_append_cons_of_mem hmem
    have hsplit : cs = first.reverse ++ sep :: last.reverse := by
      rw [← List.reverse_reverse cs, hcs]
      simp
    have hlast' : sep ∉ last.reverse := mt List.mem_reverse.mp hlast
    rw [hsplit, splitLast_append hlast'] at h
    obtain ⟨rfl, rfl⟩ := Prod.mk.inj (Option.some.inj h)
    exact ⟨hsplit, hlast'⟩
  · rw [splitLast_eq_none (mt List.mem_reverse.mpr hmem)] at h
    cases h

end

-- ---------------------------------------------------------------------------
-- Users
-- ---------------------------------------------------------------------------

theorem isBlank_of_isAlphanum {c : Char} (h : c.isAlphanum = true) : Text.isBlank c = false := by
  have hranges : ((decide ('A' ≤ c ∧ c ≤ 'Z') || ('a' ≤ c && c ≤ 'z')) ||
      ('0' ≤ c && c ≤ '9')) = true := h
  simp only [Bool.or_eq_true, Bool.and_eq_true, decide_eq_true_eq, Char.le_def,
    UInt32.le_iff_toNat_le, Char.toNat_val, Char.reduceToNat] at hranges
  exact Text.isBlank_of_ascii (by omega) (by omega)

theorem isUserChar_iff {c : Char} : isUserChar c = true ↔
    c.isAlphanum = true ∨ c ∈ ".!#$%&'*+/=?^_`\x7b|\x7d~-".toList := by
  rw [isUserChar, Bool.or_eq_true, List.contains_iff_mem]

theorem isBlank_of_isUserChar {c : Char} (h : isUserChar c = true) : Text.isBlank c = false := by
  rcases isUserChar_iff.mp h with hc | hc
  · exact isBlank_of_isAlphanum hc
  · have hall : (".!#$%&'*+/=?^_`\x7b|\x7d~-".toList.all fun c => !Text.isBlank c) = true := by
      decide
    simpa using List.all_eq_true.mp hall c hc

/-- Users of plain characters: letters and digits of ASCII and the signs that may stand among
them. -/
structure PlainUser (cs : List Char) : Prop where
  ne_nil : cs ≠ []
  length_le : cs.length ≤ 64
  chars : ∀ c ∈ cs, c.isAlphanum = true ∨ c ∈ ".!#$%&'*+/=?^_`\x7b|\x7d~-".toList

-- ---------------------------------------------------------------------------
-- Domains
-- ---------------------------------------------------------------------------

/-- Labels of letters, digits and hyphens of ASCII, with no hyphen at either end. -/
structure PlainLabel (cs : List Char) : Prop where
  ne_nil : cs ≠ []
  length_le : cs.length ≤ 63
  chars : ∀ c ∈ cs, c.isAlphanum = true ∨ c = '-'
  head : cs.head? ≠ some '-'
  last : cs.getLast? ≠ some '-'

theorem isLabel_iff : isLabel cs = true ↔ PlainLabel cs := by
  have hhyphen : Char.isAlphanum '-' = false := by decide
  simp only [isLabel, Bool.and_eq_true, List.all_eq_true, Bool.or_eq_true, beq_iff_eq,
    Option.any_eq_true]
  constructor
  · rintro ⟨⟨⟨hlength, hchars⟩, c, hhead, hc⟩, d, hlast, hd⟩
    refine ⟨?_, of_decide_eq_true hlength, hchars, ?_, ?_⟩
    · rintro rfl
      cases hhead
    · intro h
      rw [Option.some.inj (hhead.symm.trans h), hhyphen] at hc
      cases hc
    · intro h
      rw [Option.some.inj (hlast.symm.trans h), hhyphen] at hd
      cases hd
  · intro h
    have hends : ∀ c ∈ cs, c ≠ '-' → c.isAlphanum = true := fun c hc hne =>
      (h.chars c hc).resolve_right hne
    obtain ⟨c, hc⟩ := Option.ne_none_iff_exists'.mp (mt List.head?_eq_none_iff.mp h.ne_nil)
    obtain ⟨d, hd⟩ := Option.ne_none_iff_exists'.mp (mt List.getLast?_eq_none_iff.mp h.ne_nil)
    refine ⟨⟨⟨decide_eq_true h.length_le, h.chars⟩, c, hc, hends c (List.mem_of_head? hc) ?_⟩, d, hd,
      hends d (List.mem_of_getLast? hd) ?_⟩
    · rintro rfl
      exact h.head hc
    · rintro rfl
      exact h.last hd

theorem PlainLabel.dot_notMem (h : PlainLabel cs) : '.' ∉ cs := fun hdot =>
  absurd (h.chars '.' hdot) (by decide)

theorem PlainLabel.at_notMem (h : PlainLabel cs) : '@' ∉ cs := fun hat =>
  absurd (h.chars '@' hat) (by decide)

theorem isHostname_intercalate {labels : List (List Char)} (hne : labels ≠ [])
    (h : ∀ label ∈ labels, PlainLabel label) : isHostname (['.'].intercalate labels) = true := by
  rw [isHostname, Text.pieces_intercalate hne fun label hl => (h label hl).dot_notMem]
  exact List.all_eq_true.mpr fun label hl => isLabel_iff.mpr (h label hl)

-- ---------------------------------------------------------------------------
-- Addresses
-- ---------------------------------------------------------------------------

/-- A user and a domain within the limits, whatever kind of domain it is. -/
structure Composed (cs user domain : List Char) : Prop where
  eq : cs = user ++ '@' :: domain
  user_ne_nil : user ≠ []
  user_length : user.length ≤ 64
  user_chars : ∀ c ∈ user, isUserChar c = true
  domain_length : domain.length ≤ 255
  at_notMem : '@' ∉ domain
  dot_mem : '.' ∈ domain

theorem isAddress_append (hat : '@' ∉ domain) : isAddress toAscii? (user ++ '@' :: domain) = true ↔
    Composed (user ++ '@' :: domain) user domain ∧ (isDomain domain = true ∨
      ∃ name, toAscii? (String.ofList domain) = some name ∧ isDomain name.toList = true) := by
  rw [isAddress, splitLast_append hat]
  simp only [Bool.and_eq_true, Bool.or_eq_true, decide_eq_true_eq, List.contains_iff_mem,
    Bool.not_eq_true', List.isEmpty_eq_false_iff, List.all_eq_true, Option.any_eq_true]
  constructor
  · rintro ⟨⟨⟨⟨⟨hdot, huser⟩, hdomain⟩, hne⟩, hchars⟩, hd⟩
    exact ⟨⟨rfl, hne, huser, hchars, hdomain, hat, hdot⟩, hd⟩
  · rintro ⟨hc, hd⟩
    exact ⟨⟨⟨⟨⟨hc.dot_mem, hc.user_length⟩, hc.domain_length⟩, hc.user_ne_nil⟩, hc.user_chars⟩, hd⟩

/-- A domain is judged as it stands, and in its ASCII form if it is none. -/
theorem isAddress_iff : isAddress toAscii? cs = true ↔ ∃ user domain, Composed cs user domain ∧
    (isDomain domain = true ∨
      ∃ name, toAscii? (String.ofList domain) = some name ∧ isDomain name.toList = true) := by
  constructor
  · intro h
    cases hsplit : splitLast '@' cs with
    | none =>
      rw [isAddress, hsplit] at h
      cases h
    | some parts =>
      obtain ⟨rfl, hat⟩ := eq_append_of_splitLast hsplit
      exact ⟨parts.1, parts.2, (isAddress_append hat).mp h⟩
  · rintro ⟨user, domain, hc, hd⟩
    obtain rfl := hc.eq
    exact (isAddress_append hc.at_notMem).mpr ⟨hc, hd⟩

theorem Composed.at_notMem_user (h : Composed cs user domain) : '@' ∉ user := fun hat =>
  absurd (h.user_chars '@' hat) (by decide)

theorem Composed.count_at (h : Composed cs user domain) : cs.count '@' = 1 := by
  rw [h.eq, List.count_append, List.count_cons_self, List.count_eq_zero_of_not_mem h.at_notMem_user,
    List.count_eq_zero_of_not_mem h.at_notMem]

/-- A plain user at a domain of two or more plain labels. -/
theorem composed_of_plain {labels : List (List Char)} (hu : PlainUser user)
    (hl : ∀ label ∈ labels, PlainLabel label) (htwo : 2 ≤ labels.length)
    (hlength : (['.'].intercalate labels).length ≤ 255) :
    Composed (user ++ '@' :: ['.'].intercalate labels) user (['.'].intercalate labels) where
  eq := rfl
  user_ne_nil := hu.ne_nil
  user_length := hu.length_le
  user_chars c hc := isUserChar_iff.mpr (hu.chars c hc)
  domain_length := hlength
  at_notMem hat := by
    rcases Text.mem_of_mem_intercalate hat with hdot | ⟨label, hlabel, hat⟩
    · exact absurd hdot (by decide)
    · exact (hl label hlabel).at_notMem hat
  dot_mem := by
    match labels, htwo with
    | first :: second :: rest, _ => simp

-- ---------------------------------------------------------------------------
-- Reading
-- ---------------------------------------------------------------------------

section
variable {s : String} {e : Email} {error : EmailError}

theorem parseWith_eq_ok_iff : parseWith toAscii? s = .ok e ↔
    Strips s.toList e.address.toList ∧ isAddress toAscii? e.address.toList = true := by
  rw [← Text.trim_eq_iff, parseWith]
  constructor
  · intro h
    split at h
    · rename_i haddress
      cases h
      exact ⟨rfl, haddress⟩
    · cases h
  · rintro ⟨htrim, haddress⟩
    rw [htrim]
    exact if_pos haddress

theorem parseWith_eq_error_iff : parseWith toAscii? s = .error error ↔
    Strips s.toList error.text.toList ∧ isAddress toAscii? error.text.toList = false := by
  rw [← Text.trim_eq_iff, parseWith]
  constructor
  · intro h
    split at h
    · cases h
    · rename_i haddress
      cases h
      exact ⟨rfl, eq_false_of_ne_true haddress⟩
  · rintro ⟨htrim, haddress⟩
    rw [htrim]
    exact if_neg (ne_true_of_eq_false haddress)

end

/-- An accepted text without the blanks around it is an address that is accepted again as it is,
a refused one is reported without them, and plain addresses are accepted whatever ASCII forms host
names have. -/
theorem parse_told_by_parts (toAscii? : String → Option String) (s : String) :
    (∀ e, parseWith toAscii? s = .ok e →
      Strips s.toList e.address.toList ∧ parseWith toAscii? e.address = .ok e ∧
      e.address.toList.count '@' = 1 ∧
      ∃ user domain, e.address.toList = user ++ '@' :: domain ∧
        1 ≤ user.length ∧ user.length ≤ 64 ∧ (∀ c ∈ user, Text.isBlank c = false) ∧
        domain.length ≤ 255 ∧ '.' ∈ domain) ∧
    (∀ error, parseWith toAscii? s = .error error → Strips s.toList error.text.toList) ∧
    ∀ user labels, Strips s.toList (user ++ '@' :: ['.'].intercalate labels) → PlainUser user →
      2 ≤ labels.length → (∀ label ∈ labels, PlainLabel label) →
      (['.'].intercalate labels).length ≤ 255 →
      parseWith toAscii? s = .ok ⟨String.ofList (user ++ '@' :: ['.'].intercalate labels)⟩ := by
  refine ⟨fun e he => ?_, fun error herror => (parseWith_eq_error_iff.mp herror).1, ?_⟩
  · obtain ⟨hstrips, haddress⟩ := parseWith_eq_ok_iff.mp he
    obtain ⟨user, domain, hc, -⟩ := isAddress_iff.mp haddress
    have hagain := parseWith_eq_ok_iff.mpr ⟨hstrips.bare.strips, haddress⟩
    exact ⟨hstrips, hagain, hc.count_at, user, domain, hc.eq, List.length_pos_iff.mpr hc.user_ne_nil,
      hc.user_length, fun c hmem => isBlank_of_isUserChar (hc.user_chars c hmem), hc.domain_length,
      hc.dot_mem⟩
  · intro user labels hstrips hu htwo hl hlength
    have hne : labels ≠ [] := by
      rintro rfl
      exact absurd htwo (by decide)
    have hdomain : isDomain (['.'].intercalate labels) = true := by
      rw [isDomain, isHostname_intercalate hne hl, Bool.true_or]
    have haddress : isAddress toAscii? (user ++ '@' :: ['.'].intercalate labels) = true :=
      isAddress_iff.mpr ⟨user, _, composed_of_plain hu hl htwo hlength, .inl hdomain⟩
    refine parseWith_eq_ok_iff.mpr ?_
    rw [String.toList_ofList]
    exact ⟨hstrips, haddress⟩

/-- A domain that is accepted for its ASCII form only, a domain that has no dot, and a plain
address. -/
theorem parse_told_by_plain_parts :
    let toAscii? : String → Option String := fun name =>
      if name = "bücher.example" then some "xn--bcher-kva.example" else none
    let named : Email := ⟨"ada@bücher.example"⟩
    let labels := ["mail".toList, "x-1".toList, "io".toList]
    parseWith toAscii? " ada@bücher.example\u3000" = .ok named ∧
      parseWith toAscii? named.address = .ok named ∧
      parseWith toAscii? " ada@localhost " = .error ⟨"ada@localhost"⟩ ∧
      Strips " ada@localhost ".toList "ada@localhost".toList ∧
      Strips " o'neil@mail.x-1.io".toList ("o'neil".toList ++ '@' :: ['.'].intercalate labels) ∧
      PlainUser "o'neil".toList ∧ 2 ≤ labels.length ∧ (∀ label ∈ labels, PlainLabel label) ∧
      (['.'].intercalate labels).length ≤ 255 ∧
      parseWith toAscii? " o'neil@mail.x-1.io" = .ok ⟨"o'neil@mail.x-1.io"⟩ := by
  intro toAscii? named labels
  obtain ⟨haccepted, -⟩ := parse_told_by_parts toAscii? " ada@bücher.example\u3000"
  obtain ⟨-, hrefused, -⟩ := parse_told_by_parts toAscii? " ada@localhost "
  obtain ⟨-, -, hplain⟩ := parse_told_by_parts toAscii? " o'neil@mail.x-1.io"
  have hnamed : parseWith toAscii? " ada@bücher.example\u3000" = .ok named :=
    parseWith_eq_ok_iff.mpr ⟨Text.trimChars_eq_iff.mp (by decide), by decide⟩
  have hlocal : parseWith toAscii? " ada@localhost " = .error ⟨"ada@localhost"⟩ :=
    parseWith_eq_error_iff.mpr ⟨Text.trimChars_eq_iff.mp (by decide), by decide⟩
  have hstrips : Strips " o'neil@mail.x-1.io".toList
      ("o'neil".toList ++ '@' :: ['.'].intercalate labels) :=
    Text.trimChars_eq_iff.mp (by decide)
  have hchars : "o'neil".toList.all isUserChar = true := by decide
  have huser : PlainUser "o'neil".toList :=
    ⟨by decide, by decide, fun c hc => isUserChar_iff.mp (List.all_eq_true.mp hchars c hc)⟩
  have hall : labels.all isLabel = true := by decide
  have hlabels : ∀ label ∈ labels, PlainLabel label := fun label hl =>
    isLabel_iff.mp (List.all_eq_true.mp hall label hl)
  have htwo : 2 ≤ labels.length := by decide
  have hlength : (['.'].intercalate labels).length ≤ 255 := by decide
  exact ⟨hnamed, (haccepted named hnamed).2.1, hlocal, hrefused _ hlocal, hstrips, huser, htwo,
    hlabels, hlength, hplain _ labels hstrips huser htwo hlabels hlength⟩

end Accounts.Email

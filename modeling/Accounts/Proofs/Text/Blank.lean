import Accounts.Text.Blank

/-!
# What trimming leaves

A text loses blanks from both of its ends and nothing else, until neither end is blank. Only one
text can be left in this way, and it is the one that `trim` gives. Pieces that are joined with a
separator between them are what is found between its occurrences.
-/

namespace Accounts.Text

/-- Blank characters only. -/
def Blank (cs : List Char) : Prop :=
  ∀ c ∈ cs, isBlank c = true

instance (cs : List Char) : Decidable (Blank cs) :=
  decidable_of_iff (cs.all isBlank = true) List.all_eq_true

/-- Neither the first character nor the last one is blank. -/
structure Bare (cs : List Char) : Prop where
  head : ∀ c, cs.head? = some c → isBlank c = false
  last : ∀ c, cs.getLast? = some c → isBlank c = false

/-- `core` is what `text` is without the blanks around it. -/
def Strips (text core : List Char) : Prop :=
  ∃ front back, text = front ++ (core ++ back) ∧ Blank front ∧ Blank back ∧ Bare core

variable {cs front back core : List Char}

/-- The printable characters of ASCII are not blank, the space apart. -/
theorem isBlank_of_ascii {c : Char} (hlow : 0x20 < c.toNat) (hhigh : c.toNat < 0x80) :
    isBlank c = false := by
  simp only [isBlank, Bool.or_eq_false_iff, Bool.and_eq_false_iff, decide_eq_false_iff_not,
    beq_eq_false_iff_ne, ne_eq]
  omega

theorem Blank.nil : Blank [] := by simp [Blank]

theorem Blank.reverse (h : Blank cs) : Blank cs.reverse := fun c hc =>
  h c (List.mem_reverse.mp hc)

theorem Bare.nil : Bare [] :=
  ⟨by simp, by simp⟩

theorem Bare.of_forall (h : ∀ c ∈ cs, isBlank c = false) : Bare cs :=
  ⟨fun c hc => h c (List.mem_of_head? hc), fun c hc => h c (List.mem_of_getLast? hc)⟩

theorem Bare.of_any (h : cs.any isBlank = false) : Bare cs :=
  .of_forall fun c hc => eq_false_of_ne_true (List.any_eq_false.mp h c hc)

-- ---------------------------------------------------------------------------
-- Leading blanks
-- ---------------------------------------------------------------------------

theorem dropBlanks_append (h : Blank front) (cs : List Char) :
    dropBlanks (front ++ cs) = dropBlanks cs :=
  List.dropWhile_append_of_pos h

theorem dropBlanks_of_blank (h : Blank cs) : dropBlanks cs = [] := by
  rw [← List.append_nil cs, dropBlanks_append h]
  rfl

theorem dropBlanks_of_head (h : ∀ c, cs.head? = some c → isBlank c = false) :
    dropBlanks cs = cs := by
  cases cs with
  | nil => rfl
  | cons c rest =>
    have hc : ¬isBlank c = true := by simp [h c rfl]
    rw [dropBlanks, List.dropWhile_cons, if_neg hc]

theorem head_dropBlanks {c : Char} (h : (dropBlanks cs).head? = some c) : isBlank c = false := by
  have hhead := List.head?_dropWhile_not isBlank cs
  rw [← dropBlanks, h] at hhead
  exact hhead

theorem exists_append_dropBlanks (cs : List Char) :
    ∃ front, Blank front ∧ cs = front ++ dropBlanks cs := by
  refine ⟨cs.takeWhile isBlank, fun c hc => ?_, List.takeWhile_append_dropWhile.symm⟩
  exact List.all_eq_true.mp (List.all_takeWhile) c hc

-- ---------------------------------------------------------------------------
-- Both ends
-- ---------------------------------------------------------------------------

theorem strips_trimChars (cs : List Char) : Strips cs (trimChars cs) := by
  obtain ⟨front, hfront, hcs⟩ := exists_append_dropBlanks cs
  obtain ⟨back, hback, hrev⟩ := exists_append_dropBlanks (dropBlanks cs).reverse
  have hmiddle : dropBlanks cs = trimChars cs ++ back.reverse := by
    have hrev' := congrArg List.reverse hrev
    rwa [List.reverse_reverse, List.reverse_append] at hrev'
  refine ⟨front, back.reverse, ?_, hfront, hback.reverse, fun c hc => ?_, fun c hc => ?_⟩
  · rw [← hmiddle]
    exact hcs
  · -- the first character that is left comes first behind the leading blanks, too
    have hhead : (dropBlanks cs).head? = some c := by
      rw [hmiddle, List.head?_append, hc]
      rfl
    exact head_dropBlanks hhead
  · rw [trimChars, List.getLast?_reverse] at hc
    exact head_dropBlanks hc

/-- Whatever blanks are around it, the same text is left. -/
theorem Strips.trimChars_eq (h : Strips cs core) : trimChars cs = core := by
  obtain ⟨front, back, rfl, hfront, hback, hcore⟩ := h
  cases hc : core with
  | nil => rw [trimChars, dropBlanks_append hfront, List.nil_append, dropBlanks_of_blank hback]; rfl
  | cons c rest =>
    have hhead : ∀ d, (core ++ back).head? = some d → isBlank d = false := by
      rw [hc]
      intro d hd
      exact hcore.head d (by rwa [hc])
    have hlast : ∀ d, core.reverse.head? = some d → isBlank d = false := by
      rw [List.head?_reverse]
      exact hcore.last
    rw [← hc, trimChars, dropBlanks_append hfront, dropBlanks_of_head hhead, List.reverse_append,
      dropBlanks_append hback.reverse, dropBlanks_of_head hlast, List.reverse_reverse]

theorem trimChars_eq_iff : trimChars cs = core ↔ Strips cs core :=
  ⟨fun h => h ▸ strips_trimChars cs, Strips.trimChars_eq⟩

theorem trim_eq_iff {s t : String} : trim s = t ↔ Strips s.toList t.toList := by
  rw [← trimChars_eq_iff, trim, ← String.toList_inj, String.toList_ofList]

theorem strips_trim (s : String) : Strips s.toList (trim s).toList :=
  trim_eq_iff.mp rfl

theorem Strips.bare (h : Strips cs core) : Bare core := by
  obtain ⟨-, -, -, -, -, hcore⟩ := h
  exact hcore

theorem Bare.strips (h : Bare cs) : Strips cs cs :=
  ⟨[], [], (List.append_nil cs).symm, .nil, .nil, h⟩

theorem strips_nil_iff : Strips cs [] ↔ Blank cs := by
  constructor
  · rintro ⟨front, back, rfl, hfront, hback, -⟩ c hc
    rcases List.mem_append.mp hc with hc | hc
    · exact hfront c hc
    · exact hback c hc
  · intro h
    exact ⟨cs, [], (List.append_nil cs).symm, h, .nil, .nil⟩

theorem trim_eq_empty_iff {s : String} : trim s = "" ↔ Blank s.toList :=
  trim_eq_iff.trans strips_nil_iff

-- ---------------------------------------------------------------------------
-- Pieces
-- ---------------------------------------------------------------------------

theorem pieces_intercalate {sep : Char} {parts : List (List Char)} (hne : parts ≠ [])
    (h : ∀ part ∈ parts, sep ∉ part) : pieces sep ([sep].intercalate parts) = parts := by
  induction parts with
  | nil => exact absurd rfl hne
  | cons part rest ih =>
    obtain ⟨hpart, hrest⟩ := List.forall_mem_cons.mp h
    cases rest with
    | nil => rw [List.intercalate_singleton, pieces_single hpart]
    | cons next rest =>
      rw [List.intercalate_cons_cons, List.append_assoc, List.singleton_append,
        pieces_append hpart, ih (by simp) hrest]

theorem mem_of_mem_intercalate {sep c : Char} {parts : List (List Char)}
    (h : c ∈ [sep].intercalate parts) : c = sep ∨ ∃ part ∈ parts, c ∈ part := by
  induction parts with
  | nil => simp at h
  | cons part rest ih =>
    cases rest with
    | nil => exact .inr ⟨part, by simp, by simpa using h⟩
    | cons next rest =>
      rw [List.intercalate_cons_cons, List.append_assoc, List.singleton_append, List.mem_append,
        List.mem_cons] at h
      rcases h with hpart | hsep | hrest
      · exact .inr ⟨part, by simp, hpart⟩
      · exact .inl hsep
      · exact (ih hrest).imp_right fun ⟨other, hother, hc⟩ =>
          ⟨other, List.mem_cons_of_mem _ hother, hc⟩

end Accounts.Text

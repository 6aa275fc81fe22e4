import Accounts.OrderBy
import Accounts.Proofs.Text.Blank

/-!
# What order a request names

A request that is not blank names an order or misnames one, and there is one rule for each way in
which it can do so. The rules follow the text, its commas and the blanks around its parts; they
say nothing of how it is taken apart.
-/

namespace Accounts

open Text (Bare Blank Strips)

theorem Text.Blank.comma_notMem {cs : List Char} (h : Blank cs) : ',' ∉ cs := fun hc =>
  absurd (h ',' hc) (by decide)

namespace Direction

variable {s word : String}

theorem bare_name (d : Direction) : Bare d.name.toList := by
  cases d <;> exact .of_any (by decide)

theorem comma_notMem_name (d : Direction) : ',' ∉ d.name.toList := by
  cases d <;> decide

theorem parse_of_strips {d : Direction} (h : Strips s.toList d.name.toList) :
    parse s = .ok d := by
  rw [parse, Text.trim_eq_iff.mpr h]
  cases d with
  | asc => exact if_pos rfl
  | desc => exact (if_neg (by decide)).trans (if_pos rfl)

theorem parse_of_unknown (h : Strips s.toList word.toList) (hw : ∀ d : Direction, d.name ≠ word) :
    parse s = .error (.unknownDirection word) := by
  have hasc : word ≠ "ASC" := (hw .asc).symm
  have hdesc : word ≠ "DESC" := (hw .desc).symm
  rw [parse, Text.trim_eq_iff.mpr h, if_neg hasc, if_neg hdesc]

end Direction

namespace OrderBy

-- ---------------------------------------------------------------------------
-- Mappings
-- ---------------------------------------------------------------------------

section
variable {mappings : List (String × String)} {name field : String}

/-- The first mapping of `name` is to `field`. -/
def FirstMapped (mappings : List (String × String)) (name field : String) : Prop :=
  ∃ earlier later, mappings = earlier ++ (name, field) :: later ∧
    ∀ mapping ∈ earlier, mapping.1 ≠ name

def Unmapped (mappings : List (String × String)) (name : String) : Prop :=
  ∀ mapping ∈ mappings, mapping.1 ≠ name

theorem FirstMapped.mem (h : FirstMapped mappings name field) : (name, field) ∈ mappings := by
  obtain ⟨earlier, later, rfl, -⟩ := h
  simp

theorem fieldOf?_eq_some_iff :
    fieldOf? mappings name = some field ↔ FirstMapped mappings name field := by
  simp only [fieldOf?, Option.map_eq_some_iff, List.find?_eq_some_iff_append, beq_iff_eq]
  constructor
  · rintro ⟨mapping, ⟨rfl, earlier, later, rfl, hearlier⟩, rfl⟩
    exact ⟨earlier, later, rfl, fun m hm => by simpa using hearlier m hm⟩
  · rintro ⟨earlier, later, rfl, hearlier⟩
    exact ⟨(name, field), ⟨rfl, earlier, later, rfl, fun m hm => by simpa using hearlier m hm⟩, rfl⟩

theorem fieldOf?_eq_none_iff : fieldOf? mappings name = none ↔ Unmapped mappings name := by
  simp [fieldOf?, Unmapped]

end

-- ---------------------------------------------------------------------------
-- Requests
-- ---------------------------------------------------------------------------

/-- A request begins with this name and blanks around it; what is left is nothing or begins with
the first comma. -/
def Begins (raw name : String) (rest : List Char) : Prop :=
  ∃ front, raw.toList = front ++ rest ∧ ',' ∉ front ∧ (∀ c, rest.head? = some c → c = ',') ∧
    Strips front name.toList

/-- A request names an order by the name of a field alone or with a direction behind a comma. -/
inductive Names (mappings : List (String × String)) (raw : String) : OrderBy → Prop
  | plain {name field : String} :
      Begins raw name [] → FirstMapped mappings name field → Names mappings raw ⟨field, .asc⟩
  | directed {name field : String} {direction : Direction} {back : List Char} :
      Begins raw name (',' :: back) → FirstMapped mappings name field → ',' ∉ back →
      Strips back direction.name.toList → Names mappings raw ⟨field, direction⟩

/-- A name without a mapping is refused whatever comes behind it, a second comma whatever the
directions are. -/
inductive Misnames (mappings : List (String × String)) (raw : String) : OrderError → Prop
  | unmapped {name : String} {rest : List Char} :
      Begins raw name rest → Unmapped mappings name → Misnames mappings raw (.unknownField name)
  | crowded {name field : String} {back : List Char} :
      Begins raw name (',' :: back) → FirstMapped mappings name field → ',' ∈ back →
      Misnames mappings raw (.unknownField raw)
  | undirected {name field word : String} {back : List Char} :
      Begins raw name (',' :: back) → FirstMapped mappings name field → ',' ∉ back →
      Strips back word.toList → (∀ d : Direction, d.name ≠ word) →
      Misnames mappings raw (.unknownDirection word)

section
variable {mappings : List (String × String)} {raw name : String} {rest back : List Char}
  {default : OrderBy}

theorem Begins.pieces_nil (h : Begins raw name []) : Text.pieces ',' raw.toList = [raw.toList] := by
  obtain ⟨front, hraw, hcomma, -⟩ := h
  rw [hraw, List.append_nil]
  exact Text.pieces_single hcomma

theorem Begins.pieces_comma (h : Begins raw name (',' :: back)) :
    ∃ front, Text.pieces ',' raw.toList = front :: Text.pieces ',' back := by
  obtain ⟨front, hraw, hcomma, -⟩ := h
  rw [hraw]
  exact ⟨front, Text.pieces_append hcomma back⟩

/-- The name that is looked up. -/
theorem Begins.requested (h : Begins raw name rest) :
    Text.trim (((Text.pieces ',' raw.toList).map String.ofList).headD "") = name := by
  obtain ⟨front, hraw, hcomma, hrest, hname⟩ := h
  have hhead : (Text.pieces ',' raw.toList).head? = some front := by
    cases rest with
    | nil => rw [hraw, List.append_nil, Text.pieces_single hcomma]; rfl
    | cons c back => rw [hraw, hrest c rfl, Text.pieces_append hcomma]; rfl
  rw [List.headD_eq_head?_getD, List.head?_map, hhead]
  exact Text.trim_eq_iff.mpr (by simpa using hname)

theorem Begins.not_blank (h : Begins raw name (',' :: back)) : ¬Blank raw.toList := by
  obtain ⟨front, hraw, -⟩ := h
  exact fun hblank => hblank.comma_notMem (by simp [hraw])

theorem exists_begins (raw : String) : ∃ name rest, Begins raw name rest := by
  by_cases hcomma : ',' ∈ raw.toList
  · obtain ⟨front, back, hraw, hfront⟩ := List.eq_append_cons_of_mem hcomma
    refine ⟨Text.trim (String.ofList front), ',' :: back, front, hraw, hfront, by simp, ?_⟩
    simpa using Text.strips_trim (String.ofList front)
  · exact ⟨Text.trim raw, [], raw.toList, (List.append_nil _).symm, hcomma, by simp,
      Text.strips_trim raw⟩

theorem parse_of_blank (h : Blank raw.toList) : parse mappings raw default = .ok default :=
  if_pos (Text.trim_eq_empty_iff.mpr h)

theorem parse_of_one_comma {field : String} (hname : Begins raw name (',' :: back))
    (hfield : FirstMapped mappings name field) (hback : ',' ∉ back) :
    parse mappings raw default = (Direction.parse (String.ofList back)).map (mk field) := by
  obtain ⟨front, hpieces⟩ := hname.pieces_comma
  rw [parse, if_neg (mt Text.trim_eq_empty_iff.mp hname.not_blank)]
  dsimp only
  rw [hname.requested, fieldOf?_eq_some_iff.mpr hfield, hpieces, Text.pieces_single hback]
  rfl

theorem parse_of_names {o : OrderBy} (hraw : ¬Blank raw.toList) (h : Names mappings raw o) :
    parse mappings raw default = .ok o := by
  cases h with
  | plain hname hfield =>
    rw [parse, if_neg (mt Text.trim_eq_empty_iff.mp hraw)]
    dsimp only
    rw [hname.requested, fieldOf?_eq_some_iff.mpr hfield, hname.pieces_nil]
    rfl
  | @directed name field direction back hname hfield hback hdirection =>
    have hparse : Direction.parse (String.ofList back) = .ok direction :=
      Direction.parse_of_strips (by simpa using hdirection)
    rw [parse_of_one_comma hname hfield hback, hparse]
    rfl

theorem parse_of_misnames {e : OrderError} (hraw : ¬Blank raw.toList)
    (h : Misnames mappings raw e) : parse mappings raw default = .error e := by
  cases h with
  | unmapped hname hmapping =>
    rw [parse, if_neg (mt Text.trim_eq_empty_iff.mp hraw)]
    dsimp only
    rw [hname.requested, fieldOf?_eq_none_iff.mpr hmapping]
  | crowded hname hfield hback =>
    obtain ⟨front, hpieces⟩ := hname.pieces_comma
    obtain ⟨middle, last, rfl, hmiddle⟩ := List.eq_append_cons_of_mem hback
    rw [parse, if_neg (mt Text.trim_eq_empty_iff.mp hraw)]
    dsimp only
    rw [hname.requested, fieldOf?_eq_some_iff.mpr hfield, hpieces, Text.pieces_append hmiddle]
    cases hlast : Text.pieces ',' last with
    | nil => exact absurd hlast (Text.pieces_ne_nil ',' last)
    | cons piece others => rfl
  | @undirected name field word back hname hfield hback hword hunknown =>
    have hparse : Direction.parse (String.ofList back) = .error (.unknownDirection word) :=
      Direction.parse_of_unknown (by simpa using hword) hunknown
    rw [parse_of_one_comma hname hfield hback, hparse]
    rfl

/-- The rules leave no request out. -/
theorem names_or_misnames (mappings : List (String × String)) (raw : String) :
    (∃ o, Names mappings raw o) ∨ ∃ e, Misnames mappings raw e := by
  obtain ⟨name, rest, hname⟩ := exists_begins raw
  cases hfield : fieldOf? mappings name with
  | none => exact .inr ⟨_, .unmapped hname (fieldOf?_eq_none_iff.mp hfield)⟩
  | some field =>
    have hmapped := fieldOf?_eq_some_iff.mp hfield
    cases rest with
    | nil => exact .inl ⟨_, .plain hname hmapped⟩
    | cons c back =>
      obtain rfl : c = ',' := by
        obtain ⟨-, -, -, hrest, -⟩ := hname
        exact hrest c rfl
      by_cases hback : ',' ∈ back
      · exact .inr ⟨_, .crowded hname hmapped hback⟩
      · have hword : Strips back (Text.trim (String.ofList back)).toList := by
          simpa using Text.strips_trim (String.ofList back)
        by_cases hknown : ∃ d : Direction, d.name = Text.trim (String.ofList back)
        · obtain ⟨d, hd⟩ := hknown
          rw [← hd] at hword
          exact .inl ⟨_, .directed hname hmapped hback hword⟩
        · exact .inr ⟨_, .undirected hname hmapped hback hword (not_exists.mp hknown)⟩

theorem parse_eq_ok_iff {o : OrderBy} (hraw : ¬Blank raw.toList) :
    parse mappings raw default = .ok o ↔ Names mappings raw o := by
  refine ⟨fun h => ?_, parse_of_names hraw⟩
  obtain ⟨o', hnames⟩ | ⟨e, hmisnames⟩ := names_or_misnames mappings raw
  · obtain rfl : o' = o := Except.ok.inj ((parse_of_names hraw hnames).symm.trans h)
    exact hnames
  · exact absurd ((parse_of_misnames hraw hmisnames).symm.trans h) (by simp)

theorem parse_eq_error_iff {e : OrderError} (hraw : ¬Blank raw.toList) :
    parse mappings raw default = .error e ↔ Misnames mappings raw e := by
  refine ⟨fun h => ?_, parse_of_misnames hraw⟩
  obtain ⟨o, hnames⟩ | ⟨e', hmisnames⟩ := names_or_misnames mappings raw
  · exact absurd ((parse_of_names hraw hnames).symm.trans h) (by simp)
  · obtain rfl : e' = e := Except.error.inj ((parse_of_misnames hraw hmisnames).symm.trans h)
    exact hmisnames

/-- A request that is not blank comes to the same whatever the default is. -/
theorem blank_of_parse_default (h : ∀ default, parse mappings raw default = .ok default) :
    Blank raw.toList := by
  refine Decidable.byContradiction fun hraw => ?_
  have hnames : Names mappings raw ⟨"", .asc⟩ := (parse_eq_ok_iff hraw).mp (h ⟨"", .asc⟩)
  have hasc : parse mappings raw ⟨"", .desc⟩ = .ok ⟨"", .asc⟩ := parse_of_names hraw hnames
  exact absurd (hasc.symm.trans (h ⟨"", .desc⟩)) (by simp)

/-- Blanks may stand around the name of the field and around that of the direction. -/
theorem parse_padded {field : String} {direction : Direction} {w x y z : List Char}
    (hraw : raw.toList = w ++ (name.toList ++ x) ++ ',' :: (y ++ (direction.name.toList ++ z)))
    (hname : Text.trim name = name) (hcomma : ',' ∉ name.toList)
    (hfield : FirstMapped mappings name field) (hw : Blank w) (hx : Blank x) (hy : Blank y)
    (hz : Blank z) : parse mappings raw default = .ok ⟨field, direction⟩ := by
  have hfront : ',' ∉ w ++ (name.toList ++ x) := by
    simp only [List.mem_append, not_or]
    exact ⟨hw.comma_notMem, hcomma, hx.comma_notMem⟩
  have hback : ',' ∉ y ++ (direction.name.toList ++ z) := by
    simp only [List.mem_append, not_or]
    exact ⟨hy.comma_notMem, direction.comma_notMem_name, hz.comma_notMem⟩
  have hbare : Bare name.toList := (Text.trim_eq_iff.mp hname).bare
  have hbegins : Begins raw name (',' :: (y ++ (direction.name.toList ++ z))) :=
    ⟨_, hraw, hfront, by simp, w, x, rfl, hw, hx, hbare⟩
  refine parse_of_names hbegins.not_blank (.directed hbegins hfield hback ?_)
  exact ⟨y, z, rfl, hy, hz, direction.bare_name⟩

/-- Whatever is not blank names an order or misnames one, and the result tells which. A written
order is read back from its own text and from every text that differs from it in blanks around the
name and the direction. -/
theorem parse_told_by_text (mappings : List (String × String)) (raw : String) :
    ((∀ default, parse mappings raw default = .ok default) ↔ Blank raw.toList) ∧
    (∀ default, ¬Blank raw.toList →
      (∀ o, parse mappings raw default = .ok o ↔ Names mappings raw o) ∧
      ∀ e, parse mappings raw default = .error e ↔ Misnames mappings raw e) ∧
    ∀ default name direction, Text.trim name = name → ',' ∉ name.toList →
      FirstMapped mappings name name →
      parse mappings (display ⟨name, direction⟩) default = .ok ⟨name, direction⟩ ∧
      ∀ w x y z : String, Blank w.toList → Blank x.toList → Blank y.toList → Blank z.toList →
        parse mappings (w ++ name ++ x ++ "," ++ y ++ direction.name ++ z) default =
          .ok ⟨name, direction⟩ := by
  refine ⟨⟨blank_of_parse_default, fun h _ => parse_of_blank h⟩, fun default hraw =>
    ⟨fun o => parse_eq_ok_iff hraw, fun e => parse_eq_error_iff hraw⟩, ?_⟩
  intro default name direction hname hcomma hfield
  constructor
  · exact parse_padded (by simp [display]) hname hcomma hfield .nil .nil .nil .nil
  · intro w x y z hw hx hy hz
    exact parse_padded (by simp) hname hcomma hfield hw hx hy hz

/-- The first of two mappings of a name counts. One request has a comma too many, another one has
blanks beyond ASCII around the name. -/
theorem parse_told_by_commas_and_blanks :
    let mappings := [("id", "user_id"), ("name", "name"), ("name", "other")]
    let default : OrderBy := ⟨"user_id", .asc⟩
    let crowded := " name ,ASC,"
    let padded := "\u3000" ++ "name" ++ "\u00A0" ++ "," ++ "" ++ "DESC" ++ " "
    ¬Blank crowded.toList ∧ Misnames mappings crowded (.unknownField crowded) ∧
      parse mappings crowded default = .error (.unknownField crowded) ∧
      Text.trim "name" = "name" ∧ ',' ∉ "name".toList ∧ FirstMapped mappings "name" "name" ∧
      Blank "\u3000".toList ∧ Blank "\u00A0".toList ∧ Blank "".toList ∧ Blank " ".toList ∧
      parse mappings padded default = .ok ⟨"name", .desc⟩ := by
  intro mappings default crowded padded
  obtain ⟨-, hcrowded, -⟩ := parse_told_by_text mappings crowded
  obtain ⟨-, -, hread⟩ := parse_told_by_text mappings padded
  have hblank : ¬Blank crowded.toList := by decide
  have hname : Text.trim "name" = "name" := by decide
  have hfield : FirstMapped mappings "name" "name" :=
    ⟨[("id", "user_id")], [("name", "other")], rfl, by simp⟩
  have hbegins : Begins crowded "name" (',' :: "ASC,".toList) :=
    ⟨" name ".toList, by decide, by decide, by simp, [' '], [' '], by decide, by decide, by decide,
      (Text.trim_eq_iff.mp hname).bare⟩
  have hmisnames : Misnames mappings crowded (.unknownField crowded) :=
    .crowded hbegins hfield (by decide)
  obtain ⟨-, hpadded⟩ := hread default "name" .desc hname (by decide) hfield
  exact ⟨hblank, hmisnames, ((hcrowded default hblank).2 _).mpr hmisnames, hname, by decide, hfield,
    by decide, by decide, by decide, by decide,
    hpadded "\u3000" "\u00A0" "" " " (by decide) (by decide) (by decide) (by decide)⟩

end

end OrderBy

end Accounts

import Accounts.Proofs.Uuid
import Accounts.Proofs.Wire.Direction
import Accounts.Wire.Events

/-!
# Wire forms read back

What is written of a page, an order, a direction, limits, a call or parameters is read as what it
was written of. A call brings its parameters, which may be any value without binary numbers that
does not nest too deep.
-/

namespace Accounts

open Json (Members Plain Reader Reads ReadError Record ShapeFault)

namespace Page

/-- The members of a page that may have these numbers. -/
def members (number rows : UInt32) : Members :=
  [("number", .natural number.toNat), ("rows", .natural rows.toNat)]

theorem wire_exact (depth : Nat) : wire.Exact depth where
  keys := by decide
  fields := by
    refine List.forall_mem_cons.mpr ⟨?_, List.forall_mem_singleton.mpr ?_⟩ <;>
      exact Record.exactField_of Reader.settles_word32 rfl (by simp [wire, Json.Field.of])

theorem wire_drafts (number rows : UInt32) (depth : Nat) :
    wire.Drafts depth (members number rows) fun seen =>
      ⟨if seen "number" then some number else none, if seen "rows" then some rows else none⟩ where
  start := rfl
  ext h := by
    rw [h "number" (by decide), h "rows" (by decide)]
  fields := by
    refine .cons ?_ (.cons ?_ .nil)
    · exact Record.drafted_of (Reader.reads_word32 number) (fun _ => Record.isSome_if ..) (by simp)
    · exact Record.drafted_of (Reader.reads_word32 rows) (fun _ => Record.isSome_if ..) (by simp)

theorem wire_build (number rows : UInt32) :
    (wire.build ⟨some number, some rows⟩).mapError ReadError.shape =
      (Page.new number rows).mapError fun e => .shape (.refused e.message) := by
  simp only [wire]
  cases Page.new number rows <;> rfl

/-- Any two numbers reach the judgment of the page. -/
theorem ofText_numbers (number rows : UInt32) :
    ofText (Json.object
      [("number", .natural number.toNat), ("rows", .natural rows.toNat)]).compact =
        (Page.new number rows).mapError fun e => .shape (.refused e.message) := by
  have hread := (wire_drafts number rows (Reader.maxDepth - 1)).decode_compact
    (wire_exact _).settled (wire_exact 0).keys
  exact hread.trans (wire_build number rows)

theorem new_self (p : Page) : Page.new p.number p.rows = .ok p := by
  rw [Page.new, dif_neg p.number_ne_zero, dif_neg p.rows_ne_zero]

theorem ofText_json (p : Page) : ofText p.json.compact = .ok p := by
  rw [json, ofText_numbers, new_self]
  rfl

end Page

theorem Direction.ofText_json (d : Direction) : ofText d.json.compact = .ok d :=
  (Direction.reads_json Reader.maxDepth d).decode (Json.written_compact _)

namespace OrderBy

theorem wire_exact (depth : Nat) : wire.Exact depth where
  keys := by decide
  fields := by
    refine List.forall_mem_cons.mpr ⟨?_, List.forall_mem_singleton.mpr ?_⟩
    · exact Record.exactField_of (Reader.settles_text _) rfl (by simp [wire, Json.Field.of])
    · exact Record.exactField_of (Direction.settles_read depth) rfl
        (by simp [wire, Json.Field.of])

theorem wire_drafts (o : OrderBy) (depth : Nat) :
    wire.Drafts depth [("field", .string o.field), ("direction", o.direction.json)] fun seen =>
      ⟨if seen "field" then some o.field else none,
        if seen "direction" then some o.direction else none⟩ where
  start := rfl
  ext h := by
    rw [h "field" (by decide), h "direction" (by decide)]
  fields := by
    refine .cons ?_ (.cons ?_ .nil)
    · exact Record.drafted_of (Reader.reads_text _ o.field) (fun _ => Record.isSome_if ..) (by simp)
    · exact Record.drafted_of (Direction.reads_json depth o.direction)
        (fun _ => Record.isSome_if ..) (by simp)

theorem ofText_json (o : OrderBy) : ofText o.json.compact = .ok o :=
  (wire_drafts o _).decode_compact (wire_exact _).settled (wire_exact 0).keys

end OrderBy

namespace Config

/-- The members of limits. -/
def members (defaultRows maxRows : UInt32) : Members :=
  [("default_rows_per_page", .natural defaultRows.toNat),
    ("max_rows_per_page", .natural maxRows.toNat)]

theorem wire_exact (depth : Nat) : wire.Exact depth where
  keys := by decide
  fields := by
    refine List.forall_mem_cons.mpr ⟨?_, List.forall_mem_singleton.mpr ?_⟩ <;>
      exact Record.exactField_of Reader.settles_word32 rfl (by simp [wire, Json.Field.of])

theorem wire_drafts (defaultRows maxRows : UInt32) (depth : Nat) :
    wire.Drafts depth (members defaultRows maxRows) fun seen =>
      ⟨if seen "default_rows_per_page" then some defaultRows else none,
        if seen "max_rows_per_page" then some maxRows else none⟩ where
  start := rfl
  ext h := by
    rw [h "default_rows_per_page" (by decide), h "max_rows_per_page" (by decide)]
  fields := by
    refine .cons ?_ (.cons ?_ .nil)
    · exact Record.drafted_of (Reader.reads_word32 defaultRows)
        (fun _ => Record.isSome_if ..) (by simp)
    · exact Record.drafted_of (Reader.reads_word32 maxRows) (fun _ => Record.isSome_if ..) (by simp)

theorem ofText_json (c : Config) : ofText c.json.compact = .ok c :=
  (wire_drafts c.defaultRows c.maxRows _).decode_compact (wire_exact _).settled (wire_exact 0).keys

end Config

namespace Uuid

theorem reads_json (u : Uuid) :
    Reads (do Record.ofShape (Uuid.ofWire (← Reader.text Uuid.expected))) u.json u := by
  intro g cs rest hg hcs he
  rw [Reader.bind_run (Reader.reads_text Uuid.expected u.text g cs rest hg hcs he), Uuid.ofWire,
    Uuid.parse_text]
  rfl

theorem settles_json :
    Json.Settles (do Record.ofShape (Uuid.ofWire (← Reader.text Uuid.expected))) :=
  Json.settles_of_exists fun j =>
    ⟨_, (Reader.settles_text _ j).bind fun s rest => Record.ofShape_run (Uuid.ofWire s) rest⟩

end Uuid

namespace DeletedParams

theorem wire_exact (depth : Nat) : wire.Exact depth where
  keys := by decide
  fields := List.forall_mem_singleton.mpr
    (Record.exactField_of Uuid.settles_json rfl (by simp [wire, Json.Field.of]))

theorem wire_drafts (p : DeletedParams) (depth : Nat) :
    wire.Drafts depth [(key, p.userId.json)] fun seen =>
      if seen key then some p.userId else none where
  start := rfl
  ext h := by
    rw [h key (by decide)]
  fields := .cons (Record.drafted_of p.userId.reads_json
    (fun _ => Record.isSome_if ..) (by simp)) .nil

theorem ofText_json (p : DeletedParams) : ofText p.json.compact = .ok p :=
  (wire_drafts p _).decode_compact (wire_exact _).settled (wire_exact 0).keys

end DeletedParams

namespace Data

theorem wire_exact (depth : Nat) : wire.Exact depth where
  keys := by decide
  fields := by
    refine List.forall_mem_cons.mpr ⟨?_, List.forall_mem_cons.mpr
      ⟨?_, List.forall_mem_singleton.mpr ?_⟩⟩
    · exact Record.exactField_of (Reader.settles_text _) rfl (by simp [wire, Json.Field.of])
    · exact Record.exactField_of (Reader.settles_text _) rfl (by simp [wire, Json.Field.of])
    · exact Record.exactField_of (Json.settles_value depth) rfl (by simp [wire, Json.Field.of])

theorem wire_drafts {d : Data} {depth : Nat} (h : d.params.Plain depth) :
    wire.Drafts depth
      [("domain", .string d.domain), ("action", .string d.action), ("raw_params", d.params)]
      fun seen =>
        ⟨if seen "domain" then some d.domain else none,
          if seen "action" then some d.action else none,
          if seen "raw_params" then some d.params else none⟩ where
  start := rfl
  ext h := by
    rw [h "domain" (by decide), h "action" (by decide), h "raw_params" (by decide)]
  fields := by
    refine .cons ?_ (.cons ?_ (.cons ?_ .nil))
    · exact Record.drafted_of (Reader.reads_text _ d.domain)
        (fun _ => Record.isSome_if ..) (by simp)
    · exact Record.drafted_of (Reader.reads_text _ d.action)
        (fun _ => Record.isSome_if ..) (by simp)
    · exact Record.drafted_of h.reads (fun _ => Record.isSome_if ..) (by simp)

theorem ofText_json {d : Data} (h : d.params.Plain (Reader.maxDepth - 1)) :
    ofText d.json.compact = .ok d :=
  (wire_drafts h).decode_compact (wire_exact _).settled (wire_exact 0).keys

end Data

/-- A call nests its parameters once more than they nest themselves. The numbers of a page are
judged however they came, so that no text is read as a page without rows or without a number. -/
theorem texts_read_back :
    (∀ p : Page, Page.ofText p.json.compact = .ok p) ∧
    (∀ o : OrderBy, OrderBy.ofText o.json.compact = .ok o) ∧
    (∀ d : Direction, Direction.ofText d.json.compact = .ok d) ∧
    (∀ c : Config, Config.ofText c.json.compact = .ok c) ∧
    (∀ p : DeletedParams, DeletedParams.ofText p.json.compact = .ok p) ∧
    (∀ (d : Data) (depth : Nat), depth < Reader.maxDepth → d.params.Plain depth →
      Data.ofText d.json.compact = .ok d) ∧
    (∀ number rows : UInt32,
      Page.ofText (Json.object [("number", .natural number.toNat),
        ("rows", .natural rows.toNat)]).compact =
          (Page.new number rows).mapError fun e => .shape (.refused e.message)) ∧
    ∀ text p, Page.ofText text = .ok p →
      1 ≤ p.number.toNat ∧ 1 ≤ p.rows.toNat ∧ Page.ofText p.json.compact = .ok p := by
  refine ⟨Page.ofText_json, OrderBy.ofText_json, Direction.ofText_json, Config.ofText_json,
    DeletedParams.ofText_json, fun d depth hd h => ?_, Page.ofText_numbers, fun text p _ => ?_⟩
  · exact Data.ofText_json (h.mono (Nat.le_sub_one_of_lt hd))
  · have hpos : ∀ {n : UInt32}, n ≠ 0 → 1 ≤ n.toNat := fun hn =>
      Nat.one_le_iff_ne_zero.mpr (mt (UInt32.toNat_inj (b := 0)).mp hn)
    exact ⟨hpos p.number_ne_zero, hpos p.rows_ne_zero, p.ofText_json⟩

/-- Parameters with escapes, a letter beyond ASCII and a negative number, and a page whose text has
gaps, another member and its numbers the other way round. -/
theorem texts_read_back_nested :
    let params : Json := .object [("a\"\\\n\x01", .array [.number (.negSucc 41), .null, .array []]),
      ("é", .object [("", .string "\t𝄞"), ("k", .natural 18446744073709551615)])]
    let d : Data := ⟨"us\\er", "", params⟩
    let text := "\x7b\"rows\": 5, \"x\": [[]], \"number\" : 4294967295\x7d"
    let p : Page := ⟨4294967295, 5, by decide, by decide⟩
    3 < Reader.maxDepth ∧ params.Plain 3 ∧ Data.ofText d.json.compact = .ok d ∧
      Page.ofText text = .ok p ∧
      1 ≤ p.number.toNat ∧ 1 ≤ p.rows.toNat ∧ Page.ofText p.json.compact = .ok p := by
  intro params d text p
  obtain ⟨-, -, -, -, -, hdata, -, hpage⟩ := texts_read_back
  have hdepth : 3 < Reader.maxDepth := by decide
  have hkeys : ["a\"\\\n\x01", "é"].Pairwise (· < ·) := by decide
  have hkeys' : ["", "k"].Pairwise (· < ·) := by decide
  have hplain : params.Plain 3 := by
    refine ⟨hkeys, List.forall_mem_cons.mpr
      ⟨?_, List.forall_mem_singleton.mpr ⟨hkeys', ?_⟩⟩⟩ <;> simp [Plain, Json.natural]
  have htext : Page.ofText text = .ok p := by decide +kernel
  exact ⟨hdepth, hplain, hdata d 3 hdepth hplain, htext, hpage text p htext⟩

end Accounts

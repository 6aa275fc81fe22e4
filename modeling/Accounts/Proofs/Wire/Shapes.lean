import Accounts.Proofs.Wire.Announcement

/-!
# Texts of other shapes

A page, an order, a call and parameters are read from an object whatever the order of its members
and whatever else stands among them, and from an array of what the fields hold. A field that is
left out or that comes twice is refused. Limits are the other way round: each may be left out, and
nothing else may be in the object.
-/

namespace Accounts

open Json (Members Plain Reader ReadError Record)

namespace Json

variable {ρ α : Type}

/-- An object with the members of `j`, each of them once and in any order, and with any others
whose keys `j` has not. -/
def Shuffled (j : Json) (text : String) : Prop :=
  ∃ values members, j = .object values ∧ (object members).Written text ∧
    (members.filter fun m => m.1 ∈ values.map Prod.fst).Perm values

/-- An object in which a key of `j` does not stand, or stands more than once. -/
def Miscounted (j : Json) (text : String) : Prop :=
  ∃ values members, j = .object values ∧ (object members).Written text ∧
    ∃ key ∈ values.map Prod.fst, members.countP (·.1 == key) ≠ 1

/-- An array of the values of `j` without their keys. -/
def Unkeyed (j : Json) (text : String) : Prop :=
  ∃ values, j = .object values ∧ (array (values.map Prod.snd)).Written text

/-- An array that has more or fewer items than `j` has members. -/
def Misfit (j : Json) (text : String) : Prop :=
  ∃ values items, j = .object values ∧ (array items).Written text ∧ items.length ≠ values.length

theorem exists_error {ε : Type} {result : Except ε α} (h : ∀ a, result ≠ .ok a) :
    ∃ e, result = .error e := by
  cases result with
  | error e => exact ⟨e, rfl⟩
  | ok a => exact absurd rfl (h a)

/-- The texts of `v`, whose wire form is `j`, are told by the keys of an object or the places in an
array. -/
structure FieldWise (ofText : String → Except ReadError α) (j : Json) (v : α) : Prop where
  shuffled {text : String} : j.Shuffled text → ofText text = .ok v
  unkeyed {text : String} : j.Unkeyed text → ofText text = .ok v
  miscounted {text : String} : j.Miscounted text → ∃ e, ofText text = .error e
  misfit {text : String} : j.Misfit text → ∃ e, ofText text = .error e

/-- An open record without defaults. -/
theorem fieldWise_of {r : Record ρ α} {depth : Nat} {values : Members}
    {draft : (String → Bool) → ρ} {v : α} (hx : r.Exact depth) (hd : r.Drafts depth values draft)
    (ho : r.closed = false) (hn : ∀ field ∈ r.fields, field.fallback = none)
    (hb : r.build (draft fun _ => true) = .ok v) :
    FieldWise (decode (r.read depth)) (.object values) v where
  shuffled := by
    rintro text ⟨_, members, hvalues, ht, hp⟩
    cases hvalues
    rw [hd.keys] at hp
    have hclosed : r.closed = true → ∀ m ∈ members, m.1 ∈ r.fields.map (·.key) := by
      rw [ho]
      nofun
    rw [hd.decode_object hx.settled hx.keys hp hclosed ht, hb]
    rfl
  unkeyed := by
    rintro text ⟨_, hvalues, ht⟩
    cases hvalues
    rw [hd.decode_array hx.settled ht, hb]
    rfl
  miscounted := by
    rintro text ⟨_, members, hvalues, ht, key, hk, hcount⟩
    cases hvalues
    rw [hd.keys] at hk
    obtain ⟨field, hf, rfl⟩ := List.mem_map.mp hk
    exact exists_error fun _ hread => hcount (hx.count_eq_one ht hread hn hf)
  misfit := by
    rintro text ⟨_, items, hvalues, ht, hlength⟩
    cases hvalues
    have hfields : values.length = r.fields.length := by
      simpa using congrArg List.length hd.keys
    exact exists_error fun _ hread =>
      hlength ((hx.length_of_decode ht hread hn).trans hfields.symm)

end Json

theorem Page.fieldWise (p : Page) : Json.FieldWise ofText p.json p := by
  refine Json.fieldWise_of (wire_exact _) (wire_drafts p.number p.rows _) rfl
    (by simp [wire, Json.Field.of]) ?_
  simp [wire, new_self, Except.mapError]

theorem OrderBy.fieldWise (o : OrderBy) : Json.FieldWise ofText o.json o :=
  Json.fieldWise_of (wire_exact _) (wire_drafts o _) rfl (by simp [wire, Json.Field.of]) rfl

theorem DeletedParams.fieldWise (p : DeletedParams) : Json.FieldWise ofText p.json p :=
  Json.fieldWise_of (wire_exact _) (wire_drafts p _) rfl (by simp [wire, Json.Field.of]) rfl

theorem Data.fieldWise {d : Data} (h : d.params.Plain (Reader.maxDepth - 1)) :
    Json.FieldWise ofText d.json d :=
  Json.fieldWise_of (wire_exact _) (wire_drafts h) rfl (by simp [wire, Json.Field.of]) rfl

namespace Config

def keys : List String := ["default_rows_per_page", "max_rows_per_page"]

/-- The members of those limits that are given. -/
def given (defaultRows maxRows : Option UInt32) : Members :=
  (defaultRows.map fun n => ("default_rows_per_page", Json.natural n.toNat)).toList ++
    (maxRows.map fun n => ("max_rows_per_page", Json.natural n.toNat)).toList

variable {defaultRows maxRows : Option UInt32} {members : Members} {text : String}

theorem mem_members_of_given {m : String × Json} (h : m ∈ given defaultRows maxRows) :
    m ∈ Config.members (defaultRows.getD default.defaultRows) (maxRows.getD default.maxRows) := by
  cases List.mem_append.mp h with
  | inl h =>
    obtain ⟨n, rfl, rfl⟩ := Option.map_eq_some_iff.mp (Option.mem_toList.mp h)
    exact List.mem_cons_self
  | inr h =>
    obtain ⟨n, rfl, rfl⟩ := Option.map_eq_some_iff.mp (Option.mem_toList.mp h)
    exact List.mem_cons_of_mem _ List.mem_cons_self

theorem foldlM_given (depth : Nat) (hp : members.Perm (given defaultRows maxRows)) :
    members.foldlM (wire.member depth) wire.start = .ok ⟨defaultRows, maxRows⟩ := by
  have hkeys : ((given defaultRows maxRows).map Prod.fst).Nodup := by
    cases defaultRows <;> cases maxRows <;> simp [given]
  have hany : ∀ k, members.any (·.1 == k) = (given defaultRows maxRows).any (·.1 == k) :=
    fun _ => hp.any_eq
  refine ((wire_drafts _ _ depth).foldlM_some (wire_exact depth).keys
    ((hp.map Prod.fst).nodup_iff.mpr hkeys)
    fun m hm => mem_members_of_given (hp.mem_iff.mp hm)).trans ?_
  cases defaultRows <;> cases maxRows <;> simp [hany, given]

section
variable (ht : (Json.object members).Written text)
include ht

theorem ofText_unknown (h : ∃ m ∈ members, m.1 ∉ keys) : ∃ e, ofText text = .error e := by
  obtain ⟨m, hm, hk⟩ := h
  exact Json.exists_error fun _ hread =>
    hk ((wire_exact _).known_of_decode ht hread rfl m hm)

theorem ofText_repeated (h : ∃ key ∈ keys, 1 < members.countP (·.1 == key)) :
    ∃ e, ofText text = .error e := by
  obtain ⟨key, hk, hcount⟩ := h
  obtain ⟨field, hf, rfl⟩ : ∃ field ∈ wire.fields, field.key = key := List.mem_map.mp hk
  exact Json.exists_error fun _ hread =>
    Nat.not_le_of_lt hcount ((wire_exact _).count_le_one ht hread hf)

/-- Each limit is what is given or, without regard to the other, the default. -/
theorem ofText_given (hp : members.Perm (given defaultRows maxRows)) :
    ofText text = .ok ⟨defaultRows.getD default.defaultRows, maxRows.getD default.maxRows⟩ := by
  have hread := Record.yields_read_object (wire_exact (Reader.maxDepth - 1)).settled members
  rw [foldlM_given _ hp] at hread
  refine (hread.decode ht).trans ?_
  cases defaultRows <;> cases maxRows <;> rfl

end

end Config

namespace DeletedParams

variable {data : Data}

theorem userIdOfJson_json (u : Uuid) : userIdOfJson u.json = .ok u := by
  rw [Uuid.json, userIdOfJson, Uuid.ofWire, Uuid.parse_text]
  rfl

/-- Out of a call, the parameters are told by their key too. -/
theorem ofData_object {members : Members} (hd : data.params = .object members)
    (hk : (members.map Prod.fst).Nodup) :
    (∀ p : DeletedParams, (key, p.userId.json) ∈ members → ofData data = .ok p) ∧
    (key ∉ members.map Prod.fst → ∃ e, ofData data = .error e) := by
  refine ⟨fun p hm => ofData_spelling hd hk hm p.userId.spelling_text, fun hm => ?_⟩
  have hnone : Json.Members.find? key members = none := by
    rw [Json.Members.find?, Option.map_eq_none_iff, List.find?_eq_none]
    exact fun m hmem hkey => hm (List.mem_map.mpr ⟨m, hmem, beq_iff_eq.mp hkey⟩)
  refine ⟨.params (.missingField key), ?_⟩
  simp only [ofData, hd, ofJson, hnone]
  rfl

theorem ofData_array {items : List Json} (hd : data.params = .array items) :
    (∀ p : DeletedParams, items = [p.userId.json] → ofData data = .ok p) ∧
    (items.length ≠ 1 → ∃ e, ofData data = .error e) := by
  rw [ofData, hd]
  refine ⟨?_, fun hlength => ?_⟩
  · rintro p rfl
    rw [ofJson, userIdOfJson_json]
    rfl
  · cases items with
    | nil => exact ⟨_, rfl⟩
    | cons j rest =>
      rw [ofJson]
      cases userIdOfJson j with
      | error fault => exact ⟨_, rfl⟩
      | ok u =>
        cases rest with
        | nil => exact absurd rfl hlength
        | cons => exact ⟨_, rfl⟩

end DeletedParams

/-- Other members change nothing, wherever they stand and whatever they hold, and no field may be
missing or come twice. Limits refuse what they do not know, and what is missing has its default. -/
theorem texts_read_by_key :
    (∀ p : Page, Json.FieldWise Page.ofText p.json p) ∧
    (∀ o : OrderBy, Json.FieldWise OrderBy.ofText o.json o) ∧
    (∀ p : DeletedParams, Json.FieldWise DeletedParams.ofText p.json p) ∧
    (∀ (d : Data) (depth : Nat), depth < Reader.maxDepth → d.params.Plain depth →
      Json.FieldWise Data.ofText d.json d) ∧
    (∀ members text, (Json.object members).Written text →
      ((∃ m ∈ members, m.1 ∉ Config.keys) → ∃ e, Config.ofText text = .error e) ∧
      ((∃ key ∈ Config.keys, 1 < members.countP (·.1 == key)) →
        ∃ e, Config.ofText text = .error e) ∧
      ∀ defaultRows maxRows, members.Perm (Config.given defaultRows maxRows) →
        Config.ofText text = .ok ⟨defaultRows.getD Config.default.defaultRows,
          maxRows.getD Config.default.maxRows⟩) ∧
    (∀ (data : Data) members, data.params = .object members → (members.map Prod.fst).Nodup →
      (∀ p : DeletedParams, (DeletedParams.key, p.userId.json) ∈ members →
        DeletedParams.ofData data = .ok p) ∧
      (DeletedParams.key ∉ members.map Prod.fst → ∃ e, DeletedParams.ofData data = .error e)) ∧
    ∀ (data : Data) items, data.params = .array items →
      (∀ p : DeletedParams, items = [p.userId.json] → DeletedParams.ofData data = .ok p) ∧
      (items.length ≠ 1 → ∃ e, DeletedParams.ofData data = .error e) :=
  ⟨Page.fieldWise, OrderBy.fieldWise, DeletedParams.fieldWise,
    fun _ _ hd h => Data.fieldWise (h.mono (Nat.le_sub_one_of_lt hd)),
    fun _ _ ht => ⟨Config.ofText_unknown ht, Config.ofText_repeated ht,
      fun _ _ => Config.ofText_given ht⟩,
    fun _ _ => DeletedParams.ofData_object, fun _ _ => DeletedParams.ofData_array⟩

/-- A page with a number that is no whole one and a key of its own inside another member, a call
with its parameters in front, limits of which one is given, with gaps, of which one is unknown, and
of which one comes twice, and parameters without their key. -/
theorem texts_read_by_key_mixed :
    let p : Page := ⟨1, 2, by decide, by decide⟩
    let page : Members :=
      [("x", .object [("rows", .array [.number (.binary 0x7E37E43C8800759C), .string "\"\x7d"])]),
        ("rows", .natural 2), ("x", .null), ("number", .natural 1)]
    let d : Data := ⟨"user", "deleted", .array [.null]⟩
    let call : Members :=
      [("raw_params", d.params), ("action", .string d.action), ("domain", .string d.domain)]
    let limits : Members := [("max_rows_per_page", .natural 7)]
    let given := "\x7b \"max_rows_per_page\"\t: 7\x7d"
    let id : Uuid := ⟨7⟩
    let params : Members := [("at", .natural 7), (DeletedParams.key, id.json)]
    (p.json.Shuffled (Json.object page).compact ∧
      Page.ofText (Json.object page).compact = .ok p) ∧
    (1 < Reader.maxDepth ∧ d.params.Plain 1 ∧ d.json.Shuffled (Json.object call).compact ∧
      Data.ofText (Json.object call).compact = .ok d) ∧
    ((Json.object limits).Written given ∧ limits.Perm (Config.given none (some 7)) ∧
      Config.ofText given = .ok ⟨10, 7⟩) ∧
    (∃ e, Config.ofText (Json.object (("x", .null) :: limits)).compact = .error e) ∧
    (∃ e, Config.ofText (Json.object (limits ++ limits)).compact = .error e) ∧
    ((params.map Prod.fst).Nodup ∧
      DeletedParams.ofData ⟨"user", "deleted", .object params⟩ = .ok ⟨id⟩) ∧
    DeletedParams.ofData ⟨"user", "deleted", .array [id.json]⟩ = .ok ⟨id⟩ := by
  intro p page d call limits given id params
  obtain ⟨hpage, -, -, hdata, hlimits, hobject, harray⟩ := texts_read_by_key
  have hp : p.json.Shuffled (Json.object page).compact :=
    ⟨_, page, rfl, Json.written_compact _, .swap ..⟩
  have hplain : d.params.Plain 1 := List.forall_mem_singleton.mpr trivial
  have hcall : call.Perm
      [("domain", .string d.domain), ("action", .string d.action), ("raw_params", d.params)] :=
    (List.reverse_perm call).symm
  have hd : d.json.Shuffled (Json.object call).compact :=
    ⟨_, call, rfl, Json.written_compact _, hcall⟩
  have hgap : ∀ c, Reader.isGap c = true → Json.Gap [c] := fun c hc =>
    List.forall_mem_singleton.mpr hc
  have hmember : Json.Member Json.HasText ("max_rows_per_page", .natural 7) _ :=
    .mk (Json.spells_quoteBody _) (hgap '\t' rfl) (hgap ' ' rfl) (Json.hasText_chars _)
  have hgiven : (Json.object limits).Written given :=
    .mk .nil (.object (.first (hgap ' ' rfl) hmember .nil .done)) .nil (by decide)
  have hunknown := hlimits _ _ (Json.written_compact (.object (("x", .null) :: limits)))
  have hrepeated := hlimits _ _ (Json.written_compact (.object (limits ++ limits)))
  have hkeys : (params.map Prod.fst).Nodup := by decide
  exact ⟨⟨hp, (hpage p).shuffled hp⟩,
    ⟨by decide, hplain, hd, (hdata d 1 (by decide) hplain).shuffled hd⟩,
    ⟨hgiven, .refl _, (hlimits limits given hgiven).2.2 none (some 7) (.refl _)⟩,
    hunknown.1 ⟨_, List.mem_cons_self, by decide⟩,
    hrepeated.2.1 ⟨"max_rows_per_page", by decide, by decide⟩,
    ⟨hkeys, (hobject _ params rfl hkeys).1 ⟨id⟩ (List.mem_cons_of_mem _ List.mem_cons_self)⟩,
    (harray _ _ rfl).1 ⟨id⟩ rfl⟩

end Accounts

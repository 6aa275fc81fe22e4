import Accounts.Proofs.Wire.Texts

/-!
# The announcement of a deletion

Whoever hears of a deletion reads the id of the deleted user, out of the call itself or out of its
text. The id may stand among other members and in any spelling.
-/

namespace Accounts

theorem Json.Members.find?_of_mem {key : String} {value : Json} {members : Members}
    (hk : (members.map Prod.fst).Nodup) (hm : (key, value) ∈ members) :
    find? key members = some value := by
  induction members with
  | nil => cases hm
  | cons member members ih =>
    obtain ⟨hkey, hkeys⟩ := List.nodup_cons.mp hk
    rw [find?, List.find?_cons]
    cases List.mem_cons.mp hm with
    | inl he =>
      subst he
      rw [beq_self_eq_true]
      rfl
    | inr hm =>
      have hne : member.1 ≠ key := fun he => hkey (he ▸ List.mem_map_of_mem hm)
      rw [beq_false_of_ne hne]
      exact ih hkeys hm

namespace DeletedParams

theorem ofData_spelling {id : Uuid} {data : Data} {members : Json.Members} {s : String}
    (hp : data.params = .object members) (hk : (members.map Prod.fst).Nodup)
    (hm : (key, .string s) ∈ members) (hs : id.Spelling s.toList) : ofData data = .ok ⟨id⟩ := by
  have hread : userIdOfJson (.string s) = .ok id := by
    rw [userIdOfJson, Uuid.ofWire, hs.parse]
    rfl
  simp only [ofData, hp, ofJson, Json.Members.find?_of_mem hk hm, hread, Except.map,
    Except.mapError]

/-- Who hears of a deletion reads the id of the deleted user. -/
theorem ofData_deletedData (id : Uuid) : ofData (Event.deletedData id) = .ok ⟨id⟩ :=
  ofData_spelling rfl (List.pairwise_singleton ..) List.mem_cons_self id.spelling_text

end DeletedParams

namespace Event

theorem ofText_deletedData (id : Uuid) :
    Data.ofText (deletedData id).json.compact = .ok (deletedData id) :=
  Data.ofText_json ⟨List.pairwise_singleton .., by simp [Json.Plain, Uuid.json]⟩

/-- The call that announces a deletion tells the id and nothing but the id, before and after it has
been a text. Of the parameters of a call only the member with the id counts, and only by the UUID
that it spells. -/
theorem announcement_told (id : Uuid) (time : Timestamp) :
    let data := (Event.deleted id time).data
    data = deletedData id ∧
    DeletedParams.ofData data = .ok ⟨id⟩ ∧
    Data.ofText data.json.compact = .ok data ∧
    (∀ id' time', (Event.deleted id' time').data = data → id' = id) ∧
    ∀ (domain action : String) (members : Json.Members) (s : String),
      (members.map Prod.fst).Nodup → (DeletedParams.key, .string s) ∈ members →
      id.Spelling s.toList →
      DeletedParams.ofData ⟨domain, action, .object members⟩ = .ok ⟨id⟩ := by
  refine ⟨rfl, DeletedParams.ofData_deletedData id, ofText_deletedData id, ?_, ?_⟩
  · intro id' time' hdata
    have hids := (DeletedParams.ofData_deletedData id').symm.trans
      ((congrArg DeletedParams.ofData hdata).trans (DeletedParams.ofData_deletedData id))
    exact congrArg DeletedParams.userId (Except.ok.inj hids)
  · exact fun domain action members s hk hm hs => DeletedParams.ofData_spelling rfl hk hm hs

/-- One id, spelled in four ways between other members. -/
theorem announcement_told_in_any_spelling :
    let id : Uuid := ⟨0x0123456789abcdef0f1e2d3c4b5a6978⟩
    let spellings := ["0123456789ABCDEF0f1e2d3c4b5a6978", "01234567-89ab-CDEF-0F1E-2d3c4b5a6978",
      "\x7b01234567-89aB-cdef-0f1e-2D3C4B5A6978\x7d",
      "urn:uuid:01234567-89AB-cdef-0f1e-2d3c4b5a6978"]
    let members (s : String) : Json.Members :=
      [("at", .natural 7), ("user_id", .string s), ("why", .array [.null])]
    ∀ s ∈ spellings, ((members s).map Prod.fst).Nodup ∧
      (DeletedParams.key, .string s) ∈ members s ∧ id.Spelling s.toList ∧
      DeletedParams.ofData ⟨"user", "deleted", .object (members s)⟩ = .ok ⟨id⟩ := by
  intro id spellings members s hs
  have hk : ((members s).map Prod.fst).Nodup := by simp [members]
  have hm : (DeletedParams.key, .string s) ∈ members s := List.mem_cons_of_mem _ List.mem_cons_self
  have hspelling : id.Spelling s.toList := by
    simp only [spellings, List.mem_cons, List.not_mem_nil, or_false] at hs
    obtain rfl | rfl | rfl | rfl := hs
    · exact .simple (by decide)
    · exact @Uuid.Spelling.hyphenated _ "0123456789abCDEF0F1E2d3c4b5a6978".toList (by decide)
    · exact @Uuid.Spelling.braced _ "0123456789aBcdef0f1e2D3C4B5A6978".toList (by decide)
    · exact @Uuid.Spelling.urn _ "0123456789ABcdef0f1e2d3c4b5a6978".toList (by decide)
  obtain ⟨-, -, -, -, htold⟩ := announcement_told id ⟨0⟩
  exact ⟨hk, hm, hspelling, htold "user" "deleted" (members s) s hk hm hspelling⟩

end Event

end Accounts

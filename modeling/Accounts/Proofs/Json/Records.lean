import Accounts.Json.Record
import Accounts.Proofs.Json.Skipping
import Mathlib.Data.List.Nodup

/-!
# Records read back

The text of an object goes member by member to the fields of a record, and that of an array item by
item. What comes of it is told by the members or the items alone, whatever the text looks like. A
record without defaults takes an object if every key of its fields occurs once, and an array if
it has as many items as the record has fields. The order of the members does not matter.
-/

namespace Accounts.Json

theorem exists_of_bind_ok {ε α β : Type} {x : Except ε α} {f : α → Except ε β} {b : β}
    (h : x >>= f = .ok b) : ∃ a, x = .ok a ∧ f a = .ok b := by
  cases x with
  | error e => cases h
  | ok a => exact ⟨a, rfl, h⟩

theorem ok_of_mapError {ε ε' α : Type} {x : Except ε α} {f : ε → ε'} {a : α}
    (h : x.mapError f = .ok a) : x = .ok a := by
  cases x with
  | error e => cases h
  | ok b =>
    cases h
    rfl

-- ---------------------------------------------------------------------------
-- What is made of members and items
-- ---------------------------------------------------------------------------

namespace Record

variable {ρ α : Type} {r : Record ρ α} {depth : Nat}

theorem ofShape_run {β : Type} (result : Except ShapeFault β) (rest : List Char) :
    (ofShape result : Reader β) rest = (result.mapError .shape).map (·, rest) := by
  cases result <;> rfl

theorem closeArray_close {g : List Char} (hg : Gap g) (rest : List Char) :
    closeArray (g ++ ']' :: rest) = .ok ((), rest) := by
  rw [closeArray, Reader.bind_run (Reader.peek_run hg (by decide) rest)]
  rfl

theorem closeArray_other {g : List Char} (hg : Gap g) {c : Char} (h : Reader.isGap c = false)
    (hc : c ≠ ']') (rest : List Char) : closeArray (g ++ c :: rest) = .error .malformed := by
  rw [closeArray, Reader.bind_run (Reader.peek_run hg h rest)]
  simp only [if_neg hc]
  rfl

/-- What the fields come to at a member. -/
def member (r : Record ρ α) (depth : Nat) (state : ρ) (m : String × Json) : Except ReadError ρ :=
  match r.fields.find? (·.key == m.1) with
  | some field =>
    if field.isSet state then .error (.shape (.duplicateField m.1))
    else outcome (field.read depth state) m.2
  | none =>
    if r.closed then .error (.shape (.unknownField m.1 (r.fields.map (·.key)))) else .ok state

theorem mem_of_find?_key {key : String} {field : Field ρ}
    (h : r.fields.find? (·.key == key) = some field) : field ∈ r.fields ∧ field.key = key :=
  ⟨List.mem_of_find?_eq_some h, by simpa using List.find?_some h⟩

theorem not_mem_of_find?_key {key : String} (h : r.fields.find? (·.key == key) = none) :
    key ∉ r.fields.map (·.key) := by
  intro hk
  obtain ⟨field, hf, rfl⟩ := List.mem_map.mp hk
  exact List.find?_eq_none.mp h field hf (beq_self_eq_true _)

/-- A member that is not refused goes to the field with its key, which was not set, or has an
unknown key and changes nothing. -/
theorem member_ok {state state' : ρ} {m : String × Json} (h : r.member depth state m = .ok state') :
    (∃ field ∈ r.fields, field.key = m.1 ∧ field.isSet state = false ∧
      outcome (field.read depth state) m.2 = .ok state') ∨
    (m.1 ∉ r.fields.map (·.key) ∧ r.closed = false ∧ state' = state) := by
  rw [member] at h
  cases hfind : r.fields.find? (·.key == m.1) with
  | some field =>
    obtain ⟨hf, hkey⟩ := mem_of_find?_key hfind
    rw [hfind] at h
    dsimp only at h
    split at h
    · cases h
    · rename_i hset
      exact .inl ⟨field, hf, hkey, Bool.eq_false_iff.mpr hset, h⟩
  | none =>
    rw [hfind] at h
    dsimp only at h
    split at h
    · cases h
    · rename_i hclosed
      cases h
      exact .inr ⟨not_mem_of_find?_key hfind, Bool.eq_false_iff.mpr hclosed, rfl⟩

/-- What the fields come to at the items of an array, from position `index` on. -/
def items (r : Record ρ α) (depth : Nat) : Nat → List (Field ρ) → List Json → ρ →
    Except ReadError ρ
  | _, [], [], state => .ok state
  | _, [], _ :: _, _ => .error .malformed
  | index, field :: fields, [], state =>
    match field.fallback with
    | some fill => items r depth (index + 1) fields [] (fill state)
    | none => .error (.shape (.invalidLength index r.lengthText))
  | index, field :: fields, j :: js, state =>
    outcome (field.read depth state) j >>= items r depth (index + 1) fields js

/-- What a field makes of a value does not depend on its text. -/
def Settled (r : Record ρ α) (depth : Nat) : Prop :=
  ∀ field ∈ r.fields, ∀ state, Settles (field.read depth state)

section
variable (h : r.Settled depth)
include h

theorem yieldsBehind_readMember (m : String × Json) (state : ρ) :
    YieldsBehind (r.readMember depth state m.1) m.2 (r.member depth state m) := by
  rw [readMember, member]
  cases hf : r.fields.find? (·.key == m.1) with
  | some field =>
    dsimp only
    split
    · exact fun _ _ _ _ _ _ _ _ => rfl
    · exact (h field (List.mem_of_find?_eq_some hf) state m.2).behind
  | none =>
    dsimp only
    split
    · exact fun _ _ _ _ _ _ _ _ => rfl
    · exact ((Reader.reads_skip m.2).map fun _ => state).behind

/-- The whole of an object. -/
theorem yields_read_object (members : Members) :
    Yields (r.read depth) (.object members)
      ((members.foldlM (r.member depth) r.start >>= fun state =>
        (complete r.fields state).mapError .shape) >>= fun state =>
          (r.build state).mapError .shape) := by
  refine Yields.bind (yields_object fun body rest hb => ?_) fun state rest => ofShape_run _ rest
  have hmembers : Reader.members (r.readMember depth) r.start (body ++ rest) = _ :=
    membersBy_run id (fun _ _ _ hk => string_run hk _) hb
      (fun m _ state => yieldsBehind_readMember h m state) r.start rest
  rw [Reader.bind_map hmembers]
  cases members.foldlM (r.member depth) r.start with
  | error e => rfl
  | ok state => exact ofShape_run _ rest

/-- An item goes to a field, and the others to the fields behind it. -/
theorem readItem_run {field : Field ρ} {fields : List (Field ρ)} (hf : field ∈ r.fields)
    {index : Nat} {j : Json} {js : List Json} {cs rest rest' : List Char} (hj : j.HasText cs)
    (he : Ends rest') {state : ρ}
    (hm : ∀ state, (do
      let state ← r.readItems depth (index + 1) fields state
      closeArray
      return state : Reader ρ) rest' =
        (r.items depth (index + 1) fields js state).map (·, rest)) :
    (do
      let state ← (do readItems r depth (index + 1) fields (← field.read depth state))
      closeArray
      return state : Reader ρ) (cs ++ rest') =
      (r.items depth index (field :: fields) (j :: js) state).map (·, rest) := by
  have hread : field.read depth state (cs ++ rest') =
      (outcome (field.read depth state) j).map (·, rest') :=
    h field hf state j [] cs rest' .nil hj he
  rw [bind_assoc, Reader.bind_map hread, items]
  cases outcome (field.read depth state) j with
  | error e => rfl
  | ok state => exact hm state

/-- Behind the first item, or where there is none. -/
theorem readItems_further {fields : List (Field ρ)} (hf : ∀ field ∈ fields, field ∈ r.fields)
    {js : List Json} {body g : List Char} (hb : Further HasText ']' js body) (hg : Gap g)
    {index : Nat} (hi : index ≠ 0) (state : ρ) (rest : List Char) :
    (do
      let state ← r.readItems depth index fields state
      closeArray
      return state : Reader ρ) (g ++ (body ++ rest)) =
      (r.items depth index fields js state).map (·, rest) := by
  induction fields generalizing js body g index state with
  | nil =>
    rw [readItems, pure_bind]
    cases hb with
    | done => exact Reader.bind_run (closeArray_close hg rest) _
    | next => exact Reader.bind_error (closeArray_other hg (by decide) (by decide) _) _
  | cons field fields ih =>
    obtain ⟨hfield, hfields⟩ := List.forall_mem_cons.mp hf
    rw [readItems, decide_eq_false hi, bind_assoc]
    cases hb with
    | done =>
      have hnext : Reader.nextItem false (g ++ ([']'] ++ rest)) = .ok (false, ']' :: rest) :=
        Reader.nextItem_close hg false rest
      rw [Reader.bind_run hnext, items]
      cases field.fallback with
      | none => rfl
      | some fill => exact ih hfields .done .nil (Nat.succ_ne_zero index) (fill state)
    | @next j js g₁ cs g₂ body hg₁ hj hg₂ hs =>
      have hnext : Reader.nextItem false (g ++ (',' :: (g₁ ++ (cs ++ (g₂ ++ body))) ++ rest)) =
          .ok (true, cs ++ (g₂ ++ (body ++ rest))) := by
        obtain ⟨c, ds, rfl, hc, hclose⟩ := hj.opens
        simpa using Reader.nextItem_comma hg hg₁ hc hclose (ds ++ (g₂ ++ (body ++ rest)))
      rw [Reader.bind_run hnext]
      exact readItem_run h hfield hj (hg₂.ends (hs.ends (.inl rfl) rest)) fun state =>
        ih hfields hs hg₂ (Nat.succ_ne_zero index) state

theorem readItems_listed {fields : List (Field ρ)} (hf : ∀ field ∈ fields, field ∈ r.fields)
    {js : List Json} {body : List Char} (hb : Listed HasText ']' js body) (state : ρ)
    (rest : List Char) :
    (do
      let state ← r.readItems depth 0 fields state
      closeArray
      return state : Reader ρ) (body ++ rest) =
      (r.items depth 0 fields js state).map (·, rest) := by
  cases fields with
  | nil =>
    rw [readItems, pure_bind]
    cases hb with
    | empty hg =>
      rw [List.append_assoc]
      exact Reader.bind_run (closeArray_close hg rest) _
    | @first j js g cs g' body hg hj =>
      obtain ⟨c, ds, rfl, hc, hclose⟩ := hj.opens
      rw [List.append_assoc]
      exact Reader.bind_error (closeArray_other hg hc hclose _) _
  | cons field fields =>
    obtain ⟨hfield, hfields⟩ := List.forall_mem_cons.mp hf
    rw [readItems, bind_assoc]
    cases hb with
    | @empty g hg =>
      have hnext : Reader.nextItem true (g ++ [']'] ++ rest) = .ok (false, ']' :: rest) := by
        rw [List.append_assoc]
        exact Reader.nextItem_close hg true rest
      refine (Reader.bind_run hnext _).trans ?_
      rw [items]
      cases field.fallback with
      | none => rfl
      | some fill => exact readItems_further h hfields .done .nil Nat.one_ne_zero (fill state) rest
    | @first j js g cs g' body hg hj hg' hs =>
      have hnext : Reader.nextItem true (g ++ (cs ++ (g' ++ body)) ++ rest) =
          .ok (true, cs ++ (g' ++ (body ++ rest))) := by
        obtain ⟨c, ds, rfl, hc, hclose⟩ := hj.opens
        simpa using Reader.nextItem_first hg hc hclose (ds ++ (g' ++ (body ++ rest)))
      refine (Reader.bind_run hnext _).trans ?_
      exact readItem_run h hfield hj (hg'.ends (hs.ends (.inl rfl) rest)) fun state =>
        readItems_further h hfields hs hg' Nat.one_ne_zero state rest

/-- The whole of an array. -/
theorem yields_read_array (js : List Json) :
    Yields (r.read depth) (.array js)
      (r.items depth 0 r.fields js r.start >>= fun state => (r.build state).mapError .shape) :=
  Yields.bind (yields_array fun _ rest hb => readItems_listed h (fun _ hf => hf) hb r.start rest)
    fun state rest => ofShape_run (r.build state) rest

end

-- ---------------------------------------------------------------------------
-- Each field once
-- ---------------------------------------------------------------------------

theorem complete_of_isSet {fields : List (Field ρ)} {state : ρ}
    (h : ∀ field ∈ fields, field.isSet state = true) : complete fields state = .ok state := by
  induction fields with
  | nil => rfl
  | cons field fields ih =>
    obtain ⟨hfield, hfields⟩ := List.forall_mem_cons.mp h
    rw [complete, if_pos hfield, ih hfields]

/-- Without defaults nothing may be left out. -/
theorem isSet_of_complete {fields : List (Field ρ)} {state filled : ρ}
    (hf : ∀ field ∈ fields, field.fallback = none) (h : complete fields state = .ok filled) :
    ∀ field ∈ fields, field.isSet state = true := by
  induction fields with
  | nil => nofun
  | cons field fields ih =>
    obtain ⟨hnone, hnones⟩ := List.forall_mem_cons.mp hf
    rw [complete] at h
    split at h
    · rename_i hset
      exact List.forall_mem_cons.mpr ⟨hset, ih hnones h⟩
    · rw [hnone] at h
      cases h

theorem length_of_items {fields : List (Field ρ)} {js : List Json} {index : Nat}
    {state state' : ρ} (hf : ∀ field ∈ fields, field.fallback = none)
    (h : r.items depth index fields js state = .ok state') : js.length = fields.length := by
  induction fields generalizing js index state with
  | nil =>
    cases js with
    | nil => rfl
    | cons j js => cases h
  | cons field fields ih =>
    obtain ⟨hnone, hnones⟩ := List.forall_mem_cons.mp hf
    cases js with
    | nil =>
      rw [items, hnone] at h
      cases h
    | cons j js =>
      rw [items] at h
      obtain ⟨next, -, hitems⟩ := exists_of_bind_ok h
      exact congrArg (· + 1) (ih hnones hitems)

/-- The field is not set at the start. When it has been read it is, and the others are as they
were. -/
structure ExactField (r : Record ρ α) (depth : Nat) (field : Field ρ) : Prop where
  settles : ∀ state, Settles (field.read depth state)
  start : field.isSet r.start = false
  sets {state state' : ρ} {j : Json} : outcome (field.read depth state) j = .ok state' →
    ∀ other ∈ r.fields, other.isSet state' = (other.key == field.key || other.isSet state)

theorem exactField_of {β : Type} {key : String} {get : ρ → Option β} {set : β → ρ → ρ}
    {read : Nat → Reader β} {fallback : Option β} (hr : Settles (read depth))
    (hn : get r.start = none)
    (hs : ∀ b state, ∀ other ∈ r.fields,
      other.isSet (set b state) = (other.key == key || other.isSet state)) :
    r.ExactField depth (.of key get set read fallback) where
  settles state := settles_of_exists fun j => ⟨_, (hr j).map (set · state)⟩
  start := congrArg Option.isSome hn
  sets := by
    intro state state' j hok
    have hmap : outcome ((Field.of key get set read fallback).read depth state) j = _ :=
      ((hr j).map (set · state)).outcome_eq
    rw [hmap] at hok
    cases hb : outcome (read depth) j with
    | error e =>
      rw [hb] at hok
      cases hok
    | ok b =>
      rw [hb] at hok
      cases hok
      exact hs b state

/-- Every field has a key of its own. -/
structure Exact (r : Record ρ α) (depth : Nat) : Prop where
  keys : (r.fields.map (·.key)).Nodup
  fields : ∀ field ∈ r.fields, r.ExactField depth field

namespace Exact

variable (h : r.Exact depth) {state state' : ρ}
include h

theorem settled : r.Settled depth := fun field hf => (h.fields field hf).settles

theorem isSet_of_member {m : String × Json} (hm : r.member depth state m = .ok state')
    {field : Field ρ} (hf : field ∈ r.fields) :
    (field.isSet state').toNat =
      (if m.1 == field.key then 1 else 0) + (field.isSet state).toNat := by
  obtain ⟨known, hknown, hkey, hset, hread⟩ | ⟨hk, -, rfl⟩ := member_ok hm
  · rw [(h.fields known hknown).sets hread field hf, hkey]
    by_cases hfield : field.key = m.1
    · have heq : field = known :=
        List.inj_on_of_nodup_map h.keys hf hknown (hfield.trans hkey.symm)
      subst heq
      simp [hfield, hset]
    · simp [beq_false_of_ne hfield, Ne.symm hfield]
  · have hne : m.1 ≠ field.key := fun he => hk (he ▸ List.mem_map_of_mem hf)
    simp [beq_false_of_ne hne]

theorem isSet_of_foldlM {members : Members}
    (hm : members.foldlM (r.member depth) state = .ok state') {field : Field ρ}
    (hf : field ∈ r.fields) :
    (field.isSet state').toNat =
      members.countP (·.1 == field.key) + (field.isSet state).toNat := by
  induction members generalizing state with
  | nil =>
    cases hm
    simp
  | cons m members ih =>
    rw [List.foldlM_cons] at hm
    obtain ⟨next, hmember, hmembers⟩ := exists_of_bind_ok hm
    rw [ih hmembers, h.isSet_of_member hmember hf, List.countP_cons]
    omega

omit h in
/-- A closed record knows every key of the objects that it takes. -/
theorem known_of_foldlM {members : Members} (hc : r.closed = true)
    (hm : members.foldlM (r.member depth) state = .ok state') :
    ∀ m ∈ members, m.1 ∈ r.fields.map (·.key) := by
  induction members generalizing state with
  | nil => nofun
  | cons m members ih =>
    rw [List.foldlM_cons] at hm
    obtain ⟨next, hmember, hmembers⟩ := exists_of_bind_ok hm
    refine List.forall_mem_cons.mpr ⟨?_, ih hmembers⟩
    obtain ⟨field, hf, hkey, -⟩ | ⟨-, hopen, -⟩ := member_ok hmember
    · exact List.mem_map.mpr ⟨field, hf, hkey⟩
    · rw [hc] at hopen
      cases hopen

variable {members : Members} {text : String} {v : α} (ht : (object members).Written text)
  (hv : decode (r.read depth) text = .ok v)
include ht hv

/-- The states that an object is taken through. -/
theorem exists_state_of_decode :
    ∃ state filled, members.foldlM (r.member depth) r.start = .ok state ∧
      complete r.fields state = .ok filled := by
  rw [(yields_read_object h.settled members).decode ht] at hv
  obtain ⟨filled, hfilled, -⟩ := exists_of_bind_ok hv
  obtain ⟨state, hstate, hcomplete⟩ := exists_of_bind_ok hfilled
  exact ⟨state, filled, hstate, ok_of_mapError hcomplete⟩

theorem count_le_one {field : Field ρ} (hf : field ∈ r.fields) :
    members.countP (·.1 == field.key) ≤ 1 := by
  obtain ⟨state, filled, hstate, -⟩ := h.exists_state_of_decode ht hv
  have hcount := h.isSet_of_foldlM hstate hf
  have hle := Bool.toNat_le (field.isSet state)
  omega

theorem count_eq_one (hn : ∀ field ∈ r.fields, field.fallback = none) {field : Field ρ}
    (hf : field ∈ r.fields) : members.countP (·.1 == field.key) = 1 := by
  obtain ⟨state, filled, hstate, hfilled⟩ := h.exists_state_of_decode ht hv
  have hcount := h.isSet_of_foldlM hstate hf
  rw [isSet_of_complete hn hfilled field hf, (h.fields field hf).start] at hcount
  exact hcount.symm

theorem known_of_decode (hc : r.closed = true) : ∀ m ∈ members, m.1 ∈ r.fields.map (·.key) := by
  obtain ⟨state, filled, hstate, -⟩ := h.exists_state_of_decode ht hv
  exact known_of_foldlM hc hstate

omit ht hv in
theorem length_of_decode {js : List Json} (ht : (array js).Written text)
    (hv : decode (r.read depth) text = .ok v)
    (hn : ∀ field ∈ r.fields, field.fallback = none) : js.length = r.fields.length := by
  rw [(yields_read_array h.settled js).decode ht] at hv
  obtain ⟨state, hstate, -⟩ := exists_of_bind_ok hv
  exact length_of_items hn hstate

end Exact

-- ---------------------------------------------------------------------------
-- In any order
-- ---------------------------------------------------------------------------

theorem isSome_if {β : Type} (seen : Bool) (b : β) :
    (if seen then some b else none).isSome = seen := by
  cases seen <;> rfl

/-- Wherever it stands among the others, the member is read as the value of the field. `draft` is
what the fields come to when those with some of the keys have been read. -/
structure Drafted (depth : Nat) (draft : (String → Bool) → ρ) (field : Field ρ)
    (m : String × Json) : Prop where
  key : field.key = m.1
  isSet : ∀ seen, field.isSet (draft seen) = seen m.1
  read : ∀ seen, Reads (field.read depth (draft seen)) m.2 (draft fun k => m.1 == k || seen k)

theorem drafted_of {β : Type} {key : String} {get : ρ → Option β} {set : β → ρ → ρ}
    {read : Nat → Reader β} {fallback : Option β} {draft : (String → Bool) → ρ} {value : Json}
    {b : β} (hr : Reads (read depth) value b) (hg : ∀ seen, (get (draft seen)).isSome = seen key)
    (hs : ∀ seen, set b (draft seen) = draft fun k => key == k || seen k) :
    Drafted depth draft (.of key get set read fallback) (key, value) where
  key := rfl
  isSet := hg
  read seen := by
    have hread := hr.map (set · (draft seen))
    change Yields _ value (.ok (set b (draft seen))) at hread
    rwa [hs] at hread

section
variable {fields : List (Field ρ)} {values : Members} {draft : (String → Bool) → ρ}
  (h : List.Forall₂ (Drafted depth draft) fields values)
include h

theorem keys_of_drafted : values.map Prod.fst = fields.map (·.key) := by
  induction h with
  | nil => rfl
  | cons hfield _ ih => rw [List.map_cons, List.map_cons, hfield.key, ih]

theorem exists_drafted {field : Field ρ} (hf : field ∈ fields) :
    ∃ m ∈ values, Drafted depth draft field m := by
  induction h with
  | nil => cases hf
  | @cons _ m _ _ hfield _ ih =>
    cases hf with
    | head => exact ⟨m, List.mem_cons_self, hfield⟩
    | tail _ hf =>
      obtain ⟨m', hm', hd⟩ := ih hf
      exact ⟨m', List.mem_cons_of_mem _ hm', hd⟩

/-- The values in the order of their fields. -/
theorem items_drafted (r : Record ρ α) (index : Nat) (seen : String → Bool) :
    r.items depth index fields (values.map Prod.snd) (draft seen) =
      .ok (draft fun k => values.any (·.1 == k) || seen k) := by
  induction h generalizing index seen with
  | nil => rfl
  | @cons field m fields vs hfield _ ih =>
    rw [List.map_cons, items, (hfield.read seen).outcome_eq]
    refine (ih (index + 1) _).trans ?_
    refine congrArg Except.ok (congrArg draft (funext fun k => ?_))
    rw [List.any_cons, Bool.or_left_comm, Bool.or_assoc]

end

/-- The fields of a record have these values, and nothing tells in which order they are read. -/
structure Drafts (r : Record ρ α) (depth : Nat) (values : Members) (draft : (String → Bool) → ρ) :
    Prop where
  start : r.start = draft fun _ => false
  ext {seen seen' : String → Bool} :
    (∀ k ∈ r.fields.map (·.key), seen k = seen' k) → draft seen = draft seen'
  fields : List.Forall₂ (Drafted depth draft) r.fields values

namespace Drafts

variable {values : Members} {draft : (String → Bool) → ρ} (h : r.Drafts depth values draft)
include h

theorem keys : values.map Prod.fst = r.fields.map (·.key) := keys_of_drafted h.fields

/-- A member that has not been seen is taken, and one with an unknown key is passed over. -/
theorem member_eq (hn : (r.fields.map (·.key)).Nodup) {m : String × Json}
    {seen : String → Bool} (hv : m.1 ∈ r.fields.map (·.key) → m ∈ values ∧ seen m.1 = false)
    (hc : r.closed = true → m.1 ∈ r.fields.map (·.key)) :
    r.member depth (draft seen) m = .ok (draft fun k => m.1 == k || seen k) := by
  rw [member]
  cases hfind : r.fields.find? (·.key == m.1) with
  | none =>
    have hne := not_mem_of_find?_key hfind
    dsimp only
    rw [if_neg (mt hc hne)]
    refine congrArg Except.ok (h.ext fun k hk => ?_)
    have hk' : m.1 ≠ k := fun he => hne (he ▸ hk)
    rw [beq_false_of_ne hk', Bool.false_or]
  | some field =>
    obtain ⟨hf, hkey⟩ := mem_of_find?_key hfind
    obtain ⟨hm, hseen⟩ := hv (List.mem_map.mpr ⟨field, hf, hkey⟩)
    obtain ⟨m', hm', hfield⟩ := exists_drafted h.fields hf
    have heq : m' = m :=
      List.inj_on_of_nodup_map (h.keys ▸ hn) hm' hm (hfield.key.symm.trans hkey)
    subst heq
    dsimp only
    rw [hfield.isSet, hseen, if_neg Bool.false_ne_true]
    exact (hfield.read seen).outcome_eq

theorem foldlM_eq (hn : (r.fields.map (·.key)).Nodup) {members : Members}
    {seen : String → Bool}
    (hm : members.Pairwise fun m m' => m.1 ∈ r.fields.map (·.key) → m.1 ≠ m'.1)
    (hv : ∀ m ∈ members, m.1 ∈ r.fields.map (·.key) → m ∈ values ∧ seen m.1 = false)
    (hc : r.closed = true → ∀ m ∈ members, m.1 ∈ r.fields.map (·.key)) :
    members.foldlM (r.member depth) (draft seen) =
      .ok (draft fun k => members.any (·.1 == k) || seen k) := by
  induction members generalizing seen with
  | nil => rfl
  | cons m members ih =>
    obtain ⟨hne, hm⟩ := List.pairwise_cons.mp hm
    obtain ⟨hmember, hmembers⟩ := List.forall_mem_cons.mp hv
    have hseen : ∀ m' ∈ members, m'.1 ∈ r.fields.map (·.key) →
        m' ∈ values ∧ (m.1 == m'.1 || seen m'.1) = false := by
      intro m' hm' hk
      obtain ⟨hvalue, hnot⟩ := hmembers m' hm' hk
      have hother : m.1 ≠ m'.1 := fun he => hne m' hm' (he ▸ hk) he
      rw [beq_false_of_ne hother, hnot]
      exact ⟨hvalue, rfl⟩
    rw [List.foldlM_cons,
      h.member_eq hn hmember fun hclosed => hc hclosed m List.mem_cons_self]
    refine (ih hm hseen fun hclosed m' hm' => hc hclosed m' (List.mem_cons_of_mem _ hm')).trans ?_
    refine congrArg Except.ok (congrArg draft (funext fun k => ?_))
    rw [List.any_cons, Bool.or_left_comm, Bool.or_assoc]

/-- Some of the values, each once. -/
theorem foldlM_some {members : Members} (hn : (r.fields.map (·.key)).Nodup)
    (hm : (members.map Prod.fst).Nodup) (hv : ∀ m ∈ members, m ∈ values) :
    members.foldlM (r.member depth) r.start = .ok (draft fun k => members.any (·.1 == k)) := by
  have hdistinct : members.Pairwise fun m m' => m.1 ∈ r.fields.map (·.key) → m.1 ≠ m'.1 := by
    rw [List.Nodup, List.pairwise_map] at hm
    refine hm.imp ?_
    intro m m' hne _
    exact hne
  rw [h.start, h.foldlM_eq hn hdistinct (fun m hm _ => ⟨hv m hm, rfl⟩)
    fun _ m hm => h.keys ▸ List.mem_map_of_mem (hv m hm)]
  simp only [Bool.or_false]

/-- The members whose keys are those of fields are the values of the fields, each once. -/
theorem foldlM_perm {members : Members} (hn : (r.fields.map (·.key)).Nodup)
    (hp : (members.filter fun m => m.1 ∈ r.fields.map (·.key)).Perm values)
    (hc : r.closed = true → ∀ m ∈ members, m.1 ∈ r.fields.map (·.key)) :
    members.foldlM (r.member depth) r.start = .ok (draft fun _ => true) := by
  have hpairwise : members.Pairwise fun m m' => m.1 ∈ r.fields.map (·.key) → m.1 ≠ m'.1 := by
    have hnodup := (hp.map Prod.fst).nodup_iff.mpr (h.keys ▸ hn)
    rw [List.Nodup, List.pairwise_map, List.pairwise_filter] at hnodup
    refine hnodup.imp ?_
    intro m m' hne hk he
    exact hne (decide_eq_true hk) (decide_eq_true (he ▸ hk)) he
  have hv : ∀ m ∈ members, m.1 ∈ r.fields.map (·.key) → m ∈ values ∧ false = false := by
    intro m hm hk
    exact ⟨hp.mem_iff.mp (List.mem_filter.mpr ⟨hm, by simpa using hk⟩), rfl⟩
  rw [h.start, h.foldlM_eq hn hpairwise hv hc]
  refine congrArg Except.ok (h.ext fun k hk => ?_)
  rw [← h.keys] at hk
  obtain ⟨m, hm, rfl⟩ := List.mem_map.mp hk
  have hmem := (List.mem_filter.mp (hp.mem_iff.mpr hm)).1
  rw [Bool.or_false]
  exact List.any_eq_true.mpr ⟨m, hmem, beq_self_eq_true _⟩

variable (hs : r.Settled depth) {text : String}
include hs

theorem decode_object {members : Members} (hn : (r.fields.map (·.key)).Nodup)
    (hp : (members.filter fun m => m.1 ∈ r.fields.map (·.key)).Perm values)
    (hc : r.closed = true → ∀ m ∈ members, m.1 ∈ r.fields.map (·.key))
    (ht : (object members).Written text) :
    decode (r.read depth) text = (r.build (draft fun _ => true)).mapError .shape := by
  have hset : ∀ field ∈ r.fields, field.isSet (draft fun _ => true) = true := fun field hf =>
    (exists_drafted h.fields hf).elim fun _ hm => hm.2.isSet _
  rw [(yields_read_object hs members).decode ht, h.foldlM_perm hn hp hc]
  change ((complete r.fields _).mapError ReadError.shape >>= _) = _
  rw [complete_of_isSet hset]
  rfl

/-- The compact text has the members in the order of the fields. -/
theorem decode_compact (hn : (r.fields.map (·.key)).Nodup) :
    decode (r.read depth) (object values).compact =
      (r.build (draft fun _ => true)).mapError .shape := by
  have hknown : ∀ m ∈ values, m.1 ∈ r.fields.map (·.key) := fun m hm =>
    h.keys ▸ List.mem_map_of_mem hm
  have hfilter : (values.filter fun m => m.1 ∈ r.fields.map (·.key)) = values :=
    List.filter_eq_self.mpr fun m hm => decide_eq_true (hknown m hm)
  exact h.decode_object hs hn (.of_eq hfilter) (fun _ => hknown) (written_compact _)

theorem decode_array (ht : (array (values.map Prod.snd)).Written text) :
    decode (r.read depth) text = (r.build (draft fun _ => true)).mapError .shape := by
  rw [(yields_read_array hs _).decode ht, h.start, items_drafted h.fields]
  refine congrArg (fun state => (r.build state).mapError ReadError.shape) (h.ext fun k hk => ?_)
  rw [← h.keys] at hk
  obtain ⟨m, hm, rfl⟩ := List.mem_map.mp hk
  rw [Bool.or_false]
  exact List.any_eq_true.mpr ⟨m, hm, beq_self_eq_true _⟩

end Drafts

end Record

end Accounts.Json

import Accounts.Keyed
import Mathlib.Data.List.Nodup

/-!
# Maps that give the same values

What a map is asked for never depends on the order in which its keys came in. Two maps are the
same if every key has the same value in both; their entries are then rearrangements of each
other.
-/

namespace Accounts.Keyed

variable {κ α β : Type} [DecidableEq κ] {t t' t'' : Keyed κ α}

/-- Every key has the same value in both maps. -/
def Same (t t' : Keyed κ α) : Prop :=
  ∀ k, t.find? k = t'.find? k

namespace Same

theorem refl (t : Keyed κ α) : t.Same t := fun _ => rfl

theorem symm (h : t.Same t') : t'.Same t := fun k => (h k).symm

theorem trans (h : t.Same t') (h' : t'.Same t'') : t.Same t'' := fun k => (h k).trans (h' k)

theorem assign (h : t.Same t') (k : κ) (value : Option α) :
    (t.assign k value).Same (t'.assign k value) := by
  intro j
  rw [find?_assign, find?_assign, h j]

theorem contains (h : t.Same t') (k : κ) : t.contains k = t'.contains k := by
  simp only [Keyed.contains, h k]

theorem entries_perm (h : t.Same t') : t.entries.Perm t'.entries := by
  rw [List.perm_ext_iff_of_nodup (.of_map _ t.nodup) (.of_map _ t'.nodup)]
  rintro ⟨k, a⟩
  rw [← find?_eq_some_iff, ← find?_eq_some_iff, h k]

theorem values_perm (h : t.Same t') : t.values.Perm t'.values :=
  h.entries_perm.map _

end Same

theorem mem_values_iff {a : α} : a ∈ t.values ↔ ∃ k, t.find? k = some a := by
  constructor
  · intro h
    obtain ⟨⟨k, b⟩, hm, rfl⟩ := List.mem_map.mp h
    exact ⟨k, find?_eq_some_iff.mpr hm⟩
  · rintro ⟨k, hk⟩
    exact List.mem_map.mpr ⟨(k, a), find?_eq_some_iff.mp hk, rfl⟩

theorem contains_iff {k : κ} : t.contains k = true ↔ ∃ a, t.find? k = some a :=
  Option.isSome_iff_exists

theorem contains_eq_false_iff {k : κ} : t.contains k = false ↔ t.find? k = none := by
  simp [contains]

theorem lookup_eq_none {entries : List (κ × β)} {k : κ} (h : k ∉ entries.map Prod.fst) :
    lookup k entries = none := by
  induction entries with
  | nil => rfl
  | cons entry rest ih =>
    simp only [List.map_cons, List.mem_cons, not_or] at h
    simp [lookup, Ne.symm h.1, ih h.2]

theorem same_iff : t.Same t' ↔
    ∀ k ∈ t.entries.map Prod.fst ++ t'.entries.map Prod.fst, t.find? k = t'.find? k := by
  constructor
  · intro h k _
    exact h k
  · intro h k
    by_cases hk : k ∈ t.entries.map Prod.fst ++ t'.entries.map Prod.fst
    · exact h k hk
    · rw [List.mem_append, not_or] at hk
      exact (lookup_eq_none hk.1).trans (lookup_eq_none hk.2).symm

instance [DecidableEq α] : Decidable (t.Same t') :=
  decidable_of_iff _ same_iff.symm

/-- Of entries that are assigned one after the other, each with a key of its own, every key has
the value of its entry, and a key without an entry has the value that it had. -/
theorem find?_foldl_assign (f : β → Option α) (entries : List (κ × β))
    (h : (entries.map Prod.fst).Nodup) (t : Keyed κ α) (k : κ) :
    (entries.foldl (fun t entry => t.assign entry.1 (f entry.2)) t).find? k =
      (lookup k entries).elim (t.find? k) f := by
  induction entries generalizing t with
  | nil => rfl
  | cons entry rest ih =>
    obtain ⟨hn, hr⟩ := List.nodup_cons.mp h
    rw [List.foldl_cons, ih hr]
    by_cases hk : entry.1 = k
    · subst hk
      simp [lookup, lookup_eq_none hn, find?_assign]
    · simp [lookup, find?_assign, hk]

-- ---------------------------------------------------------------------------
-- Other values under the same keys
-- ---------------------------------------------------------------------------

section
variable (f : α → β)

/-- Every entry keeps its key and its place. -/
def mapValues (t : Keyed κ α) : Keyed κ β :=
  ⟨t.entries.map fun entry => (entry.1, f entry.2), by
    have hkeys : (t.entries.map fun entry => (entry.1, f entry.2)).map Prod.fst =
        t.entries.map Prod.fst := by
      rw [List.map_map]
      rfl
    rw [hkeys]
    exact t.nodup⟩

theorem find?_mapValues (t : Keyed κ α) (k : κ) :
    (t.mapValues f).find? k = (t.find? k).map f := by
  have hlookup : ∀ entries : List (κ × α),
      lookup k (entries.map fun entry => (entry.1, f entry.2)) = (lookup k entries).map f := by
    intro entries
    induction entries with
    | nil => rfl
    | cons entry rest ih =>
      simp only [List.map_cons, lookup, ih]
      split <;> rfl
  exact hlookup t.entries

theorem contains_mapValues (t : Keyed κ α) (k : κ) :
    (t.mapValues f).contains k = t.contains k := by
  rw [contains, find?_mapValues, Option.isSome_map, contains]

omit [DecidableEq κ] in
theorem values_mapValues (t : Keyed κ α) : (t.mapValues f).values = t.values.map f := by
  simp only [values, mapValues, List.map_map]
  rfl

omit [DecidableEq κ] in
theorem size_mapValues (t : Keyed κ α) : (t.mapValues f).size = t.size :=
  List.length_map _

omit [DecidableEq κ] in
theorem ext_entries {t t' : Keyed κ α} (h : t.entries = t'.entries) : t = t' := by
  cases t
  cases t'
  cases h
  rfl

theorem mapValues_insert (t : Keyed κ α) (k : κ) (a : α) :
    (t.insert k a).mapValues f = (t.mapValues f).insert k (f a) := by
  have hreplace : ∀ entries : List (κ × α),
      (replace k a entries).map (fun entry => (entry.1, f entry.2)) =
        replace k (f a) (entries.map fun entry => (entry.1, f entry.2)) := by
    intro entries
    induction entries with
    | nil => rfl
    | cons entry rest ih =>
      simp only [List.map_cons, replace]
      split
      · rfl
      · rw [List.map_cons, ih]
  exact ext_entries (hreplace t.entries)

theorem mapValues_assign (t : Keyed κ α) (k : κ) (value : Option α) :
    (t.assign k value).mapValues f = (t.mapValues f).assign k (value.map f) := by
  cases value with
  | some a => exact mapValues_insert f t k a
  | none =>
    refine ext_entries ?_
    simp only [assign, erase, mapValues, Option.map_none, List.filter_map]
    rfl

end

end Accounts.Keyed

/-!
# Finite maps

Entries stand in the order in which their keys came in, each key once. An entry keeps its place
when its value changes.
-/

namespace Accounts

structure Keyed (κ α : Type) where
  entries : List (κ × α)
  nodup : (entries.map Prod.fst).Nodup

namespace Keyed

variable {κ α : Type} [DecidableEq κ]

def empty : Keyed κ α :=
  ⟨[], List.nodup_nil⟩

instance : Inhabited (Keyed κ α) := ⟨empty⟩

def lookup (key : κ) : List (κ × α) → Option α
  | [] => none
  | (other, value) :: rest => if other = key then some value else lookup key rest

def replace (key : κ) (value : α) : List (κ × α) → List (κ × α)
  | [] => [(key, value)]
  | (other, old) :: rest =>
    if other = key then (key, value) :: rest else (other, old) :: replace key value rest

theorem mem_keys_replace (key : κ) (value : α) (entries : List (κ × α)) (k : κ) :
    k ∈ (replace key value entries).map Prod.fst ↔ k = key ∨ k ∈ entries.map Prod.fst := by
  induction entries with
  | nil => simp [replace]
  | cons entry rest ih =>
    by_cases h : entry.1 = key
    · simp [replace, h]
    · simp only [replace, h, if_false, List.map_cons, List.mem_cons, ih]
      constructor <;> (rintro (h | h | h) <;> simp [h])

theorem nodup_replace (key : κ) (value : α) {entries : List (κ × α)}
    (h : (entries.map Prod.fst).Nodup) : ((replace key value entries).map Prod.fst).Nodup := by
  induction entries with
  | nil => simp [replace]
  | cons entry rest ih =>
    obtain ⟨hn, hr⟩ := List.nodup_cons.mp h
    by_cases he : entry.1 = key
    · subst he
      simpa [replace] using h
    · simp only [replace, he, if_false, List.map_cons]
      refine List.nodup_cons.mpr ⟨?_, ih hr⟩
      rw [mem_keys_replace]
      rintro (h | h)
      · exact he h
      · exact hn h

def find? (t : Keyed κ α) (key : κ) : Option α :=
  lookup key t.entries

def contains (t : Keyed κ α) (key : κ) : Bool :=
  (t.find? key).isSome

/-- Gives a key its value, whatever it had before. -/
def insert (t : Keyed κ α) (key : κ) (value : α) : Keyed κ α :=
  ⟨replace key value t.entries, nodup_replace key value t.nodup⟩

def erase (t : Keyed κ α) (key : κ) : Keyed κ α :=
  ⟨t.entries.filter (·.1 ≠ key), (t.nodup.sublist (List.filter_sublist.map _))⟩

/-- Gives a key a value or takes its value away. -/
def assign (t : Keyed κ α) (key : κ) : Option α → Keyed κ α
  | some value => t.insert key value
  | none => t.erase key

def values (t : Keyed κ α) : List α :=
  t.entries.map Prod.snd

def size (t : Keyed κ α) : Nat :=
  t.entries.length

theorem lookup_replace (key : κ) (value : α) (entries : List (κ × α)) (k : κ) :
    lookup k (replace key value entries) = if key = k then some value else lookup k entries := by
  induction entries with
  | nil => simp [replace, lookup]
  | cons entry rest ih =>
    obtain ⟨other, old⟩ := entry
    by_cases h : other = key
    · subst h
      by_cases hk : other = k <;> simp [replace, lookup, hk]
    · by_cases hk : other = k
      · subst hk
        simp [replace, lookup, h, Ne.symm h]
      · simp [replace, lookup, h, hk, ih]

theorem find?_insert (t : Keyed κ α) (key : κ) (value : α) (k : κ) :
    (t.insert key value).find? k = if key = k then some value else t.find? k :=
  lookup_replace key value t.entries k

theorem lookup_filter_ne (key : κ) (entries : List (κ × α)) (k : κ) :
    lookup k (entries.filter (·.1 ≠ key)) = if key = k then none else lookup k entries := by
  induction entries with
  | nil => simp [lookup]
  | cons entry rest ih =>
    obtain ⟨other, value⟩ := entry
    by_cases h : other = key
    · subst h
      by_cases hk : other = k
      · simp_all
      · simpa [lookup, hk] using ih
    · by_cases hk : other = k
      · subst hk
        simp [lookup, h, Ne.symm h]
      · simpa [lookup, h, hk] using ih

theorem find?_erase (t : Keyed κ α) (key k : κ) :
    (t.erase key).find? k = if key = k then none else t.find? k :=
  lookup_filter_ne key t.entries k

theorem find?_assign (t : Keyed κ α) (key : κ) (value : Option α) (k : κ) :
    (t.assign key value).find? k = if key = k then value else t.find? k := by
  cases value with
  | none => exact find?_erase t key k
  | some value => exact find?_insert t key value k

@[simp] theorem find?_empty (k : κ) : (empty : Keyed κ α).find? k = none := rfl

theorem lookup_eq_some_iff {entries : List (κ × α)} (h : (entries.map Prod.fst).Nodup)
    {k : κ} {a : α} : lookup k entries = some a ↔ (k, a) ∈ entries := by
  induction entries with
  | nil => simp [lookup]
  | cons entry rest ih =>
    obtain ⟨other, value⟩ := entry
    obtain ⟨hn, hr⟩ := List.nodup_cons.mp h
    by_cases hk : other = k
    · subst hk
      have : (other, a) ∉ rest := fun hm => hn (List.mem_map.mpr ⟨_, hm, rfl⟩)
      simp [lookup, this, eq_comm]
    · simp [lookup, hk, ih hr, Ne.symm hk]

theorem find?_eq_some_iff {t : Keyed κ α} {k : κ} {a : α} :
    t.find? k = some a ↔ (k, a) ∈ t.entries :=
  lookup_eq_some_iff t.nodup

end Keyed

end Accounts

import Accounts.Proofs.Store.Listing
import Accounts.Proofs.Store.Shown

/-!
# Pages of a listing

A listing holds the shown rows that a filter accepts, each once, in the order of a field and of
the ids among those that the field does not tell apart. There is one such list, and the pages of
a query are its parts, one after the other, however far they are from the front.
-/

namespace Accounts

open Listing (rowOrder)

/-- The name that requests have for a field. -/
def SortField.key : SortField → String
  | .id => OrderBy.byId
  | .name => OrderBy.byName
  | .email => OrderBy.byEmail
  | .roles => OrderBy.byRoles
  | .enabled => OrderBy.byEnabled

theorem SortField.ofName?_key (field : SortField) : ofName? field.key = some field := by
  cases field <;> decide

/-- A user meets every condition that a filter has. -/
structure Filter.Holds (f : Filter) (u : User) : Prop where
  id : ∀ id, f.id = some id → u.id = id
  name : ∀ part, f.name = some part → part.toList <:+: u.name.toList
  email : ∀ part, f.email = some part → part.toList <:+: u.email.address.toList
  createdFrom : ∀ time, f.createdFrom = some time → time ≤ u.created
  createdTo : ∀ time, f.createdTo = some time → u.created ≤ time

theorem Filter.accepts_iff {f : Filter} {u : User} : f.accepts u = true ↔ f.Holds u := by
  simp only [accepts, Bool.and_eq_true, Option.all_eq_true, isPart, occursIn_iff, beq_iff_eq,
    decide_eq_true_eq]
  constructor
  · rintro ⟨⟨⟨⟨hid, hname⟩, hemail⟩, hfrom⟩, hto⟩
    exact ⟨fun i hi => (hid i hi).symm, hname, hemail, hfrom, hto⟩
  · rintro ⟨hid, hname, hemail, hfrom, hto⟩
    exact ⟨⟨⟨⟨fun i hi => (hid i hi).symm, hname⟩, hemail⟩, hfrom⟩, hto⟩

namespace Listing

variable {field : SortField} {direction : Direction}

/-- A row stands in front of another one, upwards: by the field, else by the id. -/
def Before (field : SortField) (a b : User) : Prop :=
  field.compare a b = .lt ∨ field.compare a b = .eq ∧ a.id.toNat < b.id.toNat

/-- A row stands in front of another one; downwards the whole order is turned around. -/
def Precedes (field : SortField) : Direction → User → User → Prop
  | .asc, a, b => Before field a b
  | .desc, a, b => Before field b a

/-- The rows of a view that a filter accepts, in order. -/
structure Lists (view : Uuid → Option User) (filter : Filter) (field : SortField)
    (direction : Direction) (users : List User) : Prop where
  mem : ∀ u, u ∈ users ↔ (∃ id, view id = some u) ∧ filter.Holds u
  ordered : users.Pairwise (Precedes field direction)

-- ---------------------------------------------------------------------------
-- The order
-- ---------------------------------------------------------------------------

theorem rowOrder_asc_eq_lt {a b : User} : rowOrder field .asc a b = .lt ↔ Before field a b := by
  simp only [rowOrder, Before, Ordering.then_eq_lt, Nat.compare_eq_lt]

theorem rowOrder_eq_lt {a b : User} :
    rowOrder field direction a b = .lt ↔ Precedes field direction a b := by
  cases direction with
  | asc => exact rowOrder_asc_eq_lt
  | desc =>
    rw [rowOrder_desc_eq]
    exact rowOrder_asc_eq_lt

theorem Precedes.asymm {a b : User} (h : Precedes field direction a b) :
    ¬ Precedes field direction b a := by
  rw [← rowOrder_eq_lt] at h ⊢
  have hs : rowOrder field direction b a = (rowOrder field direction a b).swap :=
    Std.OrientedCmp.eq_swap
  rw [hs, h]
  nofun

-- ---------------------------------------------------------------------------
-- The listing
-- ---------------------------------------------------------------------------

section
variable {view : Uuid → Option User} {filter : Filter} {users users' : List User}

theorem Lists.nodup (h : Lists view filter field direction users) : users.Nodup :=
  h.ordered.imp fun hab heq => by
    subst heq
    exact hab.asymm hab

/-- The members and their order leave no choice. -/
theorem Lists.unique (h : Lists view filter field direction users)
    (h' : Lists view filter field direction users') : users = users' := by
  have hperm : users.Perm users' := by
    rw [List.perm_ext_iff_of_nodup h.nodup h'.nodup]
    intro u
    rw [h.mem, h'.mem]
  refine hperm.eq_of_pairwise ?_ h.ordered h'.ordered
  intro a b _ _ hab hba
  exact absurd hba hab.asymm

end

section
variable {rows : Table}

theorem ids_nodup (ho : OwnIds rows.find?) : (rows.values.map (·.id)).Nodup := by
  have hids : rows.values.map (·.id) = rows.entries.map Prod.fst := by
    rw [Keyed.values, List.map_map]
    refine List.map_congr_left ?_
    intro entry he
    exact ho (Keyed.find?_eq_some_iff.mpr he)
  rw [hids]
  exact rows.nodup

/-- Rows with different ids never stand equal. -/
theorem sorted_ordered (ho : OwnIds rows.find?) (filter : Filter) (field : SortField)
    (direction : Direction) :
    (sorted rows filter field direction).Pairwise (Precedes field direction) := by
  have hids : ((sorted rows filter field direction).map (·.id)).Nodup :=
    ((sorted_perm rows filter field direction).map _).nodup_iff.mpr
      ((ids_nodup ho).sublist (List.filter_sublist.map _))
  refine ((sorted_pairwise rows filter field direction).and (List.pairwise_map.mp hids)).imp ?_
  rintro a b ⟨hle, hne⟩
  rw [← rowOrder_eq_lt]
  cases h : rowOrder field direction a b with
  | lt => rfl
  | eq => exact absurd (id_eq_of_rowOrder h) hne
  | gt =>
    rw [h] at hle
    cases hle

/-- The sorted rows of a table are its listing. -/
theorem lists_sorted (ho : OwnIds rows.find?) (filter : Filter) (field : SortField)
    (direction : Direction) :
    Lists rows.find? filter field direction (sorted rows filter field direction) where
  mem u := by
    rw [(sorted_perm rows filter field direction).mem_iff, List.mem_filter, Keyed.mem_values_iff,
      Filter.accepts_iff]
  ordered := sorted_ordered ho filter field direction

theorem count_eq_length (rows : Table) (filter : Filter) (field : SortField)
    (direction : Direction) : count rows filter = (sorted rows filter field direction).length := by
  rw [(sorted_perm rows filter field direction).length_eq, count, List.countP_eq_length_filter]

end

-- ---------------------------------------------------------------------------
-- Pages
-- ---------------------------------------------------------------------------

theorem extract_eq_take {α : Type} (i rows : Nat) (users : List α) :
    users.extract (i * rows) ((i + 1) * rows) = (users.drop (i * rows)).take rows := by
  rw [List.extract_eq_take_drop, Nat.succ_mul, Nat.add_sub_cancel_left]

/-- A page is a part of the listing; no number of rows is too large to be skipped. -/
theorem page_eq_extract (users : List User) (p : Page) :
    page users p =
      users.extract ((p.number.toNat - 1) * p.rows.toNat) (p.number.toNat * p.rows.toNat) := by
  obtain ⟨n, hn⟩ : ∃ n, p.number.toNat = n + 1 := by
    refine Nat.exists_eq_succ_of_ne_zero ?_
    exact fun h => p.number_ne_zero (UInt32.toNat_inj.mp h)
  rw [page, Page.offset_eq, hn, Nat.add_sub_cancel, extract_eq_take]

end Listing

-- ---------------------------------------------------------------------------
-- Queries
-- ---------------------------------------------------------------------------

section
variable {d : Database} {scope : Scope} {rows : Table} {m : Moment}

theorem Step.run_list_result (hv : d.visible scope = .ok rows) (filter : Filter)
    (field : SortField) (direction : Direction) (p : Page) :
    ((call scope (.read (.list filter ⟨field.key, direction⟩ p))).run m d).result =
      .ok (.users (Listing.page (Listing.sorted rows filter field direction) p)) := by
  rw [run_read, hv]
  simp only [Reading.answer, Listing.select, SortField.ofName?_key]
  rfl

theorem Step.run_count_result (hv : d.visible scope = .ok rows) (filter : Filter) :
    ((call scope (.read (.count filter))).run m d).result =
      .ok (.count (Listing.count rows filter)) := by
  rw [run_read, hv]
  rfl

end

end Accounts

import Accounts.Proofs.Store.History

/-!
# Readings depend on the rows alone

The order of a listing is total, and two rows that stand equal in it have the same id. Hence a
listing is fixed by the rows that it lists, in whatever order the table holds them. So is a
count, and so is the row with an address if no two rows have the same.
-/

namespace Accounts

instance SortField.transCmp (field : SortField) : Std.TransCmp field.compare := by
  cases field with
  | id => exact inferInstanceAs (Std.TransCmp (compareOn fun u : User => u.id.toNat))
  | name => exact inferInstanceAs (Std.TransCmp (compareOn fun u : User => u.name))
  | email => exact inferInstanceAs (Std.TransCmp (compareOn fun u : User => u.email.address))
  | roles => exact inferInstanceAs (Std.TransCmp (compareOn fun u : User => u.roles.map Role.rank))
  | enabled => exact inferInstanceAs (Std.TransCmp (compareOn fun u : User => u.enabled))

namespace Listing

variable {field : SortField} {direction : Direction}

theorem rowOrder_asc (field : SortField) :
    rowOrder field .asc = compareLex field.compare (compareOn fun u => u.id.toNat) := rfl

theorem rowOrder_desc (field : SortField) (a b : User) :
    rowOrder field .desc a b = (rowOrder field .asc a b).swap := rfl

theorem rowOrder_desc_eq (field : SortField) :
    rowOrder field .desc = fun a b => rowOrder field .asc b a := by
  funext a b
  rw [rowOrder_desc, rowOrder_asc, ← Std.OrientedCmp.eq_swap]

instance rowOrder_transCmp (field : SortField) (direction : Direction) :
    Std.TransCmp (rowOrder field direction) := by
  cases direction with
  | asc =>
    rw [rowOrder_asc]
    infer_instance
  | desc =>
    rw [rowOrder_desc_eq, rowOrder_asc]
    infer_instance

theorem id_eq_of_rowOrder {a b : User} (h : rowOrder field direction a b = .eq) : a.id = b.id := by
  have hu : rowOrder field .asc a b = .eq := by
    cases direction with
    | asc => exact h
    | desc => exact Ordering.swap_eq_eq.mp h
  have hn : compare a.id.toNat b.id.toNat = .eq := (Ordering.then_eq_eq.mp hu).2
  exact congrArg Uuid.mk (BitVec.eq_of_toNat_eq (Nat.compare_eq_eq.mp hn))

theorem sorted_pairwise (rows : Table) (filter : Filter) (field : SortField)
    (direction : Direction) :
    (sorted rows filter field direction).Pairwise
      fun a b => (rowOrder field direction a b).isLE = true := by
  refine List.pairwise_mergeSort ?_ ?_ _
  · intro a b c
    exact Std.TransCmp.isLE_trans
  · intro a b
    have hs : rowOrder field direction b a = (rowOrder field direction a b).swap :=
      Std.OrientedCmp.eq_swap
    rw [hs]
    cases rowOrder field direction a b <;> rfl

theorem sorted_perm (rows : Table) (filter : Filter) (field : SortField) (direction : Direction) :
    (sorted rows filter field direction).Perm (rows.values.filter filter.accepts) :=
  List.mergeSort_perm _ _

section
variable {rows rows' : Table}

theorem mem_of_mem_sorted {filter : Filter} {u : User}
    (h : u ∈ sorted rows filter field direction) : ∃ id, rows.find? id = some u := by
  have hf := (sorted_perm rows filter field direction).mem_iff.mp h
  exact Keyed.mem_values_iff.mp (List.mem_filter.mp hf).1

/-- Rows that stand equal are one, since their ids are. -/
theorem sorted_same (h : rows.Same rows') (ho : OwnIds rows.find?) (filter : Filter)
    (field : SortField) (direction : Direction) :
    sorted rows filter field direction = sorted rows' filter field direction := by
  have hperm : (sorted rows filter field direction).Perm (sorted rows' filter field direction) :=
    calc (sorted rows filter field direction).Perm (rows.values.filter filter.accepts) :=
          sorted_perm rows filter field direction
      _ |>.Perm (rows'.values.filter filter.accepts) := h.values_perm.filter _
      _ |>.Perm (sorted rows' filter field direction) :=
          (sorted_perm rows' filter field direction).symm
  refine List.Perm.eq_of_pairwise ?_ (sorted_pairwise rows filter field direction)
    (sorted_pairwise rows' filter field direction) hperm
  intro a b ha hb hab hba
  obtain ⟨i, hi⟩ := mem_of_mem_sorted ha
  obtain ⟨j, hj⟩ := mem_of_mem_sorted hb
  have hid : a.id = b.id := id_eq_of_rowOrder (Std.OrientedCmp.isLE_antisymm hab hba)
  rw [← h j] at hj
  have hij : i = j := (ho hi).symm.trans (hid.trans (ho hj))
  subst hij
  exact Option.some.inj (hi.symm.trans hj)

theorem select_same (h : rows.Same rows') (ho : OwnIds rows.find?) (filter : Filter)
    (orderBy : OrderBy) (p : Page) :
    select rows filter orderBy p = select rows' filter orderBy p := by
  simp only [select, sorted_same h ho]

theorem count_same (h : rows.Same rows') (filter : Filter) :
    count rows filter = count rows' filter :=
  h.values_perm.countP_eq _

end

end Listing

/-- In a table without two rows of one address. -/
theorem Table.byEmail?_eq_some_iff {rows : Table} (hu : UniqueEmails rows.find?) {email : Email}
    {u : User} : rows.byEmail? email = some u ↔
      (∃ id, rows.find? id = some u) ∧ u.email = email := by
  constructor
  · intro h
    have hm := List.mem_of_find?_eq_some h
    have he := List.find?_some h
    exact ⟨Keyed.mem_values_iff.mp hm, of_decide_eq_true he⟩
  · rintro ⟨⟨id, hid⟩, he⟩
    have hm : u ∈ rows.values := Keyed.mem_values_iff.mpr ⟨id, hid⟩
    cases hf : rows.byEmail? email with
    | none => exact absurd (decide_eq_true he) (List.find?_eq_none.mp hf u hm)
    | some v =>
      obtain ⟨j, hj⟩ := Keyed.mem_values_iff.mp (List.mem_of_find?_eq_some hf)
      have hv := List.find?_some hf
      have hij := hu hj hid ((of_decide_eq_true hv).trans he.symm)
      subst hij
      exact hj.symm.trans hid

theorem Table.byEmail?_same {rows rows' : Table} (h : rows.Same rows')
    (hu : UniqueEmails rows.find?) (email : Email) :
    rows.byEmail? email = rows'.byEmail? email := by
  have hu' : UniqueEmails rows'.find? := by
    intro i j u v hi hj
    exact hu ((h i).trans hi) ((h j).trans hj)
  apply Option.ext
  intro u
  rw [byEmail?_eq_some_iff hu, byEmail?_eq_some_iff hu']
  simp only [h _]

/-- What a reading gives, and what it shows of itself. Only a look-up of an address asks that no
two rows have the same one. -/
theorem Reading.answer_same {rows rows' : Table} (h : rows.Same rows') (ho : OwnIds rows.find?)
    {r : Reading} (hu : ∀ email, r = .byEmail email → UniqueEmails rows.find?) :
    r.answer rows = r.answer rows' ∧ r.signals rows = r.signals rows' := by
  cases r with
  | list filter orderBy page =>
    simp only [answer, signals, Listing.select_same h ho, and_self]
  | count filter => simp only [answer, signals, Listing.count_same h, and_self]
  | byId id => simp only [answer, signals, h id, and_self]
  | byEmail email => simp only [answer, signals, Table.byEmail?_same h (hu email rfl), and_self]

end Accounts

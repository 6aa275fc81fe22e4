import Accounts.Proofs.Business.Course
import Accounts.Proofs.OrderBy
import Accounts.Proofs.Page
import Accounts.Proofs.Store.Pages

/-!
# Requests within the limits are served

A request asks for a page and an order in texts of its own. Whatever page the configuration makes
of them keeps to the limit of rows, and whatever order it makes of them is one that listings can
be sorted by. So nothing is left that a query could refuse.
-/

namespace Accounts

-- ---------------------------------------------------------------------------
-- Pages
-- ---------------------------------------------------------------------------

namespace Page

/-- A page that is read has the rows that its text stands for, and they keep to the limit. -/
theorem parse_ok {p : Page} {page rows : String} {defaultRows maxRows : UInt32}
    (h : parse page rows defaultRows maxRows = .ok p) :
    readOr 1 page = .ok p.number ∧ readOr defaultRows rows = .ok p.rows ∧ p.rows ≤ maxRows := by
  rw [readOr_eq_ok_iff, readOr_eq_ok_iff]
  exact parse_eq_ok_iff.mp h

theorem readOr_blank {blank : UInt32} {s : String} (h : Text.trim s = "") :
    readOr blank s = .ok blank :=
  if_pos h

end Page

-- ---------------------------------------------------------------------------
-- Orders
-- ---------------------------------------------------------------------------

namespace OrderBy

/-- An order that is read is the default one or has the field of one of the mappings. -/
theorem parse_ok {mappings : List (String × String)} {raw : String} {default o : OrderBy}
    (h : parse mappings raw default = .ok o) :
    o = default ∨ ∃ name, (name, o.field) ∈ mappings := by
  by_cases hraw : Text.Blank raw.toList
  · rw [parse_of_blank hraw] at h
    exact .inl (Except.ok.inj h).symm
  · right
    cases (parse_eq_ok_iff hraw).mp h with
    | plain hname hfield => exact ⟨_, hfield.mem⟩
    | directed hname hfield hback hdirection => exact ⟨_, hfield.mem⟩

/-- The fields that requests may name are those that listings can be sorted by. -/
theorem mem_userFields {name field : String} :
    (name, field) ∈ userFields ↔ ∃ f : SortField, name = f.key ∧ field = f.key := by
  simp only [userFields, List.map_cons, List.map_nil, List.mem_cons, Prod.mk.injEq,
    List.not_mem_nil, or_false]
  constructor
  · rintro (h | h | h | h | h)
    exacts [⟨.id, h⟩, ⟨.name, h⟩, ⟨.email, h⟩, ⟨.roles, h⟩, ⟨.enabled, h⟩]
  · rintro ⟨f, h⟩
    cases f <;> simp only [SortField.key] at h <;> simp only [h, and_self, true_or, or_true]

end OrderBy

theorem Config.orderBy_ok {c : Config} {raw : String} {o : OrderBy} (h : c.orderBy raw = .ok o) :
    ∃ field : SortField, o.field = field.key := by
  obtain rfl | ⟨name, hm⟩ := OrderBy.parse_ok h
  · exact ⟨.id, rfl⟩
  · obtain ⟨field, -, hfield⟩ := OrderBy.mem_userFields.mp hm
    exact ⟨field, hfield⟩

-- ---------------------------------------------------------------------------
-- Queries
-- ---------------------------------------------------------------------------

theorem Listing.length_page_le (users : List User) (p : Page) :
    (page users p).length ≤ p.rows.toNat :=
  List.length_take_le _ _

section
variable {σ π : Type} [Publisher σ π] {store : MemoryStore σ} {m : Moment} {s : σ} {rows : Table}

theorem MemoryStore.query_quiet (hv : (store.database.get s).visible store.scope = .ok rows)
    (filter : Filter) (field : SortField) (direction : Direction) (p : Page) :
    (Storer.query store filter ⟨field.key, direction⟩ p).quiet m s =
      (.ok (Listing.page (Listing.sorted rows filter field direction) p), s) := by
  simp only [Storer.query, query, Operation.quiet_bind, rows_quiet, hv, Listing.select,
    SortField.ofName?_key, Operation.quiet_ofExcept, Operation.quiet_emit, Operation.quiet_pure]

theorem Service.query_quiet (hv : (store.database.get s).visible store.scope = .ok rows)
    (publisher : π) (filter : Filter) (field : SortField) (direction : Direction) (p : Page) :
    (Business.query (⟨store, publisher⟩ : Service (MemoryStore σ) π) filter
        ⟨field.key, direction⟩ p).quiet m s =
      (.ok (Listing.page (Listing.sorted rows filter field direction) p), s) := by
  simp only [Business.query, query, spanned, Operation.quiet_traced, Operation.quiet_bind,
    Operation.quiet_mapError, MemoryStore.query_quiet hv, Except.mapError, Operation.quiet_emit,
    Operation.quiet_pure]

end

/-- What the configuration accepts is served: the order has a field that listings are sorted by,
and the query, of a store in memory or of a business over it, gives a page of that listing, of no
more rows than are allowed, and changes nothing. No page is accepted with more rows, not even where
a blank text asks for a default that is over the limit. -/
theorem Config.accepted_requests_served {σ π : Type} [Publisher σ π] (c : Config)
    (store : MemoryStore σ) (publisher : π) (m : Moment) (s : σ)
    (hs : store.scope.Open (store.database.get s)) (filter : Filter) (page rows order : String) :
    let core : Service (MemoryStore σ) π := ⟨store, publisher⟩
    (∀ p o, c.page page rows = .ok p → c.orderBy order = .ok o →
      ∃ (field : SortField) (table : Table) (users : List User),
        o.field = field.key ∧
        (store.database.get s).visible store.scope = .ok table ∧
        users = Listing.page (Listing.sorted table filter field o.direction) p ∧
        users.length ≤ c.maxRows.toNat ∧
        (Storer.query store filter o p).quiet m s = (.ok users, s) ∧
        (Business.query core filter o p).quiet m s = (.ok users, s)) ∧
    (∀ p, c.page page rows = .ok p → p.rows ≤ c.maxRows) ∧
    (Text.trim rows = "" → c.maxRows < c.defaultRows → ∀ p, c.page page rows ≠ .ok p) := by
  intro core
  obtain ⟨table, hv⟩ := hs.visible
  have hmax : ∀ p, c.page page rows = .ok p → p.rows ≤ c.maxRows := fun p hp =>
    (Page.parse_ok hp).2.2
  refine ⟨?_, hmax, ?_⟩
  · rintro p ⟨_, direction⟩ hp ho
    obtain ⟨field, rfl⟩ := orderBy_ok ho
    refine ⟨field, table, _, rfl, hv, rfl, ?_, MemoryStore.query_quiet hv ..,
      Service.query_quiet hv ..⟩
    exact Nat.le_trans (Listing.length_page_le _ p) (UInt32.le_iff_toNat_le.mp (hmax p hp))
  · intro hblank hlt p hp
    obtain ⟨-, hread, hle⟩ := Page.parse_ok hp
    rw [Page.readOr_blank hblank] at hread
    rw [← Except.ok.inj hread] at hle
    exact absurd hlt (UInt32.not_lt.mpr hle)

/-- Three rows are shown, one of them staged; two rows are allowed, and ten are the default. The
second page of two rows is served, and a blank number of rows is refused. -/
theorem Config.accepted_requests_served_in_transaction :
    let d := Database.empty.after (Sample.history
      [.call .shared (.edit (.create (Sample.user 1 "ada@old.org"))),
        .call .shared (.edit (.create (Sample.user 2 "bob@old.org"))), .begin 7,
        .call (.inside 7) (.edit (.create (Sample.user 3 "eve@old.org")))])
    let c : Config := ⟨10, 2⟩
    let store : MemoryStore Database := ⟨0, .whole, .inside 7⟩
    let second : Page := ⟨2, 2, by decide, by decide⟩
    let down : OrderBy := ⟨OrderBy.byName, .desc⟩
    store.scope.Open d ∧ c.page " 2" "+02 " = .ok second ∧ c.orderBy " name , DESC" = .ok down ∧
      (∃ users, users.length ≤ 2 ∧
        (Storer.query store .all down second).quiet Sample.moment d = (.ok users, d)) ∧
      Text.trim " " = "" ∧ c.maxRows < c.defaultRows ∧ ∀ p, c.page "1" " " ≠ .ok p := by
  intro d c store second down
  have hopen : store.scope.Open d := by
    show (d.writes? 7).isSome
    decide
  have hpage : c.page " 2" "+02 " = .ok second := by decide
  have horder : c.orderBy " name , DESC" = .ok down := by decide
  have hblank : Text.trim " " = "" := by decide
  have hlt : c.maxRows < c.defaultRows := by decide
  obtain ⟨hserved, -⟩ := accepted_requests_served c store Sample.office.publisher Sample.moment d
    hopen .all " 2" "+02 " " name , DESC"
  obtain ⟨-, -, hrefused⟩ := accepted_requests_served c store Sample.office.publisher
    Sample.moment d hopen .all "1" " " ""
  obtain ⟨_, _, users, -, -, -, hlength, hquery, -⟩ := hserved _ _ hpage horder
  exact ⟨hopen, hpage, horder, ⟨users, hlength, hquery⟩, hblank, hlt, hrefused hblank hlt⟩

end Accounts

import Accounts.Proofs.Store.Pages

/-!
# Answers tell the rows and nothing else

Two databases that show the same users answer every reading alike, whatever has led to them and
in whatever order their tables hold the rows. Only where two users share an address could a
look-up of it tell more, and shared rows have no such users. A listing downwards is the listing
upwards, read from its end.
-/

namespace Accounts

/-- Rows under their own ids have one place each. -/
theorem OwnIds.eq_of_rows {view view' : Uuid → Option User} (ho : OwnIds view)
    (ho' : OwnIds view') (h : ∀ u, (∃ id, view id = some u) ↔ ∃ id, view' id = some u) :
    view = view' := by
  have hmem : ∀ {view view' : Uuid → Option User}, OwnIds view → OwnIds view' →
      (∀ u, (∃ id, view id = some u) → ∃ id, view' id = some u) →
      ∀ {id u}, view id = some u → view' id = some u := by
    intro view view' ho ho' h id u hu
    obtain ⟨j, hj⟩ := h u ⟨id, hu⟩
    rwa [← ho hu, ho' hj]
  funext id
  apply Option.ext
  intro u
  exact ⟨hmem ho ho' fun u => (h u).mp, hmem ho' ho fun u => (h u).mpr⟩

namespace Listing

variable {view : Uuid → Option User} {filter : Filter} {field : SortField} {users : List User}

/-- Rows that the field does not tell apart are turned around too. -/
theorem Lists.reverse (h : Lists view filter field .asc users) :
    Lists view filter field .desc users.reverse where
  mem u := by rw [List.mem_reverse, h.mem]
  ordered := List.pairwise_reverse.mpr h.ordered

theorem sorted_desc {rows : Table} (ho : OwnIds rows.find?) (filter : Filter)
    (field : SortField) :
    sorted rows filter field .desc = (sorted rows filter field .asc).reverse :=
  (lists_sorted ho filter field .desc).unique (lists_sorted ho filter field .asc).reverse

end Listing

section
variable {h : History} {m : Moment} {scope : Scope} {r : Reading}

/-- Any table with the shown rows gives the answer, in whatever order it holds them. -/
theorem Step.run_read_result (hs : scope.Open (Database.empty.after h))
    (hu : ∀ email, r = .byEmail email → UniqueEmails (h.shown scope)) {rows : Table}
    (hrows : rows.find? = h.shown scope) :
    ((call scope (.read r)).run m (Database.empty.after h)).result =
      (r.answer rows).mapError .store := by
  obtain ⟨table, hv⟩ := hs.visible
  have hshown : h.shown scope = table.find? := h.shown_eq hv
  have hsame : table.Same rows := fun id => by rw [hrows, hshown]
  rw [hshown] at hu
  have ho : OwnIds table.find? := (Database.sound_after_empty h).visible hv
  rw [run_read, hv]
  exact congrArg (Except.mapError StepError.store) (Reading.answer_same hsame ho hu).1

end

/-- Two histories, each with a scope that can be read, that show the same users. All their
listings, counts and look-ups of ids give the same answers, and so do their look-ups of
addresses if no two shown users share one, as no two shared rows do. Any table of the shown rows
gives these answers. Of every filter and field there is one listing that is paged upwards, and
what is paged downwards is the same listing turned around. -/
theorem Database.answers_told_by_rows (h h' : History) (m m' : Moment) (scope scope' : Scope)
    (hs : scope.Open (empty.after h)) (hs' : scope'.Open (empty.after h'))
    (hrows : ∀ u, (∃ id, h.shown scope id = some u) ↔ ∃ id, h'.shown scope' id = some u) :
    let answer (r : Reading) := ((Step.call scope (.read r)).run m (empty.after h)).result
    let answer' (r : Reading) := ((Step.call scope' (.read r)).run m' (empty.after h')).result
    (∀ filter orderBy p, answer (.list filter orderBy p) = answer' (.list filter orderBy p)) ∧
    (∀ filter, answer (.count filter) = answer' (.count filter)) ∧
    (∀ id, answer (.byId id) = answer' (.byId id)) ∧
    (UniqueEmails (h.shown scope) →
      ∀ email, answer (.byEmail email) = answer' (.byEmail email)) ∧
    UniqueEmails (h.shown .shared) ∧
    (∀ rows : Table, rows.find? = h.shown scope → ∀ r,
      (∀ email, r = .byEmail email → UniqueEmails (h.shown scope)) →
      answer r = (r.answer rows).mapError .store) ∧
    ∀ filter field, ∃ users,
      Listing.Lists (h.shown scope) filter field .asc users ∧
      Listing.Lists (h.shown scope) filter field .desc users.reverse ∧
      answer (.count filter) = .ok (.count users.length) ∧
      ∀ p : Page,
        let first := (p.number.toNat - 1) * p.rows.toNat
        let last := p.number.toNat * p.rows.toNat
        answer (.list filter ⟨field.key, .asc⟩ p) = .ok (.users (users.extract first last)) ∧
        answer (.list filter ⟨field.key, .desc⟩ p) =
          .ok (.users (users.reverse.extract first last)) := by
  intro answer answer'
  obtain ⟨table, hv⟩ := hs.visible
  obtain ⟨table', hv'⟩ := hs'.visible
  have hshown : h.shown scope = table.find? := h.shown_eq hv
  have ho : OwnIds table.find? := (sound_after_empty h).visible hv
  have ho' : OwnIds table'.find? := (sound_after_empty h').visible hv'
  have hview : h.shown scope = h'.shown scope' := by
    rw [hshown, h'.shown_eq hv'] at hrows ⊢
    exact ho.eq_of_rows ho' hrows
  -- both answers are those of one table
  have halike : ∀ r, (∀ email, r = .byEmail email → UniqueEmails (h.shown scope)) →
      answer r = answer' r := by
    intro r hu
    exact (Step.run_read_result hs hu hshown.symm).trans
      (Step.run_read_result hs' (hview ▸ hu) (hshown.symm.trans hview)).symm
  refine ⟨?_, ?_, ?_, ?_, (sound_after_empty h).uniqueEmails, ?_, ?_⟩
  · intro filter orderBy p
    exact halike _ nofun
  · intro filter
    exact halike _ nofun
  · intro id
    exact halike _ nofun
  · intro hu email
    exact halike _ fun _ _ => hu
  · intro rows hfind r hu
    exact Step.run_read_result hs hu hfind
  · intro filter field
    have hlists := Listing.lists_sorted ho filter field .asc
    refine ⟨Listing.sorted table filter field .asc, ?_, ?_, ?_, ?_⟩
    · rwa [hshown]
    · rw [hshown]
      exact hlists.reverse
    · rw [← Listing.count_eq_length]
      exact Step.run_count_result hv filter
    · intro p first last
      rw [← Listing.page_eq_extract, ← Listing.page_eq_extract, ← Listing.sorted_desc ho]
      exact ⟨Step.run_list_result hv filter field .asc p,
        Step.run_list_result hv filter field .desc p⟩

/-- Two shared rows, and the same rows in a transaction that holds them in another order: it has
written one of them over a shared row, the other behind it, and a third one that it took back. -/
theorem Database.answers_told_by_staged_rows :
    let ada := Sample.user 1 "ada@old.org"
    let bob := Sample.user 2 "bob@old.org"
    let h := Sample.history
      [.call .shared (.edit (.create bob)), .call .shared (.edit (.create ada))]
    let h' := Sample.history
      [.call .shared (.edit (.create (Sample.user 1 "ada@new.org"))), .begin 7,
        .call (.inside 7) (.edit (.create (Sample.user 3 "eve@old.org"))),
        .call (.inside 7) (.edit (.create bob)), .call (.inside 7) (.edit (.update ada)),
        .call (.inside 7) (.edit (.delete (Sample.user 3 "eve@old.org")))]
    let answer r := ((Step.call .shared (.read r)).run Sample.moment (empty.after h)).result
    let answer' r := ((Step.call (.inside 7) (.read r)).run Sample.moment (empty.after h')).result
    Scope.shared.Open (empty.after h) ∧ (Scope.inside 7).Open (empty.after h') ∧
      (∀ u, (∃ id, h.shown .shared id = some u) ↔ ∃ id, h'.shown (.inside 7) id = some u) ∧
      answer (.list .all ⟨OrderBy.byName, .desc⟩ .default) =
        answer' (.list .all ⟨OrderBy.byName, .desc⟩ .default) ∧
      answer (.byEmail ada.email) = answer' (.byEmail ada.email) := by
  intro ada bob h h' answer answer'
  have hopen : (Scope.inside 7).Open (empty.after h') := by
    show ((empty.after h').writes? 7).isSome
    decide
  have hsame : ((empty.after h').table.overlay (((empty.after h').writes? 7).getD .empty)).Same
      (empty.after h).table := by decide
  have hrows : h.shown .shared = h'.shown (.inside 7) := by
    obtain ⟨rows, hv⟩ := hopen.visible
    obtain ⟨writes, hw, rfl⟩ := visible_inside hv
    rw [hw] at hsame
    rw [h'.shown_eq hv]
    exact funext fun id => (hsame id).symm
  have hall : ∀ u, (∃ id, h.shown .shared id = some u) ↔
      ∃ id, h'.shown (.inside 7) id = some u := by simp [hrows]
  obtain ⟨hlist, -, -, hemail, hunique, -⟩ :=
    answers_told_by_rows h h' Sample.moment Sample.moment .shared (.inside 7) trivial hopen hall
  exact ⟨trivial, hopen, hall, hlist _ _ _, hemail hunique _⟩

end Accounts

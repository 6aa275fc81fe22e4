import Accounts.Proofs.Store.Commit

/-!
# Edits are judged by what is shown

What a scope shows is told by the history: the shared rows, and in a transaction over them the
rows that the transaction has written last. An edit is refused or made in view of these rows
alone. One that is made changes what its scope shows under one id; one that is refused changes
nothing, and neither does a reading.
-/

namespace Accounts

/-- The rows can be read: those of a transaction while it is open, the shared ones always. -/
def Scope.Open (d : Database) : Scope → Prop
  | .shared => True
  | .inside tx => (d.writes? tx).isSome

/-- What a scope shows after a history of an empty database. -/
def History.shown (h : History) : Scope → Uuid → Option User
  | .shared => (Database.empty.after h).table.find?
  | .inside tx =>
    Touch.merged (Touch.all tx (Database.empty.trace h)) (Database.empty.after h).table

/-- A row under another id than that of the user has the user's address. -/
def Taken (view : Uuid → Option User) (user : User) : Prop :=
  ∃ id other, view id = some other ∧ id ≠ user.id ∧ other.email = user.email

/-- Why an edit cannot be made, in view of the rows that are shown. -/
inductive Edit.Refused (view : Uuid → Option User) : Edit → StoreError → Prop
  | duplicate {user : User} (h : view user.id ≠ none) :
    Refused view (.create user) (.ofText ("duplicate user id: " ++ user.id.text))
  | createTaken {user : User} (h : view user.id = none) (ht : Taken view user) :
    Refused view (.create user) .uniqueEmail
  | updateUnknown {user : User} (h : view user.id = none) : Refused view (.update user) .notFound
  | updateTaken {user : User} (h : view user.id ≠ none) (ht : Taken view user) :
    Refused view (.update user) .uniqueEmail
  | deleteUnknown {user : User} (h : view user.id = none) : Refused view (.delete user) .notFound

-- ---------------------------------------------------------------------------
-- What a scope shows
-- ---------------------------------------------------------------------------

section
variable {d : Database} {scope : Scope} {rows : Table}

theorem Scope.Open.visible (h : scope.Open d) : ∃ rows, d.visible scope = .ok rows := by
  cases scope with
  | shared => exact ⟨d.table, rfl⟩
  | inside tx =>
    obtain ⟨writes, hw⟩ := Option.isSome_iff_exists.mp h
    exact ⟨d.table.overlay writes, by rw [Database.visible, hw]⟩

theorem Database.visible_inside {tx : Nat} (h : d.visible (.inside tx) = .ok rows) :
    ∃ writes, d.writes? tx = some writes ∧ rows = d.table.overlay writes := by
  rw [visible] at h
  split at h
  · rename_i writes hw
    cases h
    exact ⟨writes, hw, rfl⟩
  · cases h

theorem Database.Sound.visible (hd : d.Sound) (h : d.visible scope = .ok rows) :
    OwnIds rows.find? := by
  cases scope with
  | shared =>
    cases h
    exact hd.ownIds
  | inside tx =>
    obtain ⟨writes, hw, rfl⟩ := visible_inside h
    exact hd.ownIds.overlay (hd.staged hw)

end

/-- The rows that a store finds are those that the history tells. -/
theorem History.shown_eq (h : History) {scope : Scope} {rows : Table}
    (hv : (Database.empty.after h).visible scope = .ok rows) : h.shown scope = rows.find? := by
  cases scope with
  | shared =>
    cases hv
    rfl
  | inside tx =>
    obtain ⟨writes, hw, rfl⟩ := Database.visible_inside hv
    exact (((Database.records_after h tx).opened writes hw).find?_overlay _).symm

-- ---------------------------------------------------------------------------
-- Refusals
-- ---------------------------------------------------------------------------

section
variable {rows : Table}

theorem Table.emailTaken_iff_taken (ho : OwnIds rows.find?) (user : User) :
    rows.emailTaken user.email user.id = true ↔ Taken rows.find? user :=
  emailTaken_iff ho

theorem Table.contains_iff_ne_none (id : Uuid) : rows.contains id = true ↔ rows.find? id ≠ none :=
  Option.isSome_iff_ne_none

/-- The check of an edit refuses it for the reasons that there are, the id before the address. -/
theorem Edit.check_error_iff (ho : OwnIds rows.find?) {e : Edit} {error : StoreError} :
    e.check rows = .error error ↔ e.Refused rows.find? error := by
  constructor
  · intro h
    cases e with
    | create user =>
      simp only [check, Change.create, Table.contains_iff_ne_none] at h
      split at h
      · rename_i hid
        cases h
        exact .duplicate hid
      · split at h
        · rename_i hid ht
          cases h
          exact .createTaken (not_not.mp hid) ((Table.emailTaken_iff_taken ho _).mp ht)
        · cases h
    | update user =>
      simp only [check, Change.update, Bool.not_eq_true', Keyed.contains_eq_false_iff] at h
      split at h
      · rename_i hid
        cases h
        exact .updateUnknown hid
      · split at h
        · rename_i hid ht
          cases h
          exact .updateTaken hid ((Table.emailTaken_iff_taken ho _).mp ht)
        · cases h
    | delete user =>
      simp only [check, Change.delete, Bool.not_eq_true', Keyed.contains_eq_false_iff] at h
      split at h
      · rename_i hid
        cases h
        exact .deleteUnknown hid
      · cases h
  · intro h
    cases h with
    | duplicate hid =>
      simp [check, Change.create, (Table.contains_iff_ne_none _).mpr hid]
    | createTaken hid ht =>
      simp [check, Change.create, Keyed.contains_eq_false_iff.mpr hid,
        (Table.emailTaken_iff_taken ho _).mpr ht]
    | updateUnknown hid => simp [check, Change.update, Keyed.contains_eq_false_iff.mpr hid]
    | updateTaken hid ht =>
      simp [check, Change.update, (Table.contains_iff_ne_none _).mpr hid,
        (Table.emailTaken_iff_taken ho _).mpr ht]
    | deleteUnknown hid => simp [check, Change.delete, Keyed.contains_eq_false_iff.mpr hid]

end

section
variable {d : Database} {scope : Scope} {rows : Table} {m : Moment} {e : Edit}

/-- In a scope that can be read the check decides how the edit ends. -/
theorem Step.run_edit_result (hv : d.visible scope = .ok rows) :
    ((call scope (.edit e)).run m d).result =
      match e.check rows with
      | .ok _ => .ok .done
      | .error error => .error (.store error) := by
  rw [run_edit]
  cases scope with
  | shared =>
    cases hv
    rw [Database.change]
    cases e.check d.table <;> rfl
  | inside tx =>
    obtain ⟨writes, hw, rfl⟩ := Database.visible_inside hv
    simp only [Database.change, hw]
    cases e.check (d.table.overlay writes) <;> rfl

theorem Step.run_edit_refused (h : ((call scope (.edit e)).run m d).result ≠ .ok .done) :
    ((call scope (.edit e)).run m d).state = d := by
  rw [run_edit] at h ⊢
  cases hc : d.change e.check scope with
  | ok d' =>
    rw [hc] at h
    exact absurd rfl h
  | error error => rfl

/-- What the scope shows after an edit that is made. -/
theorem Step.run_edit_visible (hv : d.visible scope = .ok rows)
    (h : ((call scope (.edit e)).run m d).result = .ok .done) :
    ∃ rows', ((call scope (.edit e)).run m d).state.visible scope = .ok rows' ∧
      rows'.Same (rows.assign e.id e.row) := by
  have he := effect (call scope (.edit e)) m d
  generalize (call scope (.edit e)).run m d = o at he h ⊢
  obtain ⟨result, signals, d'⟩ := o
  dsimp only at he h ⊢
  subst h
  cases he with
  | edited =>
    cases hv
    exact ⟨_, rfl, .refl _⟩
  | @staged tx _ writes hw =>
    rw [Database.visible, hw] at hv
    cases hv
    refine ⟨d.table.overlay (writes.stage d.table e.change), ?_,
      Table.overlay_stage d.table d.table writes e.change⟩
    rw [Database.visible, Database.writes?_insert, if_pos rfl]

end

theorem Database.visible_of_change {d d' : Database} {scope : Scope} {e : Edit} {rows : Table}
    (hv : d.visible scope = .ok rows) (hc : d.change e.check scope = .ok d') :
    ∃ rows', d'.visible scope = .ok rows' ∧ rows'.Same (rows.assign e.id e.row) := by
  have hrun := Step.run_edit (m := Sample.moment) (d := d) scope e
  rw [hc] at hrun
  have hshown := Step.run_edit_visible (m := Sample.moment) hv (by rw [hrun])
  rwa [hrun] at hshown

/-- An edit in a transaction leaves the shared rows alone. -/
theorem Effect.table_of_edit {d d' : Database} {scope : Scope} {e : Edit}
    {result : Except StepError Answer} (he : Effect d (.call scope (.edit e)) result d')
    (hs : scope ≠ .shared) : d'.table = d.table := by
  cases he with
  | refused => rfl
  | edited => exact absurd rfl hs
  | staged => rfl

/-- An edit in a scope that can be read is refused for the reasons that the shown rows give, and
made if they give none. If it is made, the scope shows the new row under its id and nothing else
has changed: in a transaction neither the shared rows nor any other transaction. If it is not
made, or if rows are only read, nothing at all has changed. -/
theorem Database.edit_judged_by_shown (h : History) (m : Moment) (scope : Scope) (e : Edit) :
    let d := empty.after h
    let step := Step.call scope (.edit e)
    let o := step.run m d
    let view := h.shown scope
    (scope.Open d →
      (∀ error, o.result = .error (.store error) ↔ e.Refused view error) ∧
      (o.result = .ok .done ↔ ∀ error, ¬ e.Refused view error) ∧
      (o.result = .ok .done →
        (∀ id, (h ++ [(m, step)]).shown scope id = if id = e.id then e.row else view id) ∧
        (scope ≠ .shared → o.state.table = d.table) ∧
        ∀ tx, scope ≠ .inside tx → o.state.txs.find? tx = d.txs.find? tx)) ∧
    (o.result ≠ .ok .done → o.state = d) ∧
    ∀ reading, ((Step.call scope (.read reading)).run m d).state = d := by
  intro d step o view
  refine ⟨?_, Step.run_edit_refused, Step.run_read_state scope⟩
  intro hs
  obtain ⟨rows, hv⟩ := hs.visible
  have hd : d.Sound := sound_after_empty h
  have hview : view = rows.find? := h.shown_eq hv
  have hresult : o.result = _ := Step.run_edit_result hv
  have hrefused : ∀ error, e.check rows = .error error ↔ e.Refused view error := by
    intro error
    rw [hview]
    exact Edit.check_error_iff (hd.visible hv)
  refine ⟨?_, ?_, ?_⟩
  · intro error
    rw [hresult, ← hrefused]
    cases e.check rows <;> simp
  · rw [hresult]
    simp only [← hrefused]
    cases e.check rows <;> simp
  · intro hdone
    obtain ⟨rows', hv', hsame⟩ := Step.run_edit_visible hv hdone
    rw [show o.state = empty.after (h ++ [(m, step)]) from (after_concat ..).symm] at hv'
    refine ⟨?_, ?_, ?_⟩
    · intro id
      rw [History.shown_eq _ hv', hsame id, Keyed.find?_assign, hview]
      simp only [eq_comm]
    · exact (Step.effect step m d).table_of_edit
    · intro tx htx
      exact (Step.effect step m d).txs_other htx

/-- In a transaction an address has gone from a deleted row to a new one. The old row cannot come
back with it, but it can with another address, which no other scope shows. -/
theorem Database.edit_judged_by_staged_rows :
    let h := Sample.history
      [.call .shared (.edit (.create (Sample.user 1 "ada@old.org"))), .begin 7,
        .call (.inside 7) (.edit (.delete (Sample.user 1 "ada@old.org"))),
        .call (.inside 7) (.edit (.create (Sample.user 2 "ada@old.org"))), .begin 8]
    let d := empty.after h
    let back := Edit.create (Sample.user 1 "ada@old.org")
    let moved := Edit.create (Sample.user 1 "ada@new.org")
    let step := Step.call (.inside 7) (.edit moved)
    (Scope.inside 7).Open d ∧
      ((Step.call (.inside 7) (.edit back)).run Sample.moment d).result =
        .error (.store .uniqueEmail) ∧
      (h ++ [(Sample.moment, step)]).shown (.inside 7) (Sample.user 1 "").id =
        some (Sample.user 1 "ada@new.org") ∧
      (step.run Sample.moment d).state.txs.find? 8 = d.txs.find? 8 := by
  intro h d back moved step
  have hopen : (Scope.inside 7).Open d := by
    show (d.writes? 7).isSome
    decide
  have htaken : Taken (h.shown (.inside 7)) (Sample.user 1 "ada@old.org") :=
    ⟨(Sample.user 2 "").id, Sample.user 2 "ada@old.org", by decide, by decide, rfl⟩
  obtain ⟨hback, -⟩ := (edit_judged_by_shown h Sample.moment (.inside 7) back).1 hopen
  obtain ⟨-, -, hmoved⟩ := (edit_judged_by_shown h Sample.moment (.inside 7) moved).1 hopen
  obtain ⟨hrow, -, hothers⟩ := hmoved (by decide)
  exact ⟨hopen, (hback _).mpr (.createTaken (by decide) htaken), hrow _, hothers 8 (by decide)⟩

end Accounts

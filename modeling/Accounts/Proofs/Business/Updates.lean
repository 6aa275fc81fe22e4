import Accounts.Proofs.Bcrypt.Verification
import Accounts.Proofs.Business.Failure

/-!
# Updates merge into the caller's copy

An update replaces the fields that it has in the copy of the user that the caller gives, however
old that copy is, and stores the whole of it. Whether it can is decided by the rows that are
shown, with the address that the copy has afterwards.
-/

namespace Accounts

/-- What a field is afterwards: the new value if there is one, and otherwise the old one. -/
def Replaced {α : Type} (new : Option α) (old now : α) : Prop :=
  (∀ a, new = some a → now = a) ∧ (new = none → now = old)

/-- The user `u` is `user` with the fields that `changes` has, at the time `now`. -/
structure UserUpdate.Merges (changes : UserUpdate) (now : Timestamp) (user u : User) : Prop where
  id : u.id = user.id
  name : Replaced changes.name user.name u.name
  email : Replaced changes.email user.email u.email
  roles : Replaced changes.roles user.roles u.roles
  department : Replaced (changes.department.map some) user.department u.department
  enabled : Replaced changes.enabled user.enabled u.enabled
  created : u.created = user.created
  updated : u.updated = now
  kept : changes.password = none → u.passwordHash = user.passwordHash
  verified : ∀ password, changes.password = some password →
    Password.verify password u.passwordHash = true

/-- The new password, if there is one, can be hashed. -/
def UserUpdate.Hashable (changes : UserUpdate) (m : Moment) : Prop :=
  ∀ password, changes.password = some password →
    ∃ hash, Password.hash m.salt password = .ok hash

theorem Replaced.getD {α : Type} (new : Option α) (old : α) :
    Replaced new old (new.getD old) := by
  refine ⟨?_, ?_⟩
  · rintro a rfl
    rfl
  · rintro rfl
    rfl

-- ---------------------------------------------------------------------------
-- The merge
-- ---------------------------------------------------------------------------

namespace UserUpdate

variable {changes : UserUpdate} {m : Moment} {hash : Option String}

theorem merges_apply (h : changes.hash m = .ok hash) (user : User) :
    changes.Merges m.now user (changes.apply hash m.now user) where
  id := rfl
  name := .getD ..
  email := .getD ..
  roles := .getD ..
  department := by
    have ho : (changes.apply hash m.now user).department =
        (changes.department.map some).getD user.department := by
      rw [apply]
      cases changes.department <;> rfl
    rw [ho]
    exact .getD ..
  enabled := .getD ..
  created := rfl
  updated := rfl
  kept hp := by
    obtain ⟨-, rfl⟩ | ⟨password, -, hp', -, -⟩ := hash_ok h
    · rfl
    · exact nomatch hp.symm.trans hp'
  verified password hp := by
    obtain ⟨hp', -⟩ | ⟨password', text, hp', rfl, ht⟩ := hash_ok h
    · exact nomatch hp'.symm.trans hp
    · cases hp'.symm.trans hp
      exact Password.verify_of_hash ht

theorem hashable_iff : changes.Hashable m ↔ ∃ hash, changes.hash m = .ok hash := by
  constructor
  · intro h
    cases hh : changes.hash m with
    | ok hash => exact ⟨hash, rfl⟩
    | error fault =>
      obtain ⟨password, hp, hf⟩ := hash_error hh
      obtain ⟨text, ht⟩ := h password hp
      exact nomatch hf.symm.trans ht
  · rintro ⟨hash, hh⟩ password hp
    obtain ⟨hn, -⟩ | ⟨password', text, hp', -, ht⟩ := hash_ok hh
    · exact nomatch hn.symm.trans hp
    · cases hp'.symm.trans hp
      exact ⟨text, ht⟩

end UserUpdate

-- ---------------------------------------------------------------------------
-- What speaks against it
-- ---------------------------------------------------------------------------

theorem Edit.check_update_iff {rows : Table} (ho : OwnIds rows.find?) (user : User) :
    (∃ change, (Edit.update user).check rows = .ok change) ↔
      rows.find? user.id ≠ none ∧ ¬ Taken rows.find? user := by
  have hrefused {error : StoreError} :
      (Edit.update user).check rows = .error error ↔ _ := Edit.check_error_iff ho
  constructor
  · rintro ⟨change, hc⟩
    refine ⟨?_, ?_⟩
    · intro hid
      exact nomatch hc.symm.trans (hrefused.mpr (.updateUnknown hid))
    · intro ht
      by_cases hid : rows.find? user.id = none
      · exact nomatch hc.symm.trans (hrefused.mpr (.updateUnknown hid))
      · exact nomatch hc.symm.trans (hrefused.mpr (.updateTaken hid ht))
  · rintro ⟨hid, ht⟩
    cases hc : (Edit.update user).check rows with
    | ok change => exact ⟨change, rfl⟩
    | error error =>
      cases hrefused.mp hc with
      | updateUnknown hn => exact absurd hn hid
      | updateTaken _ ht' => exact absurd ht' ht

namespace Database

variable {d : Database} {scope : Scope} {rows : Table}

/-- In a scope that can be read the check alone decides. -/
theorem change_ok_iff (hv : d.visible scope = .ok rows)
    {check : Table → Except StoreError Change} :
    (∃ d', d.change check scope = .ok d') ↔ ∃ change, check rows = .ok change := by
  cases scope with
  | shared =>
    cases hv
    rw [change]
    cases check d.table with
    | ok change => exact iff_of_true ⟨_, rfl⟩ ⟨_, rfl⟩
    | error error => exact iff_of_false (by rintro ⟨_, ⟨⟩⟩) (by rintro ⟨_, ⟨⟩⟩)
  | inside tx =>
    obtain ⟨writes, hw, rfl⟩ := visible_inside hv
    simp only [change, hw]
    cases check (d.table.overlay writes) with
    | ok change => exact iff_of_true ⟨_, rfl⟩ ⟨_, rfl⟩
    | error error => exact iff_of_false (by rintro ⟨_, ⟨⟩⟩) (by rintro ⟨_, ⟨⟩⟩)

end Database

-- ---------------------------------------------------------------------------
-- Updates
-- ---------------------------------------------------------------------------

namespace Service

variable {σ π : Type} (core : Service (MemoryStore σ) π) {m : Moment} {s : σ}

/-- An update that is made hands out the merged row and stores it. -/
theorem update_ok_iff {actor : Uuid} {user u : User} {changes : UserUpdate} {s' : σ} :
    (core.update actor user changes).quiet m s = (.ok u, s') ↔
      ∃ hash d, changes.hash m = .ok hash ∧ u = changes.apply hash m.now user ∧
        (core.store.database.get s).change (Edit.update u).check core.store.scope = .ok d ∧
        s' = core.store.database.set d s := by
  rw [update_quiet]
  cases changes.hash m with
  | error fault => exact iff_of_false nofun (by rintro ⟨_, _, ⟨⟩, _⟩)
  | ok hash =>
    dsimp only
    cases hc : (core.store.database.get s).change
        (Change.update (changes.apply hash m.now user)) core.store.scope with
    | error error =>
      refine iff_of_false nofun ?_
      rintro ⟨_, d, ⟨⟩, rfl, hd, -⟩
      exact nomatch hc.symm.trans hd
    | ok d =>
      constructor
      · rintro ⟨⟩
        exact ⟨hash, d, rfl, rfl, hc, rfl⟩
      · rintro ⟨_, d', ⟨⟩, rfl, hd, rfl⟩
        cases hc.symm.trans hd
        rfl

/-- An update succeeds if its password can be hashed, the id of the copy is shown, and no other
shown row has the address that the copy has then. What it hands out is the copy with the fields
replaced that the update has; this is the row that is shown afterwards under the id, and all other
rows are as they were. -/
theorem update_merges_into_copy [Publisher σ π] (h : History) (hl : core.store.database.Lawful)
    (hd : core.store.database.get s = Database.empty.after h)
    (hs : core.store.scope.Open (Database.empty.after h))
    (actor : Uuid) (user : User) (changes : UserUpdate) :
    let view := h.shown core.store.scope
    let o := Business.update core actor user changes m s
    ((∃ u, o.result = .ok u) ↔
      changes.Hashable m ∧ view user.id ≠ none ∧
        ∀ id other, view id = some other → id ≠ user.id →
          other.email ≠ changes.email.getD user.email) ∧
    ∀ u, o.result = .ok u →
      changes.Merges m.now user u ∧
      ∃ rows, (core.store.database.get o.state).visible core.store.scope = .ok rows ∧
        ∀ id, rows.find? id = if id = user.id then some u else view id := by
  intro view o
  obtain ⟨table, hv⟩ := hs.visible
  have hview : view = table.find? := h.shown_eq hv
  have ho : OwnIds table.find? := (Database.sound_after_empty h).visible hv
  have hok : ∀ {u s'}, (core.update actor user changes).quiet m s = (.ok u, s') ↔ _ :=
    core.update_ok_iff
  rw [hd] at hok
  refine ⟨?_, ?_⟩
  · -- the address of the merged row is the one that is looked for
    have hedit : ∀ hash : Option String,
        (∃ d, (Database.empty.after h).change
          (Edit.update (changes.apply hash m.now user)).check core.store.scope = .ok d) ↔
        view user.id ≠ none ∧ ¬ Taken view (changes.apply hash m.now user) := by
      intro hash
      rw [Database.change_ok_iff hv, Edit.check_update_iff ho, hview]
      rfl
    have hfree : ∀ hash : Option String, ¬ Taken view (changes.apply hash m.now user) ↔
        ∀ id other, view id = some other → id ≠ user.id →
          other.email ≠ changes.email.getD user.email := by
      intro hash
      simp only [Taken, UserUpdate.apply, not_exists, not_and, ne_eq]
    rw [UserUpdate.hashable_iff]
    constructor
    · rintro ⟨u, hu⟩
      obtain ⟨hash, d, hh, rfl, hc, -⟩ := hok.mp (Prod.ext hu rfl)
      obtain ⟨hid, ht⟩ := (hedit hash).mp ⟨d, hc⟩
      exact ⟨⟨hash, hh⟩, hid, (hfree hash).mp ht⟩
    · rintro ⟨⟨hash, hh⟩, hid, hother⟩
      obtain ⟨d, hc⟩ := (hedit hash).mpr ⟨hid, (hfree hash).mpr hother⟩
      have hmade := hok.mpr ⟨hash, d, hh, rfl, hc, rfl⟩
      exact ⟨_, congrArg Prod.fst hmade⟩
  · intro u hu
    obtain ⟨hash, d, hh, rfl, hc, hstate⟩ := hok.mp (Prod.ext hu rfl)
    obtain ⟨rows, hrows, hsame⟩ := Database.visible_of_change hv hc
    refine ⟨UserUpdate.merges_apply hh user, rows, ?_, ?_⟩
    · rw [show o.state = _ from hstate, hl.get_set, hrows]
    · intro id
      rw [hsame id, Keyed.find?_assign, hview]
      simp only [eq_comm]
      rfl

/-- In a transaction a copy whose name and address are not those of the row moves to an address
that has become free there, with a department and a new password. The row has the copy's name
then. -/
theorem update_merges_into_stale_copy :
    let h := Sample.history
      [.call .shared (.edit (.create (Sample.user 1 "ada@old.org"))),
        .call .shared (.edit (.create (Sample.user 2 "bob@old.org"))), .begin 7,
        .call (.inside 7) (.edit (.delete (Sample.user 2 "bob@old.org")))]
    let core := Sample.office.inScope (.inside 7)
    let copy := { Sample.user 1 "ada@new.org" with name := "Ada" }
    let changes : UserUpdate := ⟨none, some ⟨"bob@old.org"⟩, none, some "files", some "secret", none⟩
    let o := Business.update core copy.id copy changes Sample.moment (Database.empty.after h)
    (Scope.inside 7).Open (Database.empty.after h) ∧
      h.shown (.inside 7) copy.id = some (Sample.user 1 "ada@old.org") ∧
      ∃ u rows, o.result = .ok u ∧ o.state.visible (.inside 7) = .ok rows ∧
        rows.find? copy.id = some u ∧ u.name = "Ada" ∧ u.email = ⟨"bob@old.org"⟩ ∧
        u.department = some "files" ∧ Password.verify "secret" u.passwordHash = true := by
  intro h core copy changes o
  have hopen : (Scope.inside 7).Open (Database.empty.after h) := by
    show ((Database.empty.after h).writes? 7).isSome
    decide
  obtain ⟨hok, hmade⟩ := core.update_merges_into_copy (m := Sample.moment)
    (s := Database.empty.after h) h Slot.whole_lawful rfl hopen copy.id copy changes
  have hhash : changes.Hashable Sample.moment := by
    rintro password ⟨⟩
    exact Sample.exists_hash _
  have hshown : h.shown (.inside 7) copy.id = some (Sample.user 1 "ada@old.org") := by decide
  -- the other row has gone in the transaction
  have hother : ∀ id other, h.shown (.inside 7) id = some other → id = copy.id := by
    have hv : (Database.empty.after h).visible (.inside 7) =
        .ok ⟨[(copy.id, Sample.user 1 "ada@old.org")], List.nodup_singleton _⟩ := rfl
    intro id other hid
    rw [h.shown_eq hv, Keyed.find?_eq_some_iff] at hid
    exact congrArg Prod.fst (List.mem_singleton.mp hid)
  have hknown : h.shown (.inside 7) copy.id ≠ none := by rw [hshown]; nofun
  obtain ⟨u, hu⟩ := hok.mpr
    ⟨hhash, hknown, fun id other hid hne => absurd (hother id other hid) hne⟩
  obtain ⟨hmerges, rows, hrows, hfind⟩ := hmade u hu
  exact ⟨hopen, hshown, u, rows, hu, hrows, (hfind copy.id).trans (if_pos rfl),
    hmerges.name.2 rfl, hmerges.email.1 _ rfl, hmerges.department.1 _ rfl,
    hmerges.verified _ rfl⟩

end Service

end Accounts

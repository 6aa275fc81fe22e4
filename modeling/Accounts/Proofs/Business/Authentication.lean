import Accounts.Proofs.Business.Core
import Accounts.Store.Layered

/-!
# What an authentication tells

Over any store, an authentication is decided by one look-up of the address and the hash that it
finds. An address that nobody has fails as a wrong password does, and no failure of the store is
mistaken for either. Nothing else is asked of the store, and nothing of the publisher.
-/

namespace Accounts

/-- The kind under which the business reports a failure of the store. -/
def StoreError.kind : StoreError → ErrorKind
  | .notFound => .notFound
  | .uniqueEmail => .uniqueEmail
  | .tx _ => .storage
  | .backend _ => .storage

theorem UserError.kind_store (op : String) (e : StoreError) : (store op e).kind = e.kind := by
  cases e <;> rfl

theorem UserError.kind_lookup (key : LookupKey) (e : StoreError) :
    (lookup key e).kind = e.kind := by
  cases e with
  | notFound => rfl
  | uniqueEmail => exact kind_store "query" .uniqueEmail
  | tx error => exact kind_store "query" (.tx error)
  | backend fault => exact kind_store "query" (.backend fault)

theorem UserError.lookup_isNotFound {key : LookupKey} {e : StoreError} :
    (lookup key e).isNotFound = true ↔ e = .notFound := by
  rw [isNotFound, decide_eq_true_eq, kind_lookup]
  cases e <;> simp [StoreError.kind]

theorem UserError.eq_of_authenticationFailure {e : UserError}
    (h : e.kind = .authenticationFailure) : e = .authenticationFailure := by
  cases e with
  | authenticationFailure => rfl
  | storage op source => cases source <;> cases h
  | notFound | uniqueEmail | hashing | notification => cases h

namespace Service

variable {σ ρ π : Type} [Storer σ ρ] {core : Service ρ π} {email : Email} {password : String}
  {m : Moment} {s : σ}

-- ---------------------------------------------------------------------------
-- The verdict
-- ---------------------------------------------------------------------------

theorem judge_eq_authenticationFailure {key : LookupKey} {found : Except StoreError User} :
    judge password (found.mapError (.lookup key)) = .error .authenticationFailure ↔
      found = .error .notFound ∨
        ∃ user, found = .ok user ∧ Password.verify password user.passwordHash = false := by
  cases found with
  | ok user =>
    cases hv : Password.verify password user.passwordHash <;>
      simp [judge, Except.mapError, hv]
  | error e =>
    simp only [judge, Except.mapError]
    split
    · rename_i hn
      simp [UserError.lookup_isNotFound.mp hn]
    · rename_i hn
      have he : e ≠ .notFound := fun he => hn (UserError.lookup_isNotFound.mpr he)
      have hk : UserError.lookup key e ≠ .authenticationFailure := by
        intro hk
        cases e <;> cases hk
      simp [he, hk]

theorem judge_error {key : LookupKey} {e : StoreError} (he : e ≠ .notFound) :
    judge password (.error (.lookup key e)) = .error (.lookup key e) := by
  rw [judge, if_neg (mt UserError.lookup_isNotFound.mp he)]

-- ---------------------------------------------------------------------------
-- The one look-up
-- ---------------------------------------------------------------------------

theorem authenticate_lookup :
    (core.authenticate email password m s).result =
        judge password ((Storer.byEmail core.store email m s).result.mapError
          (.lookup (.email email))) ∧
      (core.authenticate email password m s).state = (Storer.byEmail core.store email m s).state :=
  Prod.mk.inj (authenticate_quiet core email password)

theorem notes_authenticate :
    (core.authenticate email password).notes m s =
      (Storer.byEmail core.store email).notes m s := by
  simp only [authenticate, spanned, byEmail, Operation.notes_traced, Operation.notes_bind,
    Operation.notes_attempt, Operation.notes_mapError, Operation.quiet_attempt]
  generalize (Operation.traced _ _ _ _).quiet m s = looked
  -- whatever was found, nothing is noted afterwards
  obtain ⟨e | user, s'⟩ := looked
  · dsimp only
    split <;> exact List.append_nil _
  · dsimp only
    split <;> exact List.append_nil _

/-- The rest is the same whatever the store, the publisher and the moment. -/
theorem authenticate_congr {ρ' π' : Type} [Storer σ ρ'] {core' : Service ρ' π'} {m' : Moment}
    {s' : σ}
    (h : Storer.byEmail core'.store email m' s' = Storer.byEmail core.store email m s) :
    core'.authenticate email password m' s' = core.authenticate email password m s := by
  have hlooked : core'.byEmail email m' s' = core.byEmail email m s := by
    simp only [byEmail, spanned, Operation.traced, Operation.mapError, h]
  simp only [authenticate, spanned, Operation.traced, Operation.bind_run, Operation.bind,
    Operation.attempt, hlooked]
  cases (core.byEmail email m s).result with
  | ok user =>
    dsimp only
    split <;> rfl
  | error e =>
    dsimp only
    split <;> rfl

theorem notes_byEmail_logged (tag : String) (store : LayeredStore ρ) :
    (Storer.byEmail (LayeredStore.logged tag store) email).notes m s =
      (tag ++ ":" ++ "query_by_email") :: (Storer.byEmail store email).notes m s := rfl

/-- Whoever authenticates gets the row that the look-up finds, if the password fits its hash. An
address that is not found and a password that does not fit fail in one way, of which neither kind
nor message nor causes tell which of the two it was, nor whose address; any other failure of the
store keeps its kind. The look-up decides all of the outcome, whatever else store, publisher and
moment hold, the hash for the work on unknown addresses among them. What it leaves of the state
stays, what it notes is all that is noted, and a layer around the store sees this one call. -/
theorem authenticate_told_by_lookup {σ' ρ' π π' : Type} [Publisher σ π] [Storer σ' ρ']
    [Publisher σ' π'] (core : Service ρ π) (core' : Service ρ' π') (email email' : Email)
    (password password' : String) (m m' : Moment) (s : σ) (s' : σ') :
    let looked := Storer.byEmail core.store email m s
    let o := Business.authenticate core email password m s
    let o' := Business.authenticate core' email' password' m' s'
    (∀ user, o.result = .ok user ↔
      looked.result = .ok user ∧ Password.verify password user.passwordHash = true) ∧
    (o.result = .error .authenticationFailure ↔
      looked.result = .error .notFound ∨
        ∃ user, looked.result = .ok user ∧
          Password.verify password user.passwordHash = false) ∧
    (∀ error, looked.result = .error error → error ≠ .notFound →
      ∃ e, o.result = .error e ∧ e.kind = error.kind) ∧
    (∀ e e', o.result = .error e → e.kind = .authenticationFailure →
      o'.result = .error e' → e'.kind = .authenticationFailure →
      e.kind = e'.kind ∧ e.message = e'.message ∧ e.causes = e'.causes) ∧
    (∀ {ρ₁ π₁ : Type} [Storer σ ρ₁] [Publisher σ π₁] (core₁ : Service ρ₁ π₁) (m₁ : Moment)
      (s₁ : σ), Storer.byEmail core₁.store email m₁ s₁ = looked →
      Business.authenticate core₁ email password m₁ s₁ = o) ∧
    o.state = looked.state ∧
    (Business.authenticate core email password).notes m s =
      (Storer.byEmail core.store email).notes m s ∧
    ∀ (tag : String) (store : LayeredStore ρ),
      (Business.authenticate (⟨.logged tag store, core.publisher⟩ : Service (LayeredStore ρ) π)
        email password).notes m s =
        (tag ++ ":" ++ "query_by_email") :: (Storer.byEmail store email).notes m s := by
  intro looked o o'
  obtain ⟨hresult, hstate⟩ : o.result = _ ∧ o.state = _ := core.authenticate_lookup
  refine ⟨?_, ?_, ?_, ?_, fun _ _ _ => authenticate_congr, hstate, core.notes_authenticate, ?_⟩
  · intro user
    rw [hresult, judge_eq_ok]
    cases (Storer.byEmail core.store email m s).result <;> simp [Except.mapError]
  · rw [hresult, judge_eq_authenticationFailure]
  · intro error hl he
    refine ⟨.lookup (.email email) error, ?_, UserError.kind_lookup ..⟩
    rw [hresult, hl]
    exact judge_error he
  · intro e e' _ hk _ hk'
    rw [UserError.eq_of_authenticationFailure hk, UserError.eq_of_authenticationFailure hk']
    exact ⟨rfl, rfl, rfl⟩
  · intro tag store
    exact (notes_authenticate ..).trans (notes_byEmail_logged tag store)

/-- Nobody has the first address, and the second one has a hash that no password fits. A layer
around the store notes one look-up. -/
theorem authenticate_told_by_unknown_and_mismatch :
    let d : Database := { Database.empty with
      table := Keyed.empty.insert (Sample.user 1 "").id (Sample.user 1 "ada@old.org") }
    let store := MemoryStore.shared 0 Slot.whole
    let core : Service (MemoryStore Database) (Outlet Database Unit) :=
      ⟨store, .failing "files" ⟨"down", []⟩⟩
    let logged : Service (LayeredStore (MemoryStore Database)) (Outlet Database Unit) :=
      ⟨.logged "store" (.base store), core.publisher⟩
    let o := Business.authenticate core ⟨"eve@old.org"⟩ "secret" Sample.moment d
    let o' := Business.authenticate core ⟨"ada@old.org"⟩ "secret" Sample.moment d
    (∃ e e', o.result = .error e ∧ o'.result = .error e' ∧ e.kind = e'.kind ∧
      e.message = e'.message ∧ e.causes = e'.causes) ∧
      (Business.authenticate logged ⟨"eve@old.org"⟩ "secret").notes Sample.moment d =
        ["store:query_by_email"] := by
  intro d store core logged o o'
  obtain ⟨-, hunknown, -, htwo, -, -, -, hnotes⟩ := authenticate_told_by_lookup core core
    ⟨"eve@old.org"⟩ ⟨"ada@old.org"⟩ "secret" "secret" Sample.moment Sample.moment d d
  obtain ⟨-, hmismatch, -⟩ := authenticate_told_by_lookup core core
    ⟨"ada@old.org"⟩ ⟨"eve@old.org"⟩ "secret" "secret" Sample.moment Sample.moment d d
  have hverify : Password.verify "secret" "hash" = false := by decide
  have ho : o.result = .error .authenticationFailure := hunknown.mpr (.inl rfl)
  have ho' : o'.result = .error .authenticationFailure := hmismatch.mpr (.inr ⟨_, rfl, hverify⟩)
  exact ⟨⟨_, _, ho, ho', htwo _ _ ho rfl ho' rfl⟩, hnotes "store" (.base store)⟩

end Service

end Accounts

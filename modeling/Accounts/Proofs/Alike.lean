import Accounts.Operation

/-!
# Outcomes that cannot be told apart

Two runs are compared that start from different states, at different moments or with different
arguments. Their outcomes are alike if they show the same signals and fail with the same error or
not at all; what they hand out and what they leave behind is related, but need not be the same.
-/

namespace Accounts

/-- Neither of the two fails and what comes back is related, or both fail with the same error. -/
inductive SameResult {ε α : Type} (R : α → α → Prop) : Except ε α → Except ε α → Prop
  | ok {a b : α} (h : R a b) : SameResult R (.ok a) (.ok b)
  | error (e : ε) : SameResult R (.error e) (.error e)

structure Outcome.Alike {σ ε α : Type} (S : σ → σ → Prop) (R : α → α → Prop)
    (o o' : Outcome σ ε α) : Prop where
  result : SameResult R o.result o'.result
  signals : o.signals = o'.signals
  state : S o.state o'.state

namespace SameResult

variable {ε ε' α : Type} {R : α → α → Prop} {r r' : Except ε α}

theorem error_iff (h : SameResult R r r') (e : ε) : r = .error e ↔ r' = .error e := by
  cases h with
  | ok h => exact iff_of_false nofun nofun
  | error e' => exact .rfl

theorem map_eq_iff {β : Type} {f : α → β} :
    SameResult (fun a b => f a = f b) r r' ↔ r.map f = r'.map f := by
  constructor
  · rintro (h | _)
    · exact congrArg Except.ok h
    · rfl
  · intro h
    cases r with
    | ok a =>
      cases r' with
      | ok b => exact .ok (Except.ok.inj h)
      | error e => cases h
    | error e =>
      cases r' with
      | ok b => cases h
      | error e' =>
        cases h
        exact .error e

theorem mapError (h : SameResult R r r') (f : ε → ε') :
    SameResult R (r.mapError f) (r'.mapError f) := by
  cases h with
  | ok h => exact .ok h
  | error e => exact .error _

theorem refl (hr : ∀ a, R a a) (r : Except ε α) : SameResult R r r := by
  cases r with
  | ok a => exact .ok (hr a)
  | error e => exact .error e

theorem eq_iff : SameResult Eq r r' ↔ r = r' := by
  constructor
  · rintro (⟨rfl⟩ | _)
    · rfl
    · rfl
  · rintro rfl
    exact refl (fun _ => rfl) r

end SameResult

namespace Outcome.Alike

variable {σ ε ε' α β : Type} {S S' : σ → σ → Prop} {R : α → α → Prop} {m m' : Moment} {s s' : σ}
  {x y : Operation σ ε α}

theorem mono {o o' : Outcome σ ε α} (h : o.Alike S R o') (hS : ∀ t t', S t t' → S' t t') :
    o.Alike S' R o' :=
  ⟨h.result, h.signals, hS _ _ h.state⟩

/-- More is known of the results themselves. -/
theorem and_of_ok {o o' : Outcome σ ε α} (h : o.Alike S R o') {Q : α → α → Prop}
    (hq : ∀ a b, o.result = .ok a → o'.result = .ok b → Q a b) :
    o.Alike S (fun a b => R a b ∧ Q a b) o' := by
  obtain ⟨hresult, hsignals, hstate⟩ := h
  refine ⟨?_, hsignals, hstate⟩
  generalize o.result = r at hresult hq ⊢
  generalize o'.result = r' at hresult hq ⊢
  cases hresult with
  | ok h => exact .ok ⟨h, hq _ _ rfl rfl⟩
  | error e => exact .error e

theorem prepend {o o' : Outcome σ ε α} (h : o.Alike S R o') {signals signals' : List Signal}
    (hs : signals = signals') :
    Outcome.Alike S R ⟨o.result, signals ++ o.signals, o.state⟩
      ⟨o'.result, signals' ++ o'.signals, o'.state⟩ :=
  ⟨h.result, by rw [hs, h.signals], h.state⟩

theorem pure {a b : α} (hs : S s s') (h : R a b) :
    ((Pure.pure a : Operation σ ε α) m s).Alike S R ((Pure.pure b : Operation σ ε α) m' s') :=
  ⟨.ok h, rfl, hs⟩

theorem fail (hs : S s s') (e : ε) :
    ((Operation.fail e : Operation σ ε α) m s).Alike S R (Operation.fail e m' s') :=
  ⟨.error e, rfl, hs⟩

theorem emit (hs : S s s') (signal : Signal) :
    ((Operation.emit signal : Operation σ ε Unit) m s).Alike S Eq
      (Operation.emit signal m' s') :=
  ⟨.ok rfl, rfl, hs⟩

theorem ofExcept {r r' : Except ε α} (hs : S s s') (h : SameResult R r r') :
    ((Operation.ofExcept r : Operation σ ε α) m s).Alike S R (Operation.ofExcept r' m' s') := by
  cases h with
  | ok h => exact ⟨.ok h, rfl, hs⟩
  | error e => exact ⟨.error e, rfl, hs⟩

/-- From the second step on less is asked of the states. -/
theorem bindTo {R' : β → β → Prop} {f g : α → Operation σ ε β}
    (hx : (x m s).Alike S R (y m' s')) (hS : ∀ t t', S t t' → S' t t')
    (hf : ∀ a b t t', R a b → S t t' → (f a m t).Alike S' R' (g b m' t')) :
    ((x >>= f) m s).Alike S' R' ((y >>= g) m' s') := by
  have hresult := hx.result
  cases hr : (x m s).result with
  | ok a =>
    cases hr' : (y m' s').result with
    | ok b =>
      rw [hr, hr'] at hresult
      cases hresult with
      | ok h =>
        have hnext := hf a b _ _ h hx.state
        rw [Operation.bind_ok hr, Operation.bind_ok hr', hx.signals, hnext.signals]
        exact ⟨hnext.result, rfl, hnext.state⟩
    | error e =>
      rw [hr, hr'] at hresult
      cases hresult
  | error e =>
    rw [Operation.bind_error hr, Operation.bind_error ((hresult.error_iff e).mp hr)]
    exact ⟨.error e, hx.signals, hS _ _ hx.state⟩

theorem bind {R' : β → β → Prop} {f g : α → Operation σ ε β}
    (hx : (x m s).Alike S R (y m' s'))
    (hf : ∀ a b t t', R a b → S t t' → (f a m t).Alike S R' (g b m' t')) :
    ((x >>= f) m s).Alike S R' ((y >>= g) m' s') :=
  hx.bindTo (fun _ _ h => h) hf

theorem bind_pure {R' : β → β → Prop} {f g : α → β} (hx : (x m s).Alike S R (y m' s'))
    (hf : ∀ a b, R a b → R' (f a) (g b)) :
    ((x >>= fun a => Pure.pure (f a)) m s).Alike S R' ((y >>= fun b => Pure.pure (g b)) m' s') :=
  hx.bind fun a b _ _ h hs => .pure hs (hf a b h)

theorem map {R' : β → β → Prop} {f g : α → β} (hx : (x m s).Alike S R (y m' s'))
    (hf : ∀ a b, R a b → R' (f a) (g b)) :
    ((f <$> x) m s).Alike S R' ((g <$> y) m' s') := by
  rw [← bind_pure_comp, ← bind_pure_comp]
  exact hx.bind_pure hf

theorem moment (hs : S s s') :
    ((Operation.moment : Operation σ ε Moment) m s).Alike S (fun n n' => n = m ∧ n' = m')
      (Operation.moment m' s') :=
  ⟨.ok ⟨rfl, rfl⟩, rfl, hs⟩

theorem mapError (h : (x m s).Alike S R (y m' s')) (f : ε → ε') :
    (x.mapError f m s).Alike S R (y.mapError f m' s') :=
  ⟨h.result.mapError f, h.signals, h.state⟩

/-- A failure that is looked at is the same one. -/
theorem attempt (h : (x m s).Alike S R (y m' s')) :
    ((x.attempt : Operation σ ε' (Except ε α)) m s).Alike S (SameResult R) (y.attempt m' s') :=
  ⟨.ok h.result, h.signals, h.state⟩

theorem traced (h : (x m s).Alike S R (y m' s')) (span : String) (fields : Fields)
    (message : ε → String) :
    (x.traced span fields message m s).Alike S R (y.traced span fields message m' s') := by
  obtain ⟨hresult, hsignals, hstate⟩ := h
  refine ⟨hresult, ?_, hstate⟩
  simp only [Operation.traced, hsignals]
  -- the report of a failure shows the error, which is the same
  generalize (x m s).result = r at hresult ⊢
  generalize (y m' s').result = r' at hresult ⊢
  cases hresult with
  | ok h => rfl
  | error e => rfl

end Outcome.Alike

end Accounts

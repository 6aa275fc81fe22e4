import Accounts.Slot

/-!
# Operations without their trace

Where nobody looks at the signals, an operation gives a result and the next state, one step
after the other until one fails. Of the signals the notes are those that layers and subscribers
take; spans and events are none.
-/

namespace Accounts

namespace Operation

variable {σ ε ε' α β : Type} {m : Moment} {s : σ}

/-- The result and the next state. -/
def quiet (x : Operation σ ε α) (m : Moment) (s : σ) : Except ε α × σ :=
  ((x m s).result, (x m s).state)

theorem ofExcept_run (r : Except ε α) : (ofExcept r : Operation σ ε α) m s = ⟨r, [], s⟩ := by
  cases r <;> rfl

/-- An operation that shows nothing and changes nothing goes on with its result. -/
theorem bind_of_run {x : Operation σ ε α} {a : α} (h : x m s = ⟨.ok a, [], s⟩)
    (f : α → Operation σ ε β) : (x >>= f) m s = f a m s := by
  rw [bind_ok (by rw [h]), h]
  rfl

theorem bind_return_run (x : Operation σ ε α) (f : α → β) :
    (do return f (← x) : Operation σ ε β) m s =
      ⟨(x m s).result.map f, (x m s).signals, (x m s).state⟩ := by
  simp only [bind_run, Operation.bind, pure_run, List.append_nil]
  cases (x m s).result <;> rfl

@[simp] theorem quiet_bind (x : Operation σ ε α) (f : α → Operation σ ε β) :
    (x >>= f).quiet m s =
      match x.quiet m s with
      | (.ok a, s') => (f a).quiet m s'
      | (.error e, s') => (.error e, s') := by
  simp only [quiet, bind_run, Operation.bind]
  cases (x m s).result <;> rfl

@[simp] theorem quiet_pure (a : α) :
    (Pure.pure a : Operation σ ε α).quiet m s = (.ok a, s) := rfl

@[simp] theorem quiet_map (f : α → β) (x : Operation σ ε α) :
    (f <$> x).quiet m s = ((x.quiet m s).1.map f, (x.quiet m s).2) := by
  rw [← bind_pure_comp, quiet_bind]
  obtain ⟨_ | _, _⟩ := x.quiet m s <;> rfl

@[simp] theorem quiet_ofExcept (r : Except ε α) :
    (ofExcept r : Operation σ ε α).quiet m s = (r, s) := by
  cases r <;> rfl

@[simp] theorem quiet_emit (signal : Signal) :
    (emit signal : Operation σ ε Unit).quiet m s = (.ok (), s) := rfl

@[simp] theorem quiet_moment : (moment : Operation σ ε Moment).quiet m s = (.ok m, s) := rfl

@[simp] theorem quiet_mapError (f : ε → ε') (x : Operation σ ε α) :
    (x.mapError f).quiet m s = ((x.quiet m s).1.mapError f, (x.quiet m s).2) := rfl

@[simp] theorem quiet_attempt (x : Operation σ ε α) :
    (x.attempt : Operation σ ε' (Except ε α)).quiet m s =
      (.ok (x.quiet m s).1, (x.quiet m s).2) := rfl

@[simp] theorem quiet_traced (span : String) (fields : Fields) (message : ε → String)
    (x : Operation σ ε α) : (traced span fields message x).quiet m s = x.quiet m s := rfl

-- ---------------------------------------------------------------------------
-- Notes
-- ---------------------------------------------------------------------------

/-- The notes that are taken while the operation runs. -/
def notes (x : Operation σ ε α) (m : Moment) (s : σ) : List String :=
  (x m s).signals.filterMap Signal.noteText?

theorem notes_bind (x : Operation σ ε α) (f : α → Operation σ ε β) :
    (x >>= f).notes m s =
      x.notes m s ++
        match x.quiet m s with
        | (.ok a, s') => (f a).notes m s'
        | (.error _, _) => [] := by
  simp only [notes, quiet, bind_run, Operation.bind]
  cases (x m s).result with
  | ok a => exact List.filterMap_append
  | error e => exact (List.append_nil _).symm

@[simp] theorem notes_moment : (moment : Operation σ ε Moment).notes m s = [] := rfl

@[simp] theorem notes_mapError (f : ε → ε') (x : Operation σ ε α) :
    (x.mapError f).notes m s = x.notes m s := rfl

@[simp] theorem notes_attempt (x : Operation σ ε α) :
    (x.attempt : Operation σ ε' (Except ε α)).notes m s = x.notes m s := rfl

@[simp] theorem notes_traced (span : String) (fields : Fields) (message : ε → String)
    (x : Operation σ ε α) : (traced span fields message x).notes m s = x.notes m s := by
  simp only [notes, traced]
  cases (x m s).result <;> simp [List.filterMap_cons, Signal.noteText?, Signal.failure]

end Operation

-- ---------------------------------------------------------------------------
-- Operations on a part
-- ---------------------------------------------------------------------------

namespace Slot

variable {σ α ε β : Type} (p : Slot σ α) (x : Operation α ε β) {m : Moment} {s : σ}

theorem lift_quiet :
    (p.lift x).quiet m s = ((x.quiet m (p.get s)).1, p.set (x.quiet m (p.get s)).2 s) := rfl

theorem lift_notes : (p.lift x).notes m s = x.notes m (p.get s) := rfl

end Slot

end Accounts

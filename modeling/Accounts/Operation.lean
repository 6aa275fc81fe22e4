import Accounts.Bcrypt.Hash
import Accounts.Signal
import Accounts.Time
import Accounts.Uuid

/-!
# Operations

An operation runs at a moment and in a state. It gives a result or an error, the signals it
emitted in order, and the next state. An error ends an operation; what it emitted and changed
until then stays.
-/

namespace Accounts

/-- What the surroundings lend to one operation: the time, a fresh id, a fresh salt, and the hash
of a secret that nobody knows. -/
structure Moment where
  now : Timestamp
  id : Uuid
  salt : Bcrypt.Salt
  reference : Option String
  deriving DecidableEq, Repr

structure Outcome (σ ε α : Type) where
  result : Except ε α
  signals : List Signal
  state : σ

def Operation (σ ε α : Type) : Type :=
  Moment → σ → Outcome σ ε α

namespace Operation

variable {σ ε α β : Type}

def pure (a : α) : Operation σ ε α := fun _ s =>
  ⟨.ok a, [], s⟩

def bind (x : Operation σ ε α) (f : α → Operation σ ε β) : Operation σ ε β := fun m s =>
  match (x m s).result with
  | .error e => ⟨.error e, (x m s).signals, (x m s).state⟩
  | .ok a =>
    let next := f a m (x m s).state
    ⟨next.result, (x m s).signals ++ next.signals, next.state⟩

instance : Monad (Operation σ ε) where
  pure := Operation.pure
  bind := Operation.bind

def fail (e : ε) : Operation σ ε α := fun _ s =>
  ⟨.error e, [], s⟩

def ofExcept : Except ε α → Operation σ ε α
  | .ok a => pure a
  | .error e => fail e

def emit (signal : Signal) : Operation σ ε Unit := fun _ s =>
  ⟨.ok (), [signal], s⟩

def note (text : String) : Operation σ ε Unit :=
  emit (.note text)

def moment : Operation σ ε Moment := fun m s =>
  ⟨.ok m, [], s⟩

/-- The state. -/
def read : Operation σ ε σ := fun _ s =>
  ⟨.ok s, [], s⟩

def write (s : σ) : Operation σ ε Unit := fun _ _ =>
  ⟨.ok (), [], s⟩

/-- The same operation, with its errors seen from outside. -/
def mapError {ε' : Type} (f : ε → ε') (x : Operation σ ε α) : Operation σ ε' α := fun m s =>
  let o := x m s
  ⟨o.result.mapError f, o.signals, o.state⟩

/-- Runs an operation that may fail, and goes on with its result. -/
def attempt {ε' : Type} (x : Operation σ ε α) : Operation σ ε' (Except ε α) := fun m s =>
  let o := x m s
  ⟨.ok o.result, o.signals, o.state⟩

/-- Runs an operation in a span of its own; a failure is reported before the span is closed. -/
def traced (span : String) (fields : Fields) (message : ε → String) (x : Operation σ ε α) :
    Operation σ ε α := fun m s =>
  let o := x m s
  let report := match o.result with
    | .ok _ => []
    | .error e => [Signal.failure (message e)]
  ⟨o.result, .opened span fields :: o.signals ++ report ++ [.closed span], o.state⟩

section Laws

variable {m : Moment} {s : σ}

@[simp] theorem pure_run (a : α) : (Pure.pure a : Operation σ ε α) m s = ⟨.ok a, [], s⟩ := rfl

theorem bind_run (x : Operation σ ε α) (f : α → Operation σ ε β) :
    (x >>= f) m s = Operation.bind x f m s := rfl

theorem bind_ok {x : Operation σ ε α} {f : α → Operation σ ε β} {a : α}
    (h : (x m s).result = .ok a) :
    (x >>= f) m s =
      ⟨(f a m (x m s).state).result, (x m s).signals ++ (f a m (x m s).state).signals,
        (f a m (x m s).state).state⟩ := by
  rw [bind_run, Operation.bind, h]

theorem bind_error {x : Operation σ ε α} {f : α → Operation σ ε β} {e : ε}
    (h : (x m s).result = .error e) :
    (x >>= f) m s = ⟨.error e, (x m s).signals, (x m s).state⟩ := by
  rw [bind_run, Operation.bind, h]

@[simp] theorem fail_run (e : ε) : (fail e : Operation σ ε α) m s = ⟨.error e, [], s⟩ := rfl

@[simp] theorem emit_run (signal : Signal) :
    (emit signal : Operation σ ε Unit) m s = ⟨.ok (), [signal], s⟩ := rfl

@[simp] theorem moment_run : (moment : Operation σ ε Moment) m s = ⟨.ok m, [], s⟩ := rfl

@[simp] theorem read_run : (read : Operation σ ε σ) m s = ⟨.ok s, [], s⟩ := rfl

@[simp] theorem write_run (s' : σ) : (write s' : Operation σ ε Unit) m s = ⟨.ok (), [], s'⟩ := rfl

end Laws

theorem pure_bind (a : α) (f : α → Operation σ ε β) : Operation.bind (Operation.pure a) f = f a := by
  funext m s
  simp [Operation.bind, Operation.pure]

theorem bind_assoc {γ : Type} (x : Operation σ ε α) (f : α → Operation σ ε β)
    (g : β → Operation σ ε γ) :
    Operation.bind (Operation.bind x f) g = Operation.bind x fun a => Operation.bind (f a) g := by
  funext m s
  simp only [Operation.bind]
  cases (x m s).result with
  | error e => rfl
  | ok a =>
    cases h : (f a m (x m s).state).result <;> simp [h, List.append_assoc]

instance : LawfulMonad (Operation σ ε) := by
  refine LawfulMonad.mk' _ ?_ pure_bind bind_assoc
  intro α x
  funext m s
  change Operation.bind x _ m s = _
  unfold Operation.bind
  cases h : (x m s).result <;> simp [Operation.pure, ← h]

end Operation

end Accounts

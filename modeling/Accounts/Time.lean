/-!
# Points in time
-/

namespace Accounts

/-- Microseconds since the epoch. -/
structure Timestamp where
  micros : Int
  deriving DecidableEq, Repr

namespace Timestamp

/-- Not after. -/
def le (a b : Timestamp) : Prop :=
  a.micros ≤ b.micros

instance : LE Timestamp := ⟨le⟩

instance (a b : Timestamp) : Decidable (a ≤ b) :=
  inferInstanceAs (Decidable (a.micros ≤ b.micros))

end Timestamp

end Accounts
